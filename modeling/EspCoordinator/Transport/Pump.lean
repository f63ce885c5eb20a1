import EspCoordinator.Lib.Run
import EspCoordinator.Transport
import Mathlib.Logic.Function.Basic

namespace EspCoordinator.Transport.Pump

-- of transport, the size of the read buffers
def BUF_SIZE : Nat := 1024

inductive Iface where
  | usb
  | uart
deriving DecidableEq, Repr

-- What an RX task has read.
structure Chunk where
  data : List UInt8
  nonempty : 0 < data.length
  fits : data.length ≤ BUF_SIZE
deriving DecidableEq

-- Where the holder of m_output_sem is in the loop of rx_pump; `rest` is what
-- it has not sent yet.
inductive Loop where
  | sending (rest : List UInt8)
  | posting (sent : Nat) (rest : List UInt8) (tries : Nat)
deriving DecidableEq, Repr

inductive App where
  | idle
  -- in output_receive
  | receiving (size : Nat)
  -- in the rest of process_event or in the watchdog
  | busy
  | restarting
deriving DecidableEq, Repr

structure State where
  outputBuf : List UInt8
  queue : List Ctx
  -- the calls of rx_pump that wait for m_output_sem
  waiting : Iface → Option Chunk
  holder : Option (Iface × Loop)
  app : App
  draining : Bool
  -- what xStreamBufferSend took, and what went to protocol::on_rx
  accepted : List UInt8
  passed : List UInt8

def init : State :=
  { outputBuf := [], queue := [], waiting := fun _ => none, holder := none, app := .idle,
    draining := false, accepted := [], passed := [] }

inductive Label where
  | call (iface : Iface) (chunk : Chunk)
  | lock (iface : Iface)
  | send
  | post
  -- a sender posts EVENT_INPUT, the NCP_RESET handler EVENT_RESET
  | otherPost (ctx : Ctx)
  | take
  | receive
  | receiveTimeout
  | wake
  | finish
deriving DecidableEq

-- `while (off < readed)`
def Loop.next (iface : Iface) (rest : List UInt8) : Option (Iface × Loop) :=
  if rest = [] then none else some (iface, .sending rest)

def step (s : State) : Label → Option State
  | .call iface chunk =>
      if s.waiting iface = none ∧ s.holder.map Prod.fst ≠ some iface then
        some { s with waiting := Function.update s.waiting iface (some chunk) }
      else none
  | .lock iface =>
      match s.waiting iface, s.holder with
      | some chunk, none =>
          some { s with
            waiting := Function.update s.waiting iface none
            holder := Loop.next iface chunk.data }
      | _, _ => none
  | .send =>
      match s.holder with
      | some (iface, .sending rest) =>
          let (outputBuf, sent) := streamBufferSend s.outputBuf rest
          -- the buffer stayed full: the rest is dropped
          if sent = 0 then some { s with holder := none }
          else
            some { s with
              outputBuf
              holder := some (iface, .posting sent (rest.drop sent) (RINGBUF_TIMEOUT_MS / 10))
              accepted := s.accepted ++ rest.take sent }
      | _ => none
  | .post =>
      match s.holder with
      | some (iface, .posting sent rest tries) =>
          match sendEventInt s.queue { event := .output, size := sent } with
          | (queue, .ok) => some { s with queue, holder := Loop.next iface rest }
          | (_, .fail) =>
              if tries > 0 then
                some { s with holder := some (iface, .posting sent rest (tries - 1)) }
              else some { s with holder := Loop.next iface rest }
      | _ => none
  | .otherPost ctx =>
      if ctx.event = .output then none
      else some { s with queue := (sendEventInt s.queue ctx).1 }
  | .take =>
      if s.app = .idle then
        match s.queue with
        | [] => if s.draining then some { s with app := .restarting } else none
        | ctx :: queue =>
            -- process_event
            if ctx.size > BUFFER_SIZE then some { s with queue }
            else
              match ctx.event with
              | .input => some { s with queue, app := .busy }
              | .output => some { s with queue, app := .receiving ctx.size }
              | .reset => some { s with queue, draining := true }
      else none
  | .receive =>
      match s.app with
      | .receiving size =>
          -- a read from the empty buffer waits
          if s.outputBuf = [] then none
          else
            let data := s.outputBuf.take size
            let s := { s with outputBuf := s.outputBuf.drop size }
            if data.length ≠ size then some { s with app := .idle }
            else some { s with app := .busy, passed := s.passed ++ data }
      | _ => none
  | .receiveTimeout =>
      match s.app with
      | .receiving _ => if s.outputBuf = [] then some { s with app := .idle } else none
      | _ => none
  | .wake => if s.app = .idle ∧ s.draining = false then some { s with app := .busy } else none
  | .finish => if s.app = .busy then some { s with app := .idle } else none

end EspCoordinator.Transport.Pump
