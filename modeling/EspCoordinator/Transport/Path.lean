import EspCoordinator.Lib.Run
import EspCoordinator.Transport
import Mathlib.Logic.Function.Basic

namespace EspCoordinator.Transport.Path

-- What the protocol layer hands to transport::send.
structure Frame where
  bytes : List UInt8
  nonempty : bytes ≠ []
  fits : bytes.length ≤ Protocol.MAX_FRAME_SIZE
deriving DecidableEq

inductive Task where
  | app
  | zboss
deriving DecidableEq, Repr

-- Where a task is in send_int. It holds m_input_sem while it waits for room
-- and until its bytes are in the buffer.
inductive Sender where
  | out
  | waiting (frame : Frame) (count : Nat)
  | ready (frame : Frame)
  | committed (frame : Frame)
deriving DecidableEq

inductive App where
  | idle
  -- in protocol::on_rx, the watchdog or the start-up code, which may send
  | busy
  -- in process_input_int
  | reading (size : Nat) (got : List UInt8) (deadline : UInt32)
  | restarting
deriving DecidableEq, Repr

structure State where
  inputBuf : List UInt8
  queue : List Ctx
  senders : Task → Sender
  app : App
  -- EVENT_RESET has been taken: the rest of the queue goes out first
  draining : Bool
  -- ticks since boot; the tick counter shows the low 32 bits
  now : Nat
  -- the calls of write_int
  written : List (List UInt8)

def init : State :=
  { inputBuf := [], queue := [], senders := fun _ => .out, app := .busy, draining := false,
    now := 0, written := [] }

def State.tick (s : State) : UInt32 := UInt32.ofNat s.now

def Sender.holdsSem : Sender → Bool
  | .waiting _ _ => true
  | .ready _ => true
  | _ => false

def State.set (s : State) (task : Task) (sender : Sender) : State :=
  { s with senders := Function.update s.senders task sender }

inductive Label where
  | begin (task : Task) (frame : Frame)
  | poll (task : Task)
  | commit (task : Task)
  | post (task : Task)
  -- one of the RX tasks posts EVENT_OUTPUT
  | rxPost (size : Nat)
  -- the NCP_RESET handler posts EVENT_RESET
  | resetPost
  | take
  | round
  -- the wait for bytes in process_input_int is over
  | roundTimeout
  | wake
  | finish
  | tick
deriving DecidableEq

def step (hz : Nat) (s : State) : Label → Option State
  | .begin task frame =>
      if (s.senders .app).holdsSem || (s.senders .zboss).holdsSem then none
      else if s.senders task ≠ .out then none
      else if task = .app ∧ s.app ≠ .busy then none
      else some (s.set task (.waiting frame (RINGBUF_TIMEOUT_MS / 10)))
  | .poll task =>
      match s.senders task with
      | .waiting frame count =>
          match Transport.poll (spacesAvailable s.inputBuf) frame.bytes.length count with
          | .retry count => some (s.set task (.waiting frame count))
          | .timeout => some (s.set task .out)
          | .ready => some (s.set task (.ready frame))
      | _ => none
  | .commit task =>
      match s.senders task with
      | .ready frame =>
          let (inputBuf, retSize) := streamBufferSend s.inputBuf frame.bytes
          if retSize ≠ frame.bytes.length then some { s.set task .out with inputBuf }
          else some { s.set task (.committed frame) with inputBuf }
      | _ => none
  | .post task =>
      match s.senders task with
      | .committed frame =>
          let ctx := { event := .input, size := frame.bytes.length }
          some { s.set task .out with queue := (sendEventInt s.queue ctx).1 }
      | _ => none
  | .rxPost size =>
      some { s with queue := (sendEventInt s.queue { event := .output, size }).1 }
  | .resetPost =>
      if s.app = .busy then
        some { s with queue := (sendEventInt s.queue { event := .reset, size := 0 }).1 }
      else none
  | .take =>
      if s.app = .idle then
        match s.queue with
        | [] => if s.draining then some { s with app := .restarting } else none
        | ctx :: queue =>
            -- process_event
            if ctx.size > BUFFER_SIZE then some { s with queue }
            else
              match ctx.event with
              | .input =>
                  let deadline := s.tick + pdMS_TO_TICKS hz RINGBUF_TIMEOUT_MS
                  some { s with queue, app := .reading ctx.size [] deadline }
              | .output => some { s with queue, app := .busy }
              | .reset => some { s with queue, draining := true }
      else none
  | .round =>
      match s.app with
      | .reading size got deadline =>
          match inputRound s.tick deadline s.inputBuf size got with
          | .read got inputBuf => some { s with inputBuf, app := .reading size got deadline }
          | .leave =>
              if got.length ≠ size then some { s with app := .idle }
              else some { s with app := .idle, written := s.written ++ [got] }
          | .blocked => none
      | _ => none
  | .roundTimeout =>
      match s.app with
      | .reading size got deadline =>
          if inputRound s.tick deadline s.inputBuf size got = .blocked then
            some { s with app := .idle }
          else none
      | _ => none
  | .wake => if s.app = .idle ∧ s.draining = false then some { s with app := .busy } else none
  | .finish =>
      if s.app = .busy ∧ s.senders .app = .out then some { s with app := .idle } else none
  | .tick => some { s with now := s.now + 1 }

end EspCoordinator.Transport.Path
