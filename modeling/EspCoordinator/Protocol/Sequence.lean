import EspCoordinator.Lib.Run
import EspCoordinator.Protocol.Lemmas
import EspCoordinator.Transport.Path

namespace EspCoordinator.Protocol.Sequence

open Bytes
open Transport (capacityWait RINGBUF_TIMEOUT_MS)
open Transport.Path (Task)

-- A call of send_ack, send_nack or send_data_int.
inductive Op where
  | ack (hdr : NcpHeader)
  | nack (hdr : NcpHeader)
  | data (payload : List UInt8)
deriving DecidableEq

-- What transport::send gets, the header and what is behind it.
structure Frame where
  hdr : NcpHeader
  body : List UInt8
deriving DecidableEq

def Frame.bytes (frame : Frame) : List UInt8 := frame.hdr.bytes ++ frame.body

def Op.frame (link : Link) : Op → Option Frame
  | .ack hdr => (responses (sendAck link hdr).2).head?.map fun rsp => { hdr := rsp, body := [] }
  | .nack hdr => (responses (sendNack link hdr).2).head?.map fun rsp => { hdr := rsp, body := [] }
  | .data payload =>
      match (sendDataInt link payload).2 with
      | .frame hdr sent => some { hdr, body := toLE 2 (Utils.crc16 sent).toNat ++ sent }
      | .nothing => none
      | .tooLong => none

-- How far the holder of m_tx_sem is.
inductive Stage where
  | locked (op : Op)
  -- the header has its packet_seq
  | built (frame : Frame)
  -- m_tx_seq has been advanced
  | advanced (frame : Frame)
deriving DecidableEq

structure State where
  link : Link
  -- the calls that wait for m_tx_sem
  waiting : Task → Option Op
  -- m_tx_sem
  holder : Option (Task × Stage)
  -- the frames transport::send was called with, and whether m_input_buf took them
  sends : List (Frame × Bool)

def init : State :=
  { link := initInt.link, waiting := fun _ => none, holder := none, sends := [] }

-- `spaces` is the free space of m_input_buf as the capacity wait finds it.
inductive Label where
  | call (task : Task) (op : Op)
  | lock (task : Task)
  | build
  | advance
  | send (spaces : Nat → Nat)

def step (s : State) : Label → Option State
  | .call task op =>
      if s.waiting task = none ∧ s.holder.map Prod.fst ≠ some task then
        match op.frame s.link with
        -- no data or too much of it
        | none => some s
        | some _ => some { s with waiting := Function.update s.waiting task (some op) }
      else none
  | .lock task =>
      match s.waiting task, s.holder with
      | some op, none =>
          some { s with
            waiting := Function.update s.waiting task none, holder := some (task, .locked op) }
      | _, _ => none
  | .build =>
      match s.holder with
      | some (task, .locked op) =>
          (op.frame s.link).map fun frame => { s with holder := some (task, .built frame) }
      | _ => none
  | .advance =>
      match s.holder with
      | some (task, .built frame) =>
          some { s with
            link := { s.link with txSeq := nextSeq s.link.txSeq }
            holder := some (task, .advanced frame) }
      | _ => none
  | .send spaces =>
      match s.holder with
      | some (_, .advanced frame) =>
          let accepted := capacityWait spaces frame.bytes.length (RINGBUF_TIMEOUT_MS / 10)
          some { s with holder := none, sends := s.sends ++ [(frame, accepted)] }
      | _ => none

end EspCoordinator.Protocol.Sequence
