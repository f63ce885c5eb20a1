import EspCoordinator.Lib.Run
import EspCoordinator.Protocol.Lemmas

namespace EspCoordinator.Protocol.Delivery

-- A data frame of the host as it is sent first. `number` tells frames with
-- the same contents apart; it is not on the wire.
structure Frame where
  number : Nat
  hdr : NcpHeader
  data : List UInt8
  isAck : hdr.isAck = false
  isNack : hdr.isNack = false
  packetType : hdr.packetType = ZBOSS_NCP_API_HL
deriving DecidableEq

def Frame.seq (frame : Frame) : Fin 4 := frame.hdr.packetSeq

-- On a data frame the is_nack bit is the RETRANSMIT flag.
def Frame.wireHdr (frame : Frame) (again : Bool) : NcpHeader :=
  if again then { frame.hdr with isNack := true }.withCrc else frame.hdr

-- What is on its way to the NCP.
inductive Packet where
  | copy (frame : Frame) (again : Bool)
  | damaged (hdr : NcpHeader)
  -- an ACK or NACK of the host for a data frame of the NCP
  | reply (hdr : NcpHeader)
deriving DecidableEq

namespace Packet

def item : Packet → Item
  | copy frame again => .packet (frame.wireHdr again) frame.data
  | damaged hdr => .badData hdr
  | reply hdr => .empty hdr

def frame? : Packet → Option Frame
  | copy frame _ => some frame
  | _ => none

-- The payload no longer matches its CRC.
def damage : Packet → Packet
  | copy frame again => damaged (frame.wireHdr again)
  | packet => packet

end Packet

structure Net where
  -- every frame the host has sent, and those it has seen an ACK for
  sent : List Frame
  acked : List Frame
  -- the host resends the frame it sent last while it is waiting
  waiting : Bool
  toNcp : List Packet
  ncp : Link
  toHost : List NcpHeader
  -- what went to app::on_rx_data, with the frame it was a copy of
  dispatched : List (Option Frame × List UInt8)
deriving DecidableEq

def init : Net :=
  { sent := [], acked := [], waiting := false, toNcp := [], ncp := initInt.link, toHost := [],
    dispatched := [] }

inductive Label where
  | hostSend (frame : Frame)
  | hostResend
  | hostReply (hdr : NcpHeader)
  | hostRx
  | ncpRx
  | ncpSend (data : List UInt8)
  -- a frame with a damaged header is as good as lost
  | loseToNcp (index : Nat)
  | damageToNcp (index : Nat)
  | loseToHost (index : Nat)
deriving DecidableEq

def ncpHandle (s : Net) (packet : Packet) : Net :=
  let (link, actions) := handle s.ncp packet.item
  { s with
    ncp := link
    toHost := s.toHost ++ responses actions
    dispatched := s.dispatched ++ (dispatched actions).map (packet.frame?, ·) }

def hostHandle (s : Net) (rsp : NcpHeader) : Net :=
  match s.sent.getLast? with
  | none => s
  | some frame =>
      if s.waiting ∧ rsp.ack? = some frame.seq then
        { s with waiting := false, acked := s.acked ++ [frame] }
      else s

-- The ACK of a frame leaves when the app task gets back to its queue, and
-- on_rx_packet has dispatched the payload before that. So one step does both.
def step (s : Net) : Label → Option Net
  | .hostSend frame =>
      if s.waiting = false ∧ frame.number = s.sent.length ∧
          s.sent.getLast?.map Frame.seq ≠ some frame.seq then
        some { s with
          sent := s.sent ++ [frame]
          waiting := true
          toNcp := s.toNcp ++ [.copy frame false] }
      else none
  | .hostResend =>
      match s.sent.getLast? with
      | some frame =>
          if s.waiting then some { s with toNcp := s.toNcp ++ [.copy frame true] } else none
      | none => none
  | .hostReply hdr =>
      if hdr.isAck then some { s with toNcp := s.toNcp ++ [.reply hdr] } else none
  | .hostRx =>
      match s.toHost with
      | rsp :: rest => some (hostHandle { s with toHost := rest } rsp)
      | [] => none
  | .ncpRx =>
      match s.toNcp with
      | packet :: rest => some (ncpHandle { s with toNcp := rest } packet)
      | [] => none
  | .ncpSend data =>
      match sendDataInt s.ncp data with
      | (link, .frame hdr _) => some { s with ncp := link, toHost := s.toHost ++ [hdr] }
      | _ => some s
  | .loseToNcp index => some { s with toNcp := s.toNcp.eraseIdx index }
  | .damageToNcp index => some { s with toNcp := s.toNcp.modify index Packet.damage }
  | .loseToHost index => some { s with toHost := s.toHost.eraseIdx index }

end EspCoordinator.Protocol.Delivery
