import EspCoordinator.BindTableTool.Network
import EspCoordinator.Session

-- txn of bind_table_tool.py on the bytes of the port
namespace EspCoordinator.BindTableTool

open Bytes
open Protocol (HEADER_SIZE Link NcpHeader)
open Restore (Layout)

-- What stands behind the CRC of the data
def inner (req : Request) : List UInt8 :=
  [0, 0] ++ toLE 2 req.cmdId.toNat ++ [req.tsn] ++ req.payload

-- The sequence number is 0 in every request.
def buildRequest (req : Request) : List UInt8 :=
  let packetLen := 7 + (inner req).length
  let hdr := toLE 2 packetLen ++ [0x06, 0xC0]
  [0xDE, 0xAD] ++ hdr ++ [crc8 hdr] ++ toLE 2 (crc16 (inner req)) ++ inner req

-- What the loop of txn finds at buf[i].
inductive Piece where
  -- a byte that is passed over
  | other
  | frame (f : List UInt8)
deriving DecidableEq, Repr

def scan (buf : List UInt8) : Scan UInt8 Piece :=
  if buf.length < 9 then .wait buf
  else if buf.getD 0 0 ≠ 0xDE ∨ buf.getD 1 0 ≠ 0xAD then .item .other (buf.drop 1)
  else
    let plen := ofLE ((buf.drop 2).take 2)
    let flen := 2 + plen
    if flen > buf.length then .wait buf else .item (.frame (buf.take flen)) (buf.drop flen)

theorem scan_shrinks {buf rest : List UInt8} {piece : Piece} (h : scan buf = .item piece rest) :
    rest.length < buf.length := by
  unfold scan at h
  dsimp only at h
  split_ifs at h <;> simp only [Scan.item.injEq] at h <;>
    (obtain ⟨-, rfl⟩ := h; simp only [List.length_drop]; omega)

def scanner : Scanner UInt8 Piece := ⟨scan, scan_shrinks⟩

-- How txn ends at a frame, if it does. A frame without a flags byte raises.
def examine (cmdId : UInt16) : Piece → Option (Except Exit Answer)
  | .other => none
  | .frame f =>
      match f[5]? with
      | none => some (.error .raised)
      | some flags =>
          if flags &&& 0x01 ≠ 0 then none
          else (readAnswer cmdId (f.drop 9)).map .ok

inductive Pass where
  | wait (buf : List UInt8)
  | ended (r : Except Exit Answer)

-- The inner loop
def framePass (cmdId : UInt16) (buf : List UInt8) : Pass :=
  match _h : scan buf with
  | .wait buf => .wait buf
  | .item piece rest =>
      match examine cmdId piece with
      | some r => .ended r
      | none => framePass cmdId rest
termination_by buf.length
decreasing_by exact scan_shrinks _h

-- The outer loop, with what port.read returns until the deadline
def awaitAnswer (cmdId : UInt16) (buf : List UInt8) :
    List (List UInt8) → Except Exit (Option Answer)
  | [] => .ok none
  | chunk :: reads =>
      match framePass cmdId (buf ++ chunk) with
      | .wait buf => awaitAnswer cmdId buf reads
      | .ended r => r.map some

structure Ind where
  cmd : CommandId
  known : cmd ∈ ZbNcp.indications
  data : List UInt8

-- A frame as long as it says
structure Framed (f : List UInt8) : Prop where
  signature : ∃ tail, f = 0xDE :: 0xAD :: tail
  plen : ofLE ((f.drop 2).take 2) + 2 = f.length
  header : 7 ≤ f.length

-- The beginning of a frame, of which the rest is still to come
structure Begun where
  frame : List UInt8
  framed : Framed frame
  count : Nat
  short : count < frame.length

-- A frame that the firmware has sent before, and that is no response
inductive Straggler where
  | ack (rsp : NcpHeader) (hpacket : rsp.packetLen = 5) (hack : rsp.isAck = true)
  -- with the state in which it has found the link
  | indication (link : Link) (ind : Ind)

-- What the link and the rest of the firmware do during one exchange
structure Timing where
  -- where the request and what comes back are cut
  toDevice : List Nat
  toTool : List Nat
  -- the rest of a frame whose first bytes reset_input_buffer has dropped
  torn : List UInt8
  -- in front of each of the late responses, the other frames that are late, and
  -- the state in which it has found the link itself
  stragglers : Nat → List Straggler
  sentFrom : Nat → Link
  -- so many late responses come before the acknowledgement of the request
  early : Nat
  -- the indications that are sent before the response, and behind it
  before : List Ind
  after : List Ind
  -- If the response has not arrived at the deadline, there is the beginning of a
  -- late frame, or so much of what the firmware sends in this exchange.
  begun : Option Begun
  arrived : Nat

def chunks : List Nat → List UInt8 → List (List UInt8)
  | [], bytes => [bytes]
  | count :: counts, bytes => bytes.take count :: chunks counts (bytes.drop count)

def payloads (inds : List Ind) : List (List UInt8) :=
  inds.filterMap fun ind => ZbNcp.indication ind.cmd ind.data

def Straggler.bytes : Straggler → List UInt8
  | ack rsp _ _ => rsp.withCrc.bytes
  | indication link ind => (Session.sendAll link (payloads [ind])).2

-- The bytes of the late frames, from the one with the given number on
def Timing.late (time : Timing) : Nat → List (List UInt8) → List UInt8
  | number, [] => (time.stragglers number).flatMap Straggler.bytes
  | number, payload :: rest =>
      (time.stragglers number).flatMap Straggler.bytes ++
        (Session.sendData (time.sentFrom number) payload).2 ++ time.late (number + 1) rest

variable {L : Layout}

-- A request that comes in, with the frames that are sent until it is done with
def handlers (net : Network L) (fate : Fate) (before : List Ind) : ZbNcp.Handlers State :=
  fun _ s cmd buf =>
    let (s, own) := respond net fate s { cmdId := cmd.commandId, payload := buf, tsn := cmd.tsn }
    (s, payloads before ++ own)

variable {σ : Type*}

def receive (handlers : ZbNcp.Handlers σ) (d : Session.Device σ) :
    List (List UInt8) → Session.Device σ × List UInt8
  | [] => (d, [])
  | chunk :: rest =>
      let (d, bytes) := Session.onRx false handlers d chunk
      let (d, more) := receive handlers d rest
      (d, bytes ++ more)

-- The responses to overdue requests are handed to send_data as they come.
def catchUp (net : Network L) (fate : Fate) (d : Session.Device State) : Session.Device State :=
  let app := d.app.catchUp net fate.overdue
  let (link, _) := Session.sendAll d.protocol.link (app.sent.drop d.app.sent.length)
  { protocol := { d.protocol with link }, app }

-- What comes in of the exchange itself
def Timing.ending (time : Timing) (answered : Bool) (own more : List UInt8) : List UInt8 :=
  if answered then own ++ more
  else
    match time.begun with
    | some begun => begun.frame.take begun.count
    | none => own.dropLast.take time.arrived

-- What reset_input_buffer leaves of the stream, up to the deadline. `bytes` is
-- the acknowledgement with what comes behind it.
def Timing.stream (time : Timing) (fate : Fate) (late : List (List UInt8))
    (bytes more : List UInt8) : List UInt8 :=
  let acked := if time.early < late.length then HEADER_SIZE else 0
  time.torn ++ time.late 0 (late.take time.early) ++ bytes.take acked ++
    time.late (time.early + 1) (late.drop time.early) ++
      time.ending fate.answered (bytes.drop acked) more

-- One call of txn
def exchange (net : Network L) (timing : Nat → Timing) (d : Session.Device State)
    (req : Request) : Session.Device State × Except Exit (Option Answer) :=
  let fate := net.fate d.app.asked.length
  let time := timing d.app.asked.length
  let d := catchUp net fate d
  let late := d.app.late fate.stale
  let (d, bytes) :=
    receive (handlers net fate time.before) d (chunks time.toDevice (buildRequest req))
  let (link, more) := Session.sendAll d.protocol.link (payloads time.after)
  ({ d with protocol := { d.protocol with link } },
    awaitAnswer req.cmdId [] (chunks time.toTool (time.stream fate late bytes more)))

end EspCoordinator.BindTableTool
