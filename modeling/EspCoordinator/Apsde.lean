import EspCoordinator.Lib.Bytes
import EspCoordinator.Lib.Run
import EspCoordinator.Reply
import EspCoordinator.Requests
import EspCoordinator.Transport

namespace EspCoordinator.Apsde

open Resolver Requests Transport

def RET_OK : UInt32 := 0

def APSDE_WATCHDOG_TIMEOUT_MS : Nat := 20000
def MAX_APSDE_DATA_REQ_SIZE : Nat := 256

-- sizeof apsde_data_req_arg_t, apsde_data_req_arg_nep_t and APSDE_DATA_REQ_max_arg_t
def ARG_SIZE : Nat := 1 + 2 + 21
def NEP_ARG_SIZE : Nat := 1 + 2 + 20
def MAX_ARG_SIZE : Nat := ARG_SIZE + MAX_APSDE_DATA_REQ_SIZE

-- A request_t keeps the bytes of its argument.
abbrev Arg := List UInt8

def paramLength (arg : Arg) : UInt8 := arg.getD 0 0

def dataLength (arg : Arg) : Nat := Bytes.ofLE ((arg.drop 1).take 2)

-- The header of an argument without dst_endpoint is one byte shorter.
def hdrSize (arg : Arg) : Nat := if paramLength arg = 21 then ARG_SIZE else NEP_ARG_SIZE

-- The checks of process, in its order.
def checkFrame (buffer : List UInt8) : Bool :=
  if buffer.length < NEP_ARG_SIZE then false
  else if buffer.length > MAX_ARG_SIZE then false
  else if paramLength buffer ≠ 20 ∧ paramLength buffer ≠ 21 then false
  else if buffer.length < hdrSize buffer then false
  else if dataLength buffer ≠ buffer.length - hdrSize buffer ∨
      dataLength buffer > MAX_APSDE_DATA_REQ_SIZE then false
  else if dataLength buffer < 2 then false
  else true

-- memcpy(&req->arg, buffer, len)
def copyArg (arg : Arg) (buffer : List UInt8) : Arg := buffer ++ arg.drop buffer.length

-- arg.data[1]
def zclTsn (arg : Arg) : UInt8 := arg.getD (hdrSize arg + 1) 0

-- apsde_sent_t
structure Sent where
  old : UInt32
  idx : UInt8
  valid : Bool
deriving DecidableEq, Repr

-- The parts of zb_apsde_data_resp_t that are used.
structure DataResp where
  addr : List UInt8
  dstEndpoint : UInt8
  srcEndpoint : UInt8
  txTime : UInt32
  dstAddrMode : UInt8
  status : UInt8
deriving DecidableEq, Repr

def handleResponse (req : Request Arg) (resp : DataResp) : Frame :=
  { cmd := req.cmd.reply,
    data := [STATUS_CATEGORY_APS, 0] ++ resp.addr.take 8 ++
      (if resp.dstAddrMode = 2 ∨ resp.dstAddrMode = 3 then [resp.dstEndpoint] else []) ++
      [resp.srcEndpoint] ++ Bytes.toLE 4 resp.txTime.toNat ++ [resp.dstAddrMode] }

def failed (cmd : Cmd) (status : UInt8) : Frame := reportFailed STATUS_CATEGORY_GENERIC cmd status

structure State where
  -- `Ret` is the zb_ret_t of the send.
  table : Table Arg UInt32
  -- s_apsde_sent
  sent : UInt8 → Sent
  -- ticks since boot; the tick counter shows the low 32 bits
  now : Nat
  -- The tick that request_watchdog_tick has read, while it has not scanned the
  -- table; its variable has the low 32 bits.
  sampled : Option Nat
  sLast : UInt32
  -- The request of the last successful send on each buffer and the tick at
  -- which each slot entered S_EXEC last. They are not in the code.
  lastSent : UInt8 → Option Nat
  execAt : Slot → Nat

def State.tick (s : State) : UInt32 := UInt32.ofNat s.now

def init : State :=
  { table := Table.init (List.replicate MAX_ARG_SIZE 0),
    sent := fun _ => { old := 0, idx := 0, valid := false }, now := 0, sampled := none, sLast := 0,
    lastSent := fun _ => none, execAt := fun _ => 0 }

inductive Label where
  -- process up to start_resolve, and the rest of it
  | process (request : HostRequest)
  | handOver (accepted : Bool)
  -- do_request on a buffer up to the return of the send, and the rest of it
  | doRequest (idx : Slot) (buf : UInt8) (ret : UInt32)
  | publish
  -- aps_user_payload_callback
  | confirm (param : UInt8) (resp : DataResp)
  -- request_watchdog_tick up to its look at the clock, and the scan
  | watchdog
  | scan
  | tick
deriving DecidableEq, Repr

-- start_request stores the ZCL tsn before the send and the record of the
-- buffer after a send that was accepted. `ret` is what the send returns, be it
-- zb_aps_send_user_payload or send_aps_secured.
def startRequest (s : State) (idx : Slot) (buf : UInt8) (ret : UInt32) : State :=
  let req := s.table.slot idx
  let s := { s with table := (s.table.noteTsn idx (zclTsn req.arg)).start idx ret }
  if ret = RET_OK then
    { s with
      sent := Function.update s.sent buf
        { old := req.old, idx := UInt8.ofNat idx, valid := true },
      lastSent := Function.update s.lastSent buf (some (s.table.owner idx)) }
  else s

def apsUserPayloadCallback (s : State) (param : UInt8) (resp : DataResp) : State :=
  if param = 0 then s
  else
    let sent := s.sent param
    let s := { s with sent := Function.update s.sent param { sent with valid := false } }
    if !sent.valid then s
    else
      match s.table.resolver.resolveTakeAt sent.idx.toUInt16 sent.old with
      | some (idx, req, _) =>
          let frame :=
            if resp.status = 0 then handleResponse req resp else failed req.cmd resp.status
          { s with table := s.table.answer idx frame }
      | none => s

-- The app task runs process and the watchdog, the ZBOSS task everything else.
-- What happens under the resolver's mutex is one step, together with the
-- sending that follows: it works on a copy.
def step (hz : Nat) (s : State) : Label → Option State
  | .process request =>
      if s.table.app.isSome ∨ s.sampled.isSome then none
      else if checkFrame request.buffer then
        let noSlot := failed request.cmd GENERIC_OUT_OF_RANGE
        some { s with table := s.table.claim request noSlot }
      else
        let refusal := failed request.cmd GENERIC_INVALID_PARAMETER
        some { s with table := s.table.refuse request refusal }
  | .handOver accepted =>
      match s.table.app with
      | some (idx, request) =>
          let rejected := failed request.cmd GENERIC_NO_RESOURCES
          let arg := copyArg (s.table.slot idx).arg request.buffer
          some { s with table := s.table.handOver idx arg accepted rejected }
      | none => none
  | .doRequest idx buf ret =>
      if s.table.ready idx then some (startRequest s idx buf ret) else none
  | .publish =>
      match s.table.running with
      | some (idx, ret) =>
          if ret ≠ RET_OK then
            let frame := failed (s.table.slot idx).cmd ret.toUInt8
            some { s with table := s.table.abort idx frame }
          else
            some { s with
              table := s.table.publish idx (s.table.slot idx).tsn s.tick,
              execAt := Function.update s.execAt idx s.now }
      | none => none
  | .confirm param resp =>
      if s.table.running = none then some (apsUserPayloadCallback s param resp) else none
  | .watchdog =>
      if s.table.app.isSome ∨ s.sampled.isSome then none
      else if s.tick - s.sLast < pdMS_TO_TICKS hz 2000 then some s
      else some { s with sLast := s.tick, sampled := some s.now }
  | .scan =>
      match s.sampled with
      | some sample =>
          let timeout := pdMS_TO_TICKS hz APSDE_WATCHDOG_TIMEOUT_MS
          some { s with table := s.table.reclaim (UInt32.ofNat sample) timeout, sampled := none }
      | none => none
  | .tick => some { s with now := s.now + 1 }

end EspCoordinator.Apsde
