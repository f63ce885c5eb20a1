import EspCoordinator.Lib.Bytes
import EspCoordinator.Lib.Run
import EspCoordinator.Requests

namespace EspCoordinator.RequestProcess

open Resolver Requests

-- What one command of the request_cmd_process family brings along.
structure Command (Arg Resp : Type) where
  checkArgSize : List UInt8 → Bool
  arg : List UInt8 → Arg
  getStatus : Resp → UInt8
  getTsn : Resp → UInt8
  -- the rewritten status when the body is declared unusable
  responseBodyIsSynthetic : Request Arg → UInt8 → Option UInt8
  -- what handle_response writes after the header
  handleResponse : Request Arg → Resp → List UInt8
  -- try_intercept_simple_desc_rsp looks in the table of ZDO_SIMPLE_DESC_REQ only.
  isSimpleDesc : Bool

-- Not more than 32 clusters fit the response buffer.
def capCounts (inCount outCount : Nat) : Nat × Nat :=
  if inCount + outCount > 32 then
    if inCount > outCount then capCounts (inCount - 1) outCount
    else capCounts inCount (outCount - 1)
  else (inCount, outCount)
termination_by inCount + outCount

-- The descriptor in the reply of try_intercept_simple_desc_rsp; `sd` starts at
-- its endpoint and `avail` of its bytes can be read.
def simpleDescBody (sd : List UInt8) (avail : Nat) : List UInt8 :=
  let bytesAfterInCount := avail - 7
  let inCount := (sd.getD 6 0).toNat
  let inCount := if inCount * 2 > bytesAfterInCount then bytesAfterInCount / 2 else inCount
  let outCountOff := 7 + 2 * inCount
  let outCount :=
    if avail > outCountOff then
      let outCount := (sd.getD outCountOff 0).toNat
      let bytesAfterOutCount := avail - outCountOff - 1
      if outCount * 2 > bytesAfterOutCount then bytesAfterOutCount / 2 else outCount
    else 0
  let (inCount, outCount) := capCounts inCount outCount
  sd.take 5 ++ [sd.getD 5 0 &&& 0x0F, UInt8.ofNat inCount, UInt8.ofNat outCount] ++
    (sd.drop 7).take (2 * inCount) ++ (sd.drop (8 + 2 * inCount)).take (2 * outCount)

-- What try_intercept_simple_desc_rsp sends after the header; `p` holds tsn,
-- status, nwk_addr and the declared length, then the descriptor.
def simpleDescRsp (p : List UInt8) : List UInt8 :=
  let status := p.getD 1 0
  let avail := min (p.length - 5) (p.getD 4 0).toNat
  [STATUS_CATEGORY_ZDO, status] ++
    (if status = 0 ∧ avail ≥ 7 then simpleDescBody (p.drop 5) avail else []) ++ (p.drop 2).take 2

-- What req_cb sends to the host of the request it has taken.
def reqCbFrame {Arg Resp : Type} (c : Command Arg Resp) (req : Request Arg) (resp : Resp) : Frame :=
  match c.responseBodyIsSynthetic req (c.getStatus resp) with
  | some status => reportFailed STATUS_CATEGORY_ZDO req.cmd status
  | none =>
      if c.getStatus resp = 0 then { cmd := req.cmd.reply, data := c.handleResponse req resp }
      else reportFailed STATUS_CATEGORY_ZDO req.cmd (c.getStatus resp)

structure PermitJoiningArg where
  destAddr : UInt16
  permitDuration : UInt8
  tcSignificance : UInt8
deriving DecidableEq, Repr

structure PermitJoiningResp where
  tsn : UInt8
  status : UInt8
deriving DecidableEq, Repr

-- For a broadcast ZBOSS hands the request back, with the duration where the
-- status would be.
def permitJoiningIsSynthetic (req : Request PermitJoiningArg) (status : UInt8) : Option UInt8 :=
  if req.arg.destAddr < 0xFFF8 then none
  else
    let echo := if req.arg.permitDuration = 0xFF then 0xFE else req.arg.permitDuration
    if status ≠ echo then none else some 0

-- cmd_handle<ZDO_PERMIT_JOINING_REQ>
def permitJoining : Command PermitJoiningArg PermitJoiningResp where
  checkArgSize buffer := 4 ≤ buffer.length
  arg buffer :=
    { destAddr := UInt16.ofNat (Bytes.ofLE (buffer.take 2)), permitDuration := buffer.getD 2 0,
      tcSignificance := buffer.getD 3 0 }
  getStatus := PermitJoiningResp.status
  getTsn := PermitJoiningResp.tsn
  responseBodyIsSynthetic := permitJoiningIsSynthetic
  handleResponse _ resp := [STATUS_CATEGORY_ZDO, resp.status]
  isSimpleDesc := false

structure State (Arg : Type) where
  -- `Ret` is the tsn that start_request returns.
  table : Table Arg UInt8
  -- The requests of this command whose response ZBOSS still owes, by their tsn.
  stack : UInt8 → Option Nat

inductive Label (Resp : Type) where
  -- process up to start_resolve, and the rest of it
  | process (request : HostRequest)
  | handOver (accepted : Bool)
  -- do_request up to start_request, and the rest of it
  | doRequest (idx : Slot) (tsn : UInt8)
  | publish (tick : UInt32)
  | reqCb (resp : Resp)
  | simpleDescRsp (p : List UInt8)

variable {Arg Resp : Type}

def init (zero : Arg) : State Arg := { table := Table.init zero, stack := fun _ => none }

-- The rest of a handler that has called resolve_take; it works on the copy.
def take (s : State Arg) (tsn : UInt8) (frame : Request Arg → Frame) : State Arg :=
  match s.table.resolver.resolveTake tsn with
  | some (idx, req, _) => { s with table := s.table.answer idx (frame req) }
  | none => s

-- The app task runs process and the ZBOSS task everything else, each of them
-- one handler at a time. What happens under the resolver's mutex is one step,
-- together with the sending that follows: it works on a copy.
def step (c : Command Arg Resp) (s : State Arg) : Label Resp → Option (State Arg)
  | .process request =>
      let failed := reportFailed STATUS_CATEGORY_ZDO request.cmd
      if s.table.app.isSome then none
      else if c.checkArgSize request.buffer then
        some { s with table := s.table.claim request (failed GENERIC_NO_RESOURCES) }
      else some { s with table := s.table.refuse request (failed GENERIC_INVALID_PARAMETER) }
  | .handOver accepted =>
      match s.table.app with
      | some (idx, request) =>
          let rejected := reportFailed STATUS_CATEGORY_ZDO request.cmd GENERIC_NO_RESOURCES
          let arg := c.arg request.buffer
          some { s with table := s.table.handOver idx arg accepted rejected }
      | none => none
  | .doRequest idx tsn =>
      if s.table.ready idx then
        if tsn = 0xFF then some { s with table := s.table.start idx tsn }
        else if s.stack tsn = none then
          some { table := s.table.start idx tsn,
                 stack := Function.update s.stack tsn (some (s.table.owner idx)) }
        else none
      else none
  | .publish tick =>
      match s.table.running with
      | some (idx, tsn) =>
          let failedCmd := (s.table.slot idx).cmd
          let failed := reportFailed STATUS_CATEGORY_ZDO failedCmd GENERIC_NO_RESOURCES
          if tsn = 0xFF then some { s with table := s.table.abort idx failed }
          else some { s with table := s.table.publish idx tsn tick }
      | none => none
  | .reqCb resp =>
      if s.table.running = none ∧ s.stack (c.getTsn resp) ≠ none then
        let s' := take s (c.getTsn resp) fun req => reqCbFrame c req resp
        some { s' with stack := Function.update s.stack (c.getTsn resp) none }
      else none
  | .simpleDescRsp p =>
      if c.isSimpleDesc ∧ s.table.running = none ∧ 5 ≤ p.length then
        some (take s (p.getD 0 0) fun req =>
          { cmd := req.cmd.reply, data := simpleDescRsp p })
      else none

end EspCoordinator.RequestProcess
