import EspCoordinator.BindTableTool.Main
import EspCoordinator.Immediate
import EspCoordinator.RequestProcess.AddrResponse
import EspCoordinator.RequestProcess.BindTable
import EspCoordinator.RequestProcess.Outgoing

-- What stands behind the port of the tool: the firmware, and devices with
-- their binding tables
namespace EspCoordinator.BindTableTool

open Requests (STATUS_CATEGORY_ZDO GENERIC_INVALID_PARAMETER reportFailed)
open RequestProcess.ListResponse (BindingRecord BindResp baseFormatResponse handleResponse mgmtBind
  replyOf)
open RequestProcess.Outgoing (BindReqParam IndexParam Member bindArg formatBind formatIndex indexArg)
open Restore (Layout)

inductive Destination where
  | group (address : UInt16)
  | device (ieee : UInt64) (endpoint : UInt8)
deriving DecidableEq, Repr

structure Entry where
  src : UInt64
  srcEp : UInt8
  cluster : UInt16
  dst : Destination
deriving DecidableEq, Repr

-- As ZBOSS hands it to the firmware
def Entry.record (entry : Entry) : BindingRecord :=
  match entry.dst with
  | .group address =>
      { srcAddress := entry.src, srcEndp := entry.srcEp, clusterId := entry.cluster
        dstAddrMode := 0x01, dstAddress := address.toUInt64, dstEndp := 0 }
  | .device ieee endpoint =>
      { srcAddress := entry.src, srcEndp := entry.srcEp, clusterId := entry.cluster
        dstAddrMode := 0x03, dstAddress := ieee, dstEndp := endpoint }

-- The entry that a Bind_req or an Unbind_req is about
def entryOf (req : BindReqParam) : Option Entry :=
  let entry := fun dst =>
    { src := req.srcAddress, srcEp := req.srcEndp, cluster := req.clusterId, dst : Entry }
  if req.dstAddrMode = 0x01 then some (entry (.group req.dstAddress.toUInt16))
  else if req.dstAddrMode = 0x03 then some (entry (.device req.dstAddress req.dstEndp))
  else none

-- A binding table. Its length has to fit the one byte that reports it.
structure Table where
  entries : List Entry
  nodup : entries.Nodup
  small : entries.length < 256

namespace Table

variable (t : Table)

@[ext] theorem ext {t t' : Table} (h : t.entries = t'.entries) : t = t' := by
  cases t
  cases t'
  simp_all only

def without (gone : List Entry) : Table where
  entries := t.entries.filter (· ∉ gone)
  nodup := t.nodup.filter _
  small := (List.length_filter_le _ _).trans_lt t.small

-- Unbind_req. NO_ENTRY is 0x88.
def unbind (entry : Entry) : Table × UInt8 :=
  (t.without [entry], if entry ∈ t.entries then 0x00 else 0x88)

-- Bind_req at a device that has room for so many entries. TABLE_FULL is 0x8c.
def bind (capacity : UInt8) (entry : Entry) : Table × UInt8 :=
  if hmem : entry ∈ t.entries then (t, 0x00)
  else if hroom : t.entries.length < capacity.toNat then
    ({ entries := t.entries ++ [entry]
       nodup := by
        rw [List.nodup_append_comm]
        exact List.nodup_cons.mpr ⟨hmem, t.nodup⟩
       small := by
        have hlt := capacity.toNat_lt
        rw [List.length_append, List.length_singleton]
        omega }, 0x00)
  else (t, 0x8c)

end Table

abbrev Tables := UInt16 → Table

structure Node where
  ieee : UInt64
  capacity : UInt8
  -- what it answers to a Mgmt_Bind_req, out of its table and the index asked for.
  -- Two answers need not be the same.
  listing : Nat → Table → UInt8 → BindResp

-- A Mgmt_Bind_rsp starts where it has been asked to.
def Node.Numbered (node : Node) : Prop := ∀ seed t start,
  (node.listing seed t start).status = 0x00 → (node.listing seed t start).startIndex = start

-- A page of the table, with something on it as long as there is something left
structure Page (t : Table) (start : UInt8) (resp : BindResp) : Prop where
  entries : resp.bindingTableEntries.toNat = t.entries.length
  fits : resp.bindingTableListCount.toNat ≤ t.entries.length - start.toNat
  list : ∀ i entry, i < resp.bindingTableListCount.toNat →
    t.entries[start.toNat + i]? = some entry → resp.list i = entry.record
  progress : start.toNat < t.entries.length → resp.bindingTableListCount ≠ 0

-- A device that keeps nothing of its table back
structure Node.Truthful (node : Node) : Prop where
  numbered : node.Numbered
  page : ∀ seed t start, (node.listing seed t start).status = 0x00 →
    Page t start (node.listing seed t start)

-- A device that does not carry out a request says so, and NO_ENTRY is no way
-- to say it.
structure Refusal where
  status : UInt8
  failed : status ≠ 0x00
  honest : status ≠ 0x88

-- What a request comes to
inductive Course where
  | refused (refusal : Refusal)
  | carriedOut
  -- carried out, but the response of the device has not come in time
  | timedOut

-- What happens during one txn
structure Fate where
  -- the earlier requests that are only now carried out, by their numbers
  overdue : List (Nat × Course)
  -- Does its own request come through?
  arrives : Bool
  course : Course
  -- the responses that were sent before its own and arrive only now
  stale : List Nat
  -- Does its own response come in time?
  answered : Bool

-- The coordinator's address, as GET_LOCAL_IEEE_ADDR reports it
def localIeee (stack : Immediate.Stack) : Option Backup.IeeeAddr :=
  if stack.longAddress.toList.any (· ≠ 0) then some stack.longAddress
  else stack.mac.map Vector.reverse

structure Network (L : Layout) where
  world : Immediate.World L
  ieee : Backup.IeeeAddr
  known : localIeee world.stack = some ieee
  node : UInt16 → Node
  fate : Nat → Fate
  -- what the handlers find in their buffers on the stack
  outdata : Memory UInt8

variable {L : Layout}

-- Nothing of an earlier txn comes in a later one.
def Network.Prompt (net : Network L) : Prop :=
  ∀ time, (net.fate time).overdue = [] ∧ (net.fate time).stale = []

-- No response gets lost, and none is too late.
structure Network.Answering (net : Network L) : Prop where
  prompt : net.Prompt
  answered : ∀ time, (net.fate time).answered = true
  inTime : ∀ time, (net.fate time).course ≠ .timedOut

-- Nothing goes wrong at all.
structure Network.Benign (net : Network L) : Prop where
  answering : net.Answering
  arrives : ∀ time, (net.fate time).arrives = true
  carriedOut : ∀ time, (net.fate time).course = .carriedOut
  listed : ∀ nwk seed t start, ((net.node nwk).listing seed t start).status = 0x00
  numbered : ∀ nwk, (net.node nwk).Numbered

structure State where
  tables : Tables
  -- the requests so far, and the payloads of the responses to them
  asked : List Request
  sent : List (List UInt8)

-- Before the tool is started, the link is idle.
def State.start (tables : Tables) : State := { tables, asked := [], sent := [] }

-- zb_zdo_ieee_addr_req_param_t: destNwk, nwk, type and startIndex
def ieeeAddrReqParam : Packed (UInt16 × UInt16 × UInt8 × UInt8) :=
  .pair .u16 (.pair .u16 (.pair .u8 .u8))

-- What a device answers with: the status, and what the firmware makes of the
-- response when that is zero.
structure Response where
  tables : Tables
  status : UInt8
  frame : List UInt8

def Response.payload (resp : Response) (cmd : Cmd) : List UInt8 :=
  if resp.status = 0x00 then resp.frame
  else Device.payload (reportFailed STATUS_CATEGORY_ZDO cmd resp.status)

-- Bind_req and Unbind_req. INV_REQUESTTYPE is 0x80.
def changeTable (net : Network L) (cmd : Cmd) (act : Table → Entry → Table × UInt8) (seed : Nat)
    (tables : Tables) (req : BindReqParam) : Response :=
  let formatted := replyOf (baseFormatResponse [UInt8.ofNat seed, 0x00])
  let frame := (handleResponse cmd formatted).frame net.outdata
  match entryOf req with
  | none => { tables, status := 0x80, frame }
  | some entry =>
      let (t, status) := act (tables req.reqDstAddr) entry
      { tables := Function.update tables req.reqDstAddr t, status, frame }

def listTable (net : Network L) (cmd : Cmd) (seed : Nat) (tables : Tables) (req : IndexParam) :
    Response :=
  let resp := (net.node req.dstAddr).listing seed (tables req.dstAddr) req.startIndex
  { tables, status := resp.status, frame := (handleResponse cmd (mgmtBind resp)).frame net.outdata }

def ieeeAddr (net : Network L) (cmd : Cmd) (seed : Nat) (tables : Tables)
    (req : UInt16 × UInt16 × UInt8 × UInt8) : Response :=
  let (_, nwk, requestType, _) := req
  let resp : RequestProcess.AddrResponse.Resp :=
    { tsn := UInt8.ofNat seed, status := 0x00, ieeeAddr := (net.node nwk).ieee, nwkAddr := nwk }
  { tables
    status := 0x00
    frame := (RequestProcess.AddrResponse.handleResponse .ieee cmd requestType resp
      { startIndex := 0, nwks := [], fits := by decide }).frame net.outdata }

-- The way of a ZDO request through the firmware, with a free slot. TIMEOUT is
-- 0x85.
def zdo (m : Member) (cmd : Cmd) (course : Course) (tables : Tables)
    (device : Tables → m.Req → Response) (payload : List UInt8) : Tables × List UInt8 :=
  let failed := fun status => Device.payload (reportFailed STATUS_CATEGORY_ZDO cmd status)
  if m.checkArgSize payload then
    let resp := device tables (m.formatRequest (m.cast payload))
    match course with
    | .refused refusal => (tables, failed refusal.status)
    | .carriedOut => (resp.tables, resp.payload cmd)
    | .timedOut => (resp.tables, failed 0x85)
  else (tables, failed GENERIC_INVALID_PARAMETER)

def immediate (net : Network L) (cmd : Cmd) (payload : List UInt8) : List UInt8 :=
  ((Immediate.process net.world cmd payload).map fun handled =>
    handled.reply.frame net.outdata).getD []

def Request.cmd (req : Request) : Cmd :=
  { version := 0, type := .request, commandId := req.cmdId, tsn := req.tsn }

-- A request that is carried out, and the payload of the response
def process (net : Network L) (course : Course) (seed : Nat) (tables : Tables) (req : Request) :
    Tables × List UInt8 :=
  let cmd := req.cmd
  match CommandId.find req.cmdId with
  | some .zdoBindReq =>
      zdo (.packed bindArg formatBind) cmd course tables
        (fun tables param => changeTable net cmd
          (fun t => t.bind (net.node param.reqDstAddr).capacity) seed tables param) req.payload
  | some .zdoUnbindReq =>
      zdo (.packed bindArg formatBind) cmd course tables (changeTable net cmd Table.unbind seed)
        req.payload
  | some .zdoMgmtBindReq =>
      zdo (.packed indexArg formatIndex) cmd course tables (listTable net cmd seed) req.payload
  | some .zdoIeeeAddrReq =>
      zdo (.packed ieeeAddrReqParam id) cmd course tables (ieeeAddr net cmd seed) req.payload
  | _ => (tables, immediate net cmd req.payload)

def State.carryOut (net : Network L) (s : State) (course : Course) (req : Request) : State :=
  let (tables, payload) := process net course s.sent.length s.tables req
  { s with tables, sent := s.sent ++ [payload] }

-- Some of the earlier requests, one after the other
def State.catchUp (net : Network L) (s : State) (overdue : List (Nat × Course)) : State :=
  overdue.foldl (fun s (number, course) =>
    match s.asked[number]? with
    | some req => s.carryOut net course req
    | none => s) s

def State.late (s : State) (stale : List Nat) : List (List UInt8) :=
  stale.filterMap fun number => s.sent[number]?

-- The request of the txn itself, with the response to it
def respond (net : Network L) (fate : Fate) (s : State) (req : Request) :
    State × List (List UInt8) :=
  let s := { s with asked := s.asked ++ [req] }
  if fate.arrives then
    let after := s.carryOut net fate.course req
    (after, after.sent.drop s.sent.length)
  else (s, [])

-- txn takes the first response to the command, whichever request it is to.
def serve (net : Network L) (s : State) (req : Request) : State × Option Answer :=
  let fate := net.fate s.asked.length
  let s := s.catchUp net fate.overdue
  let late := s.late fate.stale
  let (s, own) := respond net fate s req
  (s, (late ++ if fate.answered then own else []).findSome? (readAnswer req.cmdId))

end EspCoordinator.BindTableTool
