import EspCoordinator.Reply
import EspCoordinator.RequestProcess

namespace EspCoordinator.RequestProcess.SimpleDesc

open Resolver Requests Bytes

-- zb_zdo_simple_desc_req_t
structure Arg where
  nwkAddr : UInt16
  endpoint : UInt8
deriving DecidableEq, Repr

-- A simple descriptor as the stack hands it out.
structure Descriptor where
  endpoint : UInt8
  appProfileId : UInt16
  appDeviceId : UInt16
  -- four bits
  appDeviceVersion : UInt8
  appInputClusterCount : UInt8
  appOutputClusterCount : UInt8
  -- the input clusters and behind them the output clusters
  appClusterList : List UInt16
deriving DecidableEq, Repr

-- zb_zdo_simple_desc_resp_t
structure Resp where
  tsn : UInt8
  status : UInt8
  nwkAddr : UInt16
  simpleDesc : Descriptor
deriving DecidableEq, Repr

-- `count` entries of the cluster list, from `start` on.
def clusters (list : List UInt16) (start count : Nat) : List UInt8 :=
  (List.range count).flatMap fun i => toLE 2 (list.getD (start + i) 0).toNat

def formatResponse (resp : Resp) : List UInt8 :=
  let desc := resp.simpleDesc
  let (inputCount, outputCount) :=
    capCounts desc.appInputClusterCount.toNat desc.appOutputClusterCount.toNat
  [STATUS_CATEGORY_ZDO, resp.status, desc.endpoint] ++ toLE 2 desc.appProfileId.toNat ++
    toLE 2 desc.appDeviceId.toNat ++ [desc.appDeviceVersion] ++
    [UInt8.ofNat inputCount, UInt8.ofNat outputCount] ++
    clusters desc.appClusterList 0 inputCount ++
    clusters desc.appClusterList desc.appInputClusterCount.toNat outputCount ++
    toLE 2 resp.nwkAddr.toNat

-- cmd_handle<ZDO_SIMPLE_DESC_REQ>
def simpleDesc : Command Arg Resp where
  checkArgSize buffer := 3 ≤ buffer.length
  arg buffer :=
    { nwkAddr := UInt16.ofNat (ofLE (buffer.take 2)), endpoint := buffer.getD 2 0 }
  getStatus := Resp.status
  getTsn := Resp.tsn
  responseBodyIsSynthetic _ _ := none
  handleResponse _ resp := formatResponse resp
  isSimpleDesc := true

-- What the host gets of a response that the stack has parsed, and of one that
-- try_intercept_simple_desc_rsp has taken, when a request is pending.
def ordinary (r : Resolver Arg) (resp : Resp) : Option Frame :=
  (r.resolveTake resp.tsn).map fun (_, req, _) => reqCbFrame simpleDesc req resp

def intercepted (r : Resolver Arg) (p : List UInt8) : Option Frame :=
  if p.length < 5 then none
  else
    (r.resolveTake (p.getD 0 0)).map fun (_, req, _) =>
      { cmd := req.cmd.reply, data := simpleDescRsp p }

-- A descriptor as a device sends it, with the clusters that the counts
-- announce. The version has the low four bits of its byte.
structure Wire where
  endpoint : UInt8
  profileId : UInt16
  deviceId : UInt16
  version : UInt8
  inputs : List UInt16
  outputs : List UInt16
  fits : 8 + 2 * (inputs.length + outputs.length) < 256

def Wire.length (w : Wire) : Nat := 8 + 2 * (w.inputs.length + w.outputs.length)

def Wire.bytes (w : Wire) : List UInt8 :=
  [w.endpoint] ++ words [w.profileId, w.deviceId] ++ [w.version, UInt8.ofNat w.inputs.length] ++
    words w.inputs ++ [UInt8.ofNat w.outputs.length] ++ words w.outputs

-- A successful Simple_Desc_rsp. Some devices send more than they declare.
def Wire.payload (w : Wire) (tsn : UInt8) (nwkAddr : UInt16) (trailing : List UInt8) :
    List UInt8 :=
  [tsn, 0] ++ words [nwkAddr] ++ [UInt8.ofNat w.length] ++ w.bytes ++ trailing

def Wire.parsed (w : Wire) : Descriptor :=
  { endpoint := w.endpoint
    appProfileId := w.profileId
    appDeviceId := w.deviceId
    appDeviceVersion := w.version &&& 0x0F
    appInputClusterCount := UInt8.ofNat w.inputs.length
    appOutputClusterCount := UInt8.ofNat w.outputs.length
    appClusterList := w.inputs ++ w.outputs }

def Wire.resp (w : Wire) (tsn : UInt8) (nwkAddr : UInt16) : Resp :=
  { tsn, status := 0, nwkAddr, simpleDesc := w.parsed }

-- What the documentation of ZDO_SIMPLE_DESC_REQ puts behind the status of a
-- successful response.
structure Body where
  endpoint : UInt8
  profileID : UInt16
  deviceID : UInt16
  version : UInt8
  inputClusters : List UInt16
  outputClusters : List UInt16
  nwk : UInt16

def Body.bytes (body : Body) : List UInt8 :=
  [body.endpoint] ++ words [body.profileID, body.deviceID] ++
    [body.version, UInt8.ofNat body.inputClusters.length,
      UInt8.ofNat body.outputClusters.length] ++
    words body.inputClusters ++ words body.outputClusters ++ words [body.nwk]

def Decodable (data : List UInt8) : Prop :=
  ∃ category status rest, data = category :: status :: rest ∧
    (status = 0 → ∃ body : Body, body.inputClusters.length < 256 ∧
      body.outputClusters.length < 256 ∧ rest = body.bytes)

inductive Fault where
  -- a look behind the payload
  | unread (index : Nat)
  -- a write behind outdata
  | overrun (size : Nat)
deriving DecidableEq, Repr

def OUTDATA_SIZE : Nat := 128

def byteAt (p : List UInt8) (index : Nat) : Except Fault UInt8 :=
  match p[index]? with
  | some byte => .ok byte
  | none => .error (.unread index)

def bytesAt (p : List UInt8) (index size : Nat) : Except Fault (List UInt8) :=
  if index + size ≤ p.length then .ok ((p.drop index).take size) else .error (.unread (index + size))

-- `out` is what stands behind cmd_t in outdata.
def emit (out data : List UInt8) : Except Fault (List UInt8) :=
  if CMD_SIZE + (out ++ data).length ≤ OUTDATA_SIZE then .ok (out ++ data)
  else .error (.overrun (CMD_SIZE + (out ++ data).length))

def copyClusters (p : List UInt8) : Nat → Nat → List UInt8 → Except Fault (List UInt8)
  | _, 0, out => .ok out
  | index, count + 1, out => do
      let out ← emit out (← bytesAt p index 2)
      copyClusters p (index + 2) count out

def readOutCount (p : List UInt8) (avail outCountOff : Nat) : Except Fault Nat :=
  if avail > outCountOff then do
    let outCount := (← byteAt p (5 + outCountOff)).toNat
    let bytesAfterOutCount := if avail > outCountOff + 1 then avail - outCountOff - 1 else 0
    return if outCount * 2 > bytesAfterOutCount then bytesAfterOutCount / 2 else outCount
  else .ok 0

def readCounts (p : List UInt8) (avail : Nat) : Except Fault (Nat × Nat) := do
  let inCount := (← byteAt p 11).toNat
  let bytesAfterInCount := if avail > 7 then avail - 7 else 0
  let inCount := if inCount * 2 > bytesAfterInCount then bytesAfterInCount / 2 else inCount
  let outCount ← readOutCount p avail (7 + 2 * inCount)
  return capCounts inCount outCount

def emitBody (p : List UInt8) (avail : Nat) (out : List UInt8) : Except Fault (List UInt8) := do
  let endpoint ← byteAt p 5
  let profileId ← bytesAt p 6 2
  let deviceId ← bytesAt p 8 2
  let versionByte := (← byteAt p 10) &&& 0x0F
  let (inCount, outCount) ← readCounts p avail
  let out ← emit out ([endpoint] ++ profileId ++ deviceId ++
    [versionByte, UInt8.ofNat inCount, UInt8.ofNat outCount])
  let out ← copyClusters p (5 + 7) inCount out
  copyClusters p (5 + 8 + 2 * inCount) outCount out

-- try_intercept_simple_desc_rsp behind resolve_take, with every look at the
-- payload and every write to outdata checked.
def emitRsp (p : List UInt8) : Except Fault (List UInt8) := do
  let status ← byteAt p 1
  let nwkAddr ← bytesAt p 2 2
  let declaredSd ← byteAt p 4
  let avail := min (p.length - 5) declaredSd.toNat
  let out ← emit [] [STATUS_CATEGORY_ZDO, status]
  let out ← (if status = 0 ∧ avail ≥ 7 then emitBody p avail out else .ok out)
  emit out nwkAddr

end EspCoordinator.RequestProcess.SimpleDesc
