import EspCoordinator.Lib.Packed
import EspCoordinator.RequestProcess.SimpleDesc
import EspCoordinator.ZbNcp

-- What the host is told about the network without having asked
namespace EspCoordinator.Indication

open Bytes
open Packed (pair iso u8 u16 u64)
open RequestProcess.SimpleDesc (simpleDesc)

-- zb_bufid_t
abbrev BufId := UInt8

-- The fields of zb_apsde_data_indication_t that data_indication looks at
structure ApsdeDataIndication where
  fc : UInt8
  srcAddr : UInt16
  dstAddr : UInt16
  groupAddr : UInt16
  dstEndpoint : UInt8
  srcEndpoint : UInt8
  clusterid : UInt16
  profileid : UInt16
  apsCounter : UInt8
  macSrcAddr : UInt16
  macDstAddr : UInt16
  lqi : UInt8
  rssi : UInt8
  apsKeySource : UInt8
  apsKeyAttrs : UInt8
  apsKeyFromTc : UInt8
  extendedFc : UInt8
deriving DecidableEq, Repr

-- A frame that the stack has taken from the air, in its buffer
structure AfFrame where
  param : BufId
  ind : ApsdeDataIndication
  data : List UInt8
deriving DecidableEq, Repr

def apsKey (ind : ApsdeDataIndication) : UInt8 :=
  ind.apsKeySource ||| (ind.apsKeyAttrs <<< 1) ||| (ind.apsKeyFromTc <<< 3) |||
    (ind.extendedFc <<< 4)

-- sizeof(outdata)
def OUTDATA_SIZE : Nat := 8 + 8 * 2 + 255

def outdata (ind : ApsdeDataIndication) (data : List UInt8) : List UInt8 :=
  [0] ++ toLE 2 data.length ++ [ind.fc] ++ toLE 2 ind.srcAddr.toNat ++ toLE 2 ind.dstAddr.toNat ++
    toLE 2 ind.groupAddr.toNat ++ [ind.dstEndpoint, ind.srcEndpoint] ++
    toLE 2 ind.clusterid.toNat ++ toLE 2 ind.profileid.toNat ++ [ind.apsCounter] ++
    toLE 2 ind.macSrcAddr.toNat ++ toLE 2 ind.macDstAddr.toNat ++
    [ind.lqi, ind.rssi, apsKey ind] ++ data

-- The signals that zboss_signal_handler passes on, with their parameters
inductive Signal where
  | deviceAnnce (deviceShortAddr : UInt16) (ieeeAddr : UInt64) (capability : UInt8)
  | leaveIndication (shortAddr : UInt16) (deviceAddr : UInt64) (rejoin : UInt8)
  | deviceUpdate (longAddr : UInt64) (shortAddr : UInt16) (status tcAction : UInt8)
      (parentShort : UInt16)
  | deviceAuthorized (longAddr : UInt64) (shortAddr : UInt16)
      (authorizationType authorizationStatus : UInt8)
  | other
deriving DecidableEq, Repr

def Signal.indication : Signal → Option (List UInt8)
  | .deviceAnnce deviceShortAddr ieeeAddr capability =>
      ZbNcp.indication .zdoDevAnnceInd
        (toLE 2 deviceShortAddr.toNat ++ toLE 8 ieeeAddr.toNat ++ [capability])
  | .leaveIndication _ deviceAddr rejoin =>
      ZbNcp.indication .nwkLeaveInd (toLE 8 deviceAddr.toNat ++ [rejoin])
  | .deviceUpdate longAddr shortAddr status _ _ =>
      ZbNcp.indication .zdoDevUpdateInd
        (toLE 8 longAddr.toNat ++ toLE 2 shortAddr.toNat ++ [status])
  | .deviceAuthorized longAddr shortAddr authorizationType authorizationStatus =>
      ZbNcp.indication .zdoDevAuthorizedInd
        (toLE 8 longAddr.toNat ++ toLE 2 shortAddr.toNat ++
          [authorizationType, authorizationStatus])
  | .other => none

inductive Label where
  -- zb_af_set_data_indication in continue_zboss
  | register
  -- ZDO_SIMPLE_DESC_REQ at work, apart from the intercept
  | table (label : RequestProcess.Label RequestProcess.SimpleDesc.Resp)
  | dataIndication (frame : AfFrame)
  | signal (param : BufId) (signal : Signal)

structure State where
  -- the slots of ZDO_SIMPLE_DESC_REQ
  table : RequestProcess.State RequestProcess.SimpleDesc.Arg
  registered : Bool
  -- what indication has handed to send_data
  sent : List (List UInt8)
  -- The buffers given to zb_buf_free, those left to the stack, and the labels
  -- taken. None of them is in the code.
  freed : List BufId
  leftToStack : List BufId
  taken : List Label

-- Clusters of the ZDP responses that the stack is too strict with
def SIMPLE_DESC_RSP : UInt16 := 0x8004

-- try_intercept_simple_desc_rsp finds a request for the tsn.
def intercepts (s : State) (frame : AfFrame) : Bool :=
  frame.ind.clusterid == SIMPLE_DESC_RSP && decide (frame.data.length ≥ 5) &&
    (s.table.table.resolver.resolveTake (frame.data.getD 0 0)).isSome

def dataIndication (s : State) (frame : AfFrame) : State :=
  if frame.ind.srcEndpoint = 0 then
    if intercepts s frame then
      { s with
          table := RequestProcess.take s.table (frame.data.getD 0 0) fun req =>
            { cmd := req.cmd.reply, data := RequestProcess.simpleDescRsp frame.data }
          freed := s.freed ++ [frame.param] }
    else { s with leftToStack := s.leftToStack ++ [frame.param] }
  else
    let payload :=
      if frame.data.length ≤ 255 then
        ZbNcp.indication .apsdeDataInd (outdata frame.ind frame.data)
      else none
    { s with sent := s.sent ++ payload.toList, freed := s.freed ++ [frame.param] }

def signalHandler (s : State) (param : BufId) (signal : Signal) : State :=
  { s with sent := s.sent ++ signal.indication.toList, freed := s.freed ++ [param] }

def tableStep (s : State)
    (label : RequestProcess.Label RequestProcess.SimpleDesc.Resp) : State :=
  match RequestProcess.step simpleDesc s.table label with
  | some table => { s with table, taken := s.taken ++ [.table label] }
  | none => s

-- A step that is not enabled changes nothing. The ZBOSS task runs one handler
-- at a time.
def step (s : State) (label : Label) : State :=
  let t := { s with taken := s.taken ++ [label] }
  match label with
  | .register => { t with registered := true }
  | .table (.simpleDescRsp _) => s
  | .table label => tableStep s label
  | .dataIndication frame =>
      if s.registered ∧ s.table.table.running.isNone then dataIndication t frame else s
  | .signal param signal => if s.table.table.running.isNone then signalHandler t param signal else s

def zeroArg : RequestProcess.SimpleDesc.Arg := { nwkAddr := 0, endpoint := 0 }

def init : State :=
  { table := RequestProcess.init zeroArg, registered := false, sent := [], freed := []
    leftToStack := [], taken := [] }

def run (labels : List Label) : State := labels.foldl step init

-- The payload of APSDE_DATA_IND in front of the data, as it is documented
structure DataHead where
  paramLength : UInt8
  dataLength : UInt16
  apsFC : UInt8
  srcNwk : UInt16
  dstNwk : UInt16
  grpNwk : UInt16
  dstEndpoint : UInt8
  srcEndpoint : UInt8
  clusterID : UInt16
  profileID : UInt16
  apsCounter : UInt8
  srcMAC : UInt16
  dstMAC : UInt16
  lqi : UInt8
  rssi : UInt8
  apsKey : UInt8
deriving DecidableEq, Repr

def dataHead : Packed DataHead :=
  iso (pair u8 (pair u16 (pair u8 (pair u16 (pair u16 (pair u16 (pair u8 (pair u8 (pair u16
      (pair u16 (pair u8 (pair u16 (pair u16 (pair u8 (pair u8 u8)))))))))))))))
    { toFun := fun (paramLength, dataLength, apsFC, srcNwk, dstNwk, grpNwk, dstEndpoint,
          srcEndpoint, clusterID, profileID, apsCounter, srcMAC, dstMAC, lqi, rssi, apsKey) =>
        { paramLength, dataLength, apsFC, srcNwk, dstNwk, grpNwk, dstEndpoint, srcEndpoint,
          clusterID, profileID, apsCounter, srcMAC, dstMAC, lqi, rssi, apsKey }
      invFun := fun h => (h.paramLength, h.dataLength, h.apsFC, h.srcNwk, h.dstNwk, h.grpNwk,
        h.dstEndpoint, h.srcEndpoint, h.clusterID, h.profileID, h.apsCounter, h.srcMAC, h.dstMAC,
        h.lqi, h.rssi, h.apsKey)
      left_inv := fun _ => rfl
      right_inv := fun _ => rfl }

-- What the host makes of an indication
inductive Event where
  | data (head : DataHead) (data : List UInt8)
  | devAnnce (nwk : UInt16) (ieee : UInt64) (capability : UInt8)
  | leave (ieee : UInt64) (rejoin : UInt8)
  | devUpdate (ieee : UInt64) (nwk : UInt16) (status : UInt8)
  | devAuthorized (ieee : UInt64) (nwk : UInt16) (type status : UInt8)
deriving DecidableEq, Repr

-- A body that is this structure and nothing else
def exactly {α : Type} (p : Packed α) (body : List UInt8) : Option α :=
  if body.length = p.size then some (p.read body) else none

def readData (body : List UInt8) : Option Event :=
  let head := dataHead.read body
  let data := body.drop dataHead.size
  if dataHead.size ≤ body.length ∧ data.length = head.dataLength.toNat then some (.data head data)
  else none

def decodeBody (body : List UInt8) : CommandId → Option Event
  | .apsdeDataInd => readData body
  | .zdoDevAnnceInd =>
      (exactly (pair u16 (pair u64 u8)) body).map fun (nwk, ieee, capability) =>
        .devAnnce nwk ieee capability
  | .nwkLeaveInd => (exactly (pair u64 u8) body).map fun (ieee, rejoin) => .leave ieee rejoin
  | .zdoDevUpdateInd =>
      (exactly (pair u64 (pair u16 u8)) body).map fun (ieee, nwk, status) =>
        .devUpdate ieee nwk status
  | .zdoDevAuthorizedInd =>
      (exactly (pair u64 (pair u16 (pair u8 u8))) body).map fun (ieee, nwk, type, status) =>
        .devAuthorized ieee nwk type status
  | _ => none

def hostDecode (payload : List UInt8) : Option Event :=
  if payload.getD 1 0 = FrameType.indication.toByte then
    (CommandId.find (u16.read (payload.drop 2))).bind (decodeBody (payload.drop 4))
  else none

def AfFrame.head (frame : AfFrame) : DataHead :=
  { paramLength := 0
    dataLength := UInt16.ofNat frame.data.length
    apsFC := frame.ind.fc
    srcNwk := frame.ind.srcAddr
    dstNwk := frame.ind.dstAddr
    grpNwk := frame.ind.groupAddr
    dstEndpoint := frame.ind.dstEndpoint
    srcEndpoint := frame.ind.srcEndpoint
    clusterID := frame.ind.clusterid
    profileID := frame.ind.profileid
    apsCounter := frame.ind.apsCounter
    srcMAC := frame.ind.macSrcAddr
    dstMAC := frame.ind.macDstAddr
    lqi := frame.ind.lqi
    rssi := frame.ind.rssi
    apsKey := apsKey frame.ind }

-- What the host is to be told of a frame: all of it, if it comes from an
-- application and is not too long.
def AfFrame.event (frame : AfFrame) : Option Event :=
  if frame.ind.srcEndpoint ≠ 0 ∧ frame.data.length ≤ 255 then some (.data frame.head frame.data)
  else none

def Signal.event : Signal → Option Event
  | .deviceAnnce deviceShortAddr ieeeAddr capability =>
      some (.devAnnce deviceShortAddr ieeeAddr capability)
  | .leaveIndication _ deviceAddr rejoin => some (.leave deviceAddr rejoin)
  | .deviceUpdate longAddr shortAddr status _ _ => some (.devUpdate longAddr shortAddr status)
  | .deviceAuthorized longAddr shortAddr authorizationType authorizationStatus =>
      some (.devAuthorized longAddr shortAddr authorizationType authorizationStatus)
  | .other => none

def Label.event : Label → Option Event
  | .dataIndication frame => frame.event
  | .signal _ sig => sig.event
  | _ => none

def Label.buffer : Label → Option BufId
  | .dataIndication frame => some frame.param
  | .signal param _ => some param
  | _ => none

-- The buffer of a ZDP frame
def Label.zdpBuffer : Label → Option BufId
  | .dataIndication frame => if frame.ind.srcEndpoint = 0 then some frame.param else none
  | _ => none

end EspCoordinator.Indication
