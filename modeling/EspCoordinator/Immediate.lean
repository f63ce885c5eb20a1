import EspCoordinator.Backup.Snapshot
import EspCoordinator.CommandId
import EspCoordinator.Immediate.StructuredBackup
import EspCoordinator.Requests

-- The immediate command handlers
namespace EspCoordinator.Immediate

open Bytes
open Memory (Store)
open Restore (Layout Status field)
open Requests (STATUS_CATEGORY_ZDO GENERIC_INVALID_PARAMETER GENERIC_NO_RESOURCES)

def GENERIC_BLOCKED : UInt8 := 2
def GENERIC_INVALID_PARAMETER_1 : UInt8 := 10
def GENERIC_INVALID_PARAMETER_2 : UInt8 := 11
def GENERIC_NOT_IMPLEMENTED : UInt8 := 31
def GENERIC_INVALID_STATE : UInt8 := 35

-- Everything that a request meets.
structure World (L : Layout) where
  stack : Stack
  snapshot : Backup.Snapshot.State
  reads : Backup.Snapshot.Outcomes
  restore : Restore.Device L
  restoreOutcomes : Restore.Outcomes L
  structured : Backup.Device L.zbSize
  structuredOutcomes : Backup.Outcomes L.zbSize

-- What is written behind cmd_t, and what the stack is told to do.
structure Handled where
  reply : Reply
  calls : List Call

abbrev Handler (L : Layout) := World L → List UInt8 → Handled

-- The part of process_status_arg_res and its siblings: the status, if they
-- store one, what they write to `res`, and their calls.
structure Body where
  status : Option UInt8
  res : List (Store UInt8)
  calls : List Call

-- sizeof(generic_response_t)
def STATUS_SIZE : Nat := 2

-- A FullRes with `size` bytes of `res`.
def Body.fullRes (body : Body) (size : Nat) : Handled :=
  { reply :=
      { stores := [{ offset := 0, bytes := [STATUS_CATEGORY_GENERIC] },
            { offset := 1, bytes := [GENERIC_OK] }] ++
          (body.status.toList.map fun status => { offset := 1, bytes := [status] }) ++
          body.res.map (Store.shift STATUS_SIZE)
        outlen := STATUS_SIZE + size }
    calls := body.calls }

def Body.short : Body := { status := some GENERIC_INVALID_PARAMETER, res := [], calls := [] }

variable {L : Layout}

-- general_status_res
def generalStatusRes (size : Nat) (processStatusRes : Stack → List (Store UInt8)) : Handler L :=
  fun world _ =>
    { status := none, res := processStatusRes world.stack, calls := [] : Body }.fullRes size

-- general_status_arg
def generalStatusArg (argSize : Nat)
    (processStatusArg : Stack → List UInt8 → Option UInt8 × List Call) : Handler L :=
  fun world inbuffer =>
    if inbuffer.length < argSize then Body.short.fullRes 0
    else
      let (status, calls) := processStatusArg world.stack inbuffer
      { status, res := [], calls : Body }.fullRes 0

-- general_status_arg_res
def generalStatusArgRes (argSize size : Nat) (processStatusArgRes : Stack → List UInt8 → Body) :
    Handler L :=
  fun world inbuffer =>
    if inbuffer.length < argSize then Body.short.fullRes size
    else (processStatusArgRes world.stack inbuffer).fullRes size

-- A generic_response_t and nothing else.
def respondStatus (category status : UInt8) : Reply :=
  { stores := [{ offset := 0, bytes := [category] }, { offset := 1, bytes := [status] }]
    outlen := STATUS_SIZE }

-- The default implementation.
def notImplemented : Handler L := fun _ _ =>
  { reply := respondStatus STATUS_CATEGORY_GENERIC GENERIC_NOT_IMPLEMENTED, calls := [] }

def byte (inbuffer : List UInt8) (pos : Nat) : UInt8 := inbuffer.getD pos 0

def FW_VERSION_MAJOR : UInt32 := 1
def FW_VERSION_MINOR : UInt32 := 5
def FW_VERSION_BUILD : UInt32 := 79

def getModuleVersion : Handler L := generalStatusRes 12 fun stack =>
  let fwVersion := FW_VERSION_MAJOR <<< 24 ||| FW_VERSION_MINOR <<< 16 |||
    (FW_VERSION_BUILD &&& 0xFFFF)
  Memory.consecutive 0
    [toLE 4 fwVersion.toNat, toLE 4 stack.version.toNat, toLE 4 stack.protocolVersion.toNat]

def getZigbeeRole : Handler L := generalStatusRes 1 fun stack =>
  [{ offset := 0, bytes := [stack.networkRole] }]

def ZB_NWK_DEVICE_TYPE_COORDINATOR : UInt8 := 0

def setZigbeeRole : Handler L := generalStatusArg 1 fun _ inbuffer =>
  if byte inbuffer 0 ≠ ZB_NWK_DEVICE_TYPE_COORDINATOR then (some GENERIC_INVALID_PARAMETER_1, [])
  else (none, [])

def getZigbeeChannelMask : Handler L := generalStatusRes 6 fun stack =>
  Memory.consecutive 0 [[1], [0], toLE 4 stack.channelMask.toNat]

def setZigbeeChannelMask : Handler L := generalStatusArg 5 fun _ inbuffer =>
  if byte inbuffer 0 ≠ 0 then (some GENERIC_INVALID_PARAMETER_1, [])
  else (none, [.setChannelMask (UInt32.ofNat (field inbuffer 1 4))])

def getZigbeeChannel : Handler L := generalStatusRes 2 fun stack =>
  Memory.consecutive 0 [[0], [stack.currentChannel]]

def getPanId : Handler L := generalStatusRes 2 fun stack =>
  [{ offset := 0, bytes := toLE 2 stack.panId.toNat }]

def setPanId : Handler L := generalStatusArg 2 fun stack inbuffer =>
  let pan := UInt16.ofNat (field inbuffer 0 2)
  if pan = 0xFFFF then (some GENERIC_INVALID_PARAMETER_1, [])
  else if stack.joined then (some GENERIC_OPERATION_FAILED, [])
  else (none, [.setPanId pan])

-- The ieee field stays as it is when the MAC address cannot be read.
def getLocalIeeeAddr : Handler L := generalStatusArgRes 1 9 fun stack inbuffer =>
  let mac := byte inbuffer 0
  if mac ≠ 0 then { status := some GENERIC_INVALID_PARAMETER_1, res := [], calls := [] }
  else if stack.longAddress.toList.any (· ≠ 0) then
    { status := none
      res := [{ offset := 0, bytes := [mac] }, { offset := 1, bytes := stack.longAddress.toList }]
      calls := [] }
  else
    match stack.mac with
    | none => { status := some GENERIC_ERROR, res := [{ offset := 0, bytes := [mac] }], calls := [] }
    | some eui =>
        { status := none
          res := [{ offset := 0, bytes := [mac] }, { offset := 1, bytes := eui.toList.reverse }]
          calls := [] }

def setLocalIeeeAddr : Handler L := generalStatusArg 9 fun _ _ => (some GENERIC_BLOCKED, [])

def setTxPower : Handler L := generalStatusArgRes 1 1 fun stack inbuffer =>
  let power := byte inbuffer 0
  { status := if stack.setTxPower power then none else some GENERIC_INVALID_PARAMETER_1
    res := [{ offset := 0, bytes := [power] }]
    calls := [.setTxPower power] }

def getRxOnWhenIdle : Handler L := generalStatusRes 1 fun stack =>
  [{ offset := 0, bytes := [stack.rxOnWhenIdle] }]

def setRxOnWhenIdle : Handler L := generalStatusArg 1 fun _ inbuffer =>
  (none, [.setRxOnWhenIdle (byte inbuffer 0)])

def getJoined : Handler L := generalStatusRes 1 fun stack =>
  [{ offset := 0, bytes := [stack.joinedByte] }]

def setNwkKey : Handler L := generalStatusArg 17 fun _ inbuffer =>
  let index := byte inbuffer 16
  if index > 2 then (some GENERIC_INVALID_PARAMETER_2, [])
  else (none, [.setupNwkKey (inbuffer.take 16) index])

-- "ESP-ZBOSS-NO-KEY"
def placeholder : List UInt8 :=
  [0x45, 0x53, 0x50, 0x2d, 0x5a, 0x42, 0x4f, 0x53, 0x53, 0x2d, 0x4e, 0x4f, 0x2d, 0x4b, 0x45, 0x59]

def getNwkKeys : Handler L := generalStatusRes 51 fun _ =>
  [{ offset := 0, bytes := List.replicate 51 0 }, { offset := 0, bytes := placeholder },
    { offset := 16, bytes := [0] }]

def getExtendedPanId : Handler L := generalStatusRes 8 fun stack =>
  [{ offset := 0, bytes := stack.extendedPanId.toList.reverse }]

def getCoordinatorVersion : Handler L := generalStatusRes 1 fun stack =>
  [{ offset := 0, bytes := [stack.coordinatorVersion] }]

def getShortAddress : Handler L := generalStatusRes 2 fun stack =>
  [{ offset := 0, bytes := toLE 2 stack.shortAddress.toNat }]

def setTcPolicy : Handler L := generalStatusArg 3 fun _ inbuffer =>
  let value := byte inbuffer 2
  match field inbuffer 0 2 with
  | 0 => (none, [.setUpdateTrustCenterLinkKeysRequired value])
  | 1 => (none, [.setInstallcodePolicy value])
  | 2 => (none, [.setTcRejoinEnabled value])
  | 3 => (none, [.setIgnoreTcRejoin value])
  | 4 => (none, [.setApsUnsecureJoin value])
  | 5 => (none, [.disableNetworkMgmtChannelUpdate value])
  | _ => (some GENERIC_INVALID_PARAMETER_1, [])

def setExtendedPanId : Handler L := generalStatusArg 8 fun _ inbuffer =>
  (none, [.setExtendedPanId (inbuffer.take 8).reverse])

def OVERALL_NETWORK_SIZE : UInt8 := 200

def setMaxChildren : Handler L := generalStatusArg 1 fun _ inbuffer =>
  let children := byte inbuffer 0
  if children > OVERALL_NETWORK_SIZE then (some GENERIC_INVALID_PARAMETER_1, [])
  else (none, [.setMaxChildren children])

-- sizeof(AF_SET_SIMPLE_DESC_arg_hdr_t)
def SIMPLE_DESC_HDR_SIZE : Nat := 8

def afSetSimpleDesc : Handler L := fun _ inbuffer =>
  if inbuffer.length < SIMPLE_DESC_HDR_SIZE then Body.short.fullRes 0
  else { status := none, res := [], calls := [] : Body }.fullRes 0

def nwkPermitJoining : Handler L := generalStatusArg 1 fun stack inbuffer =>
  if !stack.bufGetOut then (some GENERIC_NO_RESOURCES, [])
  else (none, [.mgmtPermitJoiningReq 0x0000 (byte inbuffer 0) 1])

-- sizeof(ZDO_MGMT_LEAVE_REQ_args_t)
def LEAVE_ARGS_SIZE : Nat := 11

def zdoMgmtLeaveReq : Handler L := fun _ inbuffer =>
  if inbuffer.length < LEAVE_ARGS_SIZE then
    { reply := respondStatus STATUS_CATEGORY_ZDO GENERIC_INVALID_PARAMETER, calls := [] }
  else
    let shortAddr := UInt16.ofNat (field inbuffer 0 2)
    if shortAddr = 0x0000 then
      { reply := respondStatus STATUS_CATEGORY_ZDO GENERIC_OPERATION_FAILED, calls := [] }
    else
      { reply := respondStatus STATUS_CATEGORY_ZDO GENERIC_OK
        calls :=
          [.deviceLeaveReq ((inbuffer.drop 2).take 8) shortAddr (byte inbuffer 10 &&& 0x80 != 0)] }

def zdoSetNodeDescManufCode : Handler L := generalStatusArg 2 fun _ inbuffer =>
  (none, [.setManufacturerCodeReq (UInt16.ofNat (field inbuffer 0 2))])

def getNetworkBackup : Handler L := fun world inbuffer =>
  let request : Backup.Snapshot.Request L :=
    { inbuffer
      joined := world.stack.joined
      panId := world.stack.panId
      nvs := world.restore.nvs
      zb := world.restore.zb
      outcomes := world.reads }
  { reply := (Backup.Snapshot.processImmediate world.snapshot request).2.reply L, calls := [] }

def statusByte : Status → UInt8
  | .ok => GENERIC_OK
  | .invalidParameter => GENERIC_INVALID_PARAMETER
  | .operationFailed => GENERIC_OPERATION_FAILED
  | .invalidState => GENERIC_INVALID_STATE

def restoreNetwork : Handler L := fun world inbuffer =>
  let result := Restore.processImmediate world.restoreOutcomes world.restore inbuffer
  { reply := respondStatus STATUS_CATEGORY_GENERIC (statusByte result.status), calls := [] }

def getStructuredBackup : Handler L := fun world _ =>
  { reply := structuredBackup world.stack, calls := [] }

def restoreStructuredBackup : Handler L := fun world inbuffer =>
  let result := Backup.restoreStructuredBackup world.structuredOutcomes world.structured inbuffer
  { reply := respondStatus STATUS_CATEGORY_GENERIC (statusByte result.status), calls := [] }

-- The commands that are answered at once. What a switch leaves to the default
-- implementation is not implemented.
def processImmediate : CommandId → Option (Handler L)
  | .getModuleVersion => some getModuleVersion
  | .getZigbeeRole => some getZigbeeRole
  | .setZigbeeRole => some setZigbeeRole
  | .getZigbeeChannelMask => some getZigbeeChannelMask
  | .setZigbeeChannelMask => some setZigbeeChannelMask
  | .getZigbeeChannel => some getZigbeeChannel
  | .getPanId => some getPanId
  | .setPanId => some setPanId
  | .getLocalIeeeAddr => some getLocalIeeeAddr
  | .setLocalIeeeAddr => some setLocalIeeeAddr
  | .setTxPower => some setTxPower
  | .getRxOnWhenIdle => some getRxOnWhenIdle
  | .setRxOnWhenIdle => some setRxOnWhenIdle
  | .getJoined => some getJoined
  | .setNwkKey => some setNwkKey
  | .getNwkKeys => some getNwkKeys
  | .getExtendedPanId => some getExtendedPanId
  | .getCoordinatorVersion => some getCoordinatorVersion
  | .getShortAddress => some getShortAddress
  | .getNetworkBackup => some getNetworkBackup
  | .restoreNetwork => some restoreNetwork
  | .getStructuredBackup => some getStructuredBackup
  | .restoreStructuredBackup => some restoreStructuredBackup
  | .setTcPolicy => some setTcPolicy
  | .setExtendedPanId => some setExtendedPanId
  | .setMaxChildren => some setMaxChildren
  | .afSetSimpleDesc => some afSetSimpleDesc
  | .zdoMgmtLeaveReq => some zdoMgmtLeaveReq
  | .zdoSetNodeDescManufCode => some zdoSetNodeDescManufCode
  | .nwkPermitJoining => some nwkPermitJoining
  | .getTxPower | .getAuthenticated | .zdoDevAnnceInd | .zdoDevAuthorizedInd
  | .zdoDevUpdateInd | .apsdeDataInd | .nwkDiscovery | .nwkGetIeeeByShort
  | .nwkGetShortByIeee | .nwkGetNeighborByIeee | .nwkRejoinedInd | .nwkRejoinFailedInd
  | .nwkLeaveInd =>
      some notImplemented
  | .ncpReset | .zdoNwkAddrReq | .zdoIeeeAddrReq | .zdoPowerDescReq | .zdoNodeDescReq
  | .zdoSimpleDescReq | .zdoActiveEpReq | .zdoMatchDescReq | .zdoBindReq | .zdoUnbindReq
  | .zdoPermitJoiningReq | .zdoMgmtBindReq | .zdoMgmtLqiReq | .zdoMgmtNwkUpdateReq
  | .apsdeDataReq | .nwkFormation | .nwkStartWithoutFormation => none

-- immediate_cmd_process::process
def process (world : World L) (cmd : Cmd) (inbuffer : List UInt8) : Option Handled :=
  (CommandId.find cmd.commandId).bind fun id =>
    (processImmediate id).map fun handler =>
      let handled := handler world inbuffer
      { handled with reply := handled.reply.respond cmd }

end EspCoordinator.Immediate
