import Mathlib.Data.UInt

namespace EspCoordinator

-- commands_list.h
inductive CommandId where
  | getModuleVersion
  | ncpReset
  | getZigbeeRole
  | setZigbeeRole
  | getZigbeeChannelMask
  | setZigbeeChannelMask
  | getZigbeeChannel
  | getPanId
  | setPanId
  | getLocalIeeeAddr
  | setLocalIeeeAddr
  | getTxPower
  | setTxPower
  | getRxOnWhenIdle
  | setRxOnWhenIdle
  | getJoined
  | getAuthenticated
  | setNwkKey
  | getNwkKeys
  | getExtendedPanId
  | getCoordinatorVersion
  | getShortAddress
  | getNetworkBackup
  | restoreNetwork
  | getStructuredBackup
  | restoreStructuredBackup
  | setTcPolicy
  | setExtendedPanId
  | setMaxChildren
  | afSetSimpleDesc
  | zdoNwkAddrReq
  | zdoIeeeAddrReq
  | zdoPowerDescReq
  | zdoNodeDescReq
  | zdoSimpleDescReq
  | zdoActiveEpReq
  | zdoMatchDescReq
  | zdoBindReq
  | zdoUnbindReq
  | zdoMgmtLeaveReq
  | zdoPermitJoiningReq
  | zdoDevAnnceInd
  | zdoMgmtBindReq
  | zdoMgmtLqiReq
  | zdoMgmtNwkUpdateReq
  | zdoDevAuthorizedInd
  | zdoDevUpdateInd
  | zdoSetNodeDescManufCode
  | apsdeDataReq
  | apsdeDataInd
  | nwkFormation
  | nwkDiscovery
  | nwkPermitJoining
  | nwkGetIeeeByShort
  | nwkGetShortByIeee
  | nwkGetNeighborByIeee
  | nwkRejoinedInd
  | nwkRejoinFailedInd
  | nwkLeaveInd
  | nwkStartWithoutFormation
deriving DecidableEq, Repr

namespace CommandId

def value : CommandId → UInt16
  | .getModuleVersion => 0x0001
  | .ncpReset => 0x0002
  | .getZigbeeRole => 0x0004
  | .setZigbeeRole => 0x0005
  | .getZigbeeChannelMask => 0x0006
  | .setZigbeeChannelMask => 0x0007
  | .getZigbeeChannel => 0x0008
  | .getPanId => 0x0009
  | .setPanId => 0x000a
  | .getLocalIeeeAddr => 0x000b
  | .setLocalIeeeAddr => 0x000c
  | .getTxPower => 0x0010
  | .setTxPower => 0x0011
  | .getRxOnWhenIdle => 0x0012
  | .setRxOnWhenIdle => 0x0013
  | .getJoined => 0x0014
  | .getAuthenticated => 0x0015
  | .setNwkKey => 0x001b
  | .getNwkKeys => 0x001e
  | .getExtendedPanId => 0x0023
  | .getCoordinatorVersion => 0x0024
  | .getShortAddress => 0x0025
  | .getNetworkBackup => 0x0099
  | .restoreNetwork => 0x009a
  | .getStructuredBackup => 0x009b
  | .restoreStructuredBackup => 0x009c
  | .setTcPolicy => 0x0032
  | .setExtendedPanId => 0x0033
  | .setMaxChildren => 0x0034
  | .afSetSimpleDesc => 0x0101
  | .zdoNwkAddrReq => 0x0201
  | .zdoIeeeAddrReq => 0x0202
  | .zdoPowerDescReq => 0x0203
  | .zdoNodeDescReq => 0x0204
  | .zdoSimpleDescReq => 0x0205
  | .zdoActiveEpReq => 0x0206
  | .zdoMatchDescReq => 0x0207
  | .zdoBindReq => 0x0208
  | .zdoUnbindReq => 0x0209
  | .zdoMgmtLeaveReq => 0x020a
  | .zdoPermitJoiningReq => 0x020b
  | .zdoDevAnnceInd => 0x020c
  | .zdoMgmtBindReq => 0x020f
  | .zdoMgmtLqiReq => 0x0210
  | .zdoMgmtNwkUpdateReq => 0x0211
  | .zdoDevAuthorizedInd => 0x0214
  | .zdoDevUpdateInd => 0x0215
  | .zdoSetNodeDescManufCode => 0x0216
  | .apsdeDataReq => 0x0301
  | .apsdeDataInd => 0x0306
  | .nwkFormation => 0x0401
  | .nwkDiscovery => 0x0402
  | .nwkPermitJoining => 0x0404
  | .nwkGetIeeeByShort => 0x0405
  | .nwkGetShortByIeee => 0x0406
  | .nwkGetNeighborByIeee => 0x0407
  | .nwkRejoinedInd => 0x0409
  | .nwkRejoinFailedInd => 0x040a
  | .nwkLeaveInd => 0x040b
  | .nwkStartWithoutFormation => 0x041d

def commands : List CommandId :=
  [.getModuleVersion, .ncpReset, .getZigbeeRole, .setZigbeeRole, .getZigbeeChannelMask,
    .setZigbeeChannelMask, .getZigbeeChannel, .getPanId, .setPanId, .getLocalIeeeAddr,
    .setLocalIeeeAddr, .getTxPower, .setTxPower, .getRxOnWhenIdle, .setRxOnWhenIdle,
    .getJoined, .getAuthenticated, .setNwkKey, .getNwkKeys, .getExtendedPanId,
    .getCoordinatorVersion, .getShortAddress, .getNetworkBackup, .restoreNetwork,
    .getStructuredBackup, .restoreStructuredBackup, .setTcPolicy, .setExtendedPanId,
    .setMaxChildren, .afSetSimpleDesc, .zdoNwkAddrReq, .zdoIeeeAddrReq, .zdoPowerDescReq,
    .zdoNodeDescReq, .zdoSimpleDescReq, .zdoActiveEpReq, .zdoMatchDescReq, .zdoBindReq,
    .zdoUnbindReq, .zdoMgmtLeaveReq, .zdoPermitJoiningReq, .zdoDevAnnceInd, .zdoMgmtBindReq,
    .zdoMgmtLqiReq, .zdoMgmtNwkUpdateReq, .zdoDevAuthorizedInd, .zdoDevUpdateInd,
    .zdoSetNodeDescManufCode, .apsdeDataReq, .apsdeDataInd, .nwkFormation, .nwkDiscovery,
    .nwkPermitJoining, .nwkGetIeeeByShort, .nwkGetShortByIeee, .nwkGetNeighborByIeee,
    .nwkRejoinedInd, .nwkRejoinFailedInd, .nwkLeaveInd, .nwkStartWithoutFormation]

-- The switch over the id of a request.
def find (value : UInt16) : Option CommandId := commands.find? fun id => id.value == value

-- No two commands share an id.
theorem find_value (id : CommandId) : find id.value = some id := by
  cases id <;> rfl

end CommandId

end EspCoordinator
