import EspCoordinator.Backup

namespace EspCoordinator.Immediate

open Backup (IeeeAddr Neighbor)

-- What the calls into the stack return that an immediate handler makes.
structure Stack where
  -- zboss_version_get, and the ZB_PROTOCOL_VERSION it was built with
  version : UInt32
  protocolVersion : UInt32
  networkRole : UInt8
  channelMask : UInt32
  currentChannel : UInt8
  panId : UInt16
  -- zb_zdo_joined, and ZB_JOINED as a byte
  joined : Bool
  joinedByte : UInt8
  longAddress : IeeeAddr
  -- esp_read_mac
  mac : Option IeeeAddr
  extendedPanId : IeeeAddr
  rxOnWhenIdle : UInt8
  coordinatorVersion : UInt8
  shortAddress : UInt16
  updateId : UInt8
  primaryNetworkKey : Option (Vector UInt8 16)
  frameCounter : UInt32
  neighbors : List Neighbor
  -- RET_OK of zb_set_tx_power
  setTxPower : UInt8 → Bool
  -- zb_buf_get_out has a buffer
  bufGetOut : Bool

-- A call that an immediate handler makes to change the stack.
inductive Call where
  | setChannelMask (mask : UInt32)
  | setPanId (pan : UInt16)
  | setTxPower (power : UInt8)
  | setRxOnWhenIdle (rxOn : UInt8)
  | setupNwkKey (key : List UInt8) (index : UInt8)
  | setUpdateTrustCenterLinkKeysRequired (value : UInt8)
  | setInstallcodePolicy (value : UInt8)
  | setTcRejoinEnabled (value : UInt8)
  | setIgnoreTcRejoin (value : UInt8)
  | setApsUnsecureJoin (value : UInt8)
  | disableNetworkMgmtChannelUpdate (value : UInt8)
  | setExtendedPanId (ext : List UInt8)
  | setMaxChildren (children : UInt8)
  | mgmtPermitJoiningReq (destAddr : UInt16) (duration tcSignificance : UInt8)
  | deviceLeaveReq (deviceAddress : List UInt8) (dstNwkAddr : UInt16) (rejoin : Bool)
  | setManufacturerCodeReq (code : UInt16)
deriving DecidableEq, Repr

end EspCoordinator.Immediate
