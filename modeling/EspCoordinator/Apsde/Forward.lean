import EspCoordinator.Apsde.Lemmas

-- What an APSDE_DATA_REQ hands over to ZBOSS
namespace EspCoordinator.Apsde.Forward

open Bytes

def APSDE_TX_OPT_SECURITY : UInt8 := 0x01
def APSDE_TX_OPT_ACK : UInt8 := 0x04
def APS_USER_PAYLOAD_MAX : Nat := 82

def ZB_APS_ADDR_MODE_16_ENDP_PRESENT : UInt8 := 2
def ZB_APS_ADDR_MODE_64_ENDP_PRESENT : UInt8 := 3

-- apsde_data_req_base_t, and apsde_data_req_base_nep_t without dst_endpoint
structure Base where
  addrData : List UInt8
  profileId : UInt16
  clusterId : UInt16
  dstEndpoint : Option UInt8
  srcEndpoint : UInt8
  radius : UInt8
  addrMode : UInt8
  txOptions : UInt8
  useAlias : UInt8
  aliasSrcAddr : UInt16
  aliasSeqNum : UInt8
deriving DecidableEq, Repr

-- One of the two structures that the bytes of a slot are read as.
structure MaxArg where
  dataLength : Nat
  base : Base
  data : List UInt8
deriving DecidableEq, Repr

def byte (arg : Arg) (pos : Nat) : UInt8 := arg.getD pos 0

def half (arg : Arg) (pos : Nat) : UInt16 :=
  UInt16.ofNat (ofLE [byte arg pos, byte arg (pos + 1)])

def block (arg : Arg) (pos size : Nat) : List UInt8 :=
  (List.range size).map fun index => byte arg (pos + index)

-- The two have the same fields behind the endpoint, one byte apart.
def layout (arg : Arg) (dstEndpoint : Option UInt8) (pos : Nat) : MaxArg :=
  { dataLength := dataLength arg
    base :=
      { addrData := block arg 3 8
        profileId := half arg 11
        clusterId := half arg 13
        dstEndpoint
        srcEndpoint := byte arg pos
        radius := byte arg (pos + 1)
        addrMode := byte arg (pos + 2)
        txOptions := byte arg (pos + 3)
        useAlias := byte arg (pos + 4)
        aliasSrcAddr := half arg (pos + 5)
        aliasSeqNum := byte arg (pos + 7) }
    data := (arg.drop (pos + 8)).take MAX_APSDE_DATA_REQ_SIZE }

-- APSDE_DATA_REQ_max_arg_t
def maxArg (arg : Arg) : MaxArg := layout arg (some (byte arg 15)) 16

-- APSDE_DATA_REQ_max_arg_nep_t
def maxArgNep (arg : Arg) : MaxArg := layout arg none 15

-- get_dst_endpoint has an overload for each of the two.
def getDstEndpoint (base : Base) : UInt8 :=
  match base.dstEndpoint with
  | some dstEndpoint => dstEndpoint
  | none => 0

-- `isBroadcast` is ZB_NWK_IS_ADDRESS_BROADCAST, on the addr_short of a zb_addr_u.
def isUnicast (isBroadcast : UInt16 → Bool) (addrMode : UInt8) (dst : List UInt8) : Bool :=
  addrMode == ZB_APS_ADDR_MODE_64_ENDP_PRESENT ||
    (addrMode == ZB_APS_ADDR_MODE_16_ENDP_PRESENT && !isBroadcast (half dst 0))

-- A call that hands a request over.
inductive Call where
  -- the arguments of zb_aps_send_user_payload
  | userPayload (dstAddr : List UInt8) (profileId clusterId : UInt16)
      (dstEndpoint srcEndpoint addrMode : UInt8) (apsAckIsNeeded : Bool) (payload : List UInt8)
  -- the apsde_data_req_t and the payload in the buffer of zb_apsde_data_request
  | dataRequest (base : Base) (unknown2 payload : List UInt8)
deriving DecidableEq, Repr

-- Nothing is handed over when it returns RET_INVALID_PARAMETER_3.
def sendApsSecured (dstAddr : List UInt8) (arg : MaxArg) : Option Call :=
  if arg.dataLength > APS_USER_PAYLOAD_MAX then none
  else
    let base :=
      { addrData := dstAddr
        profileId := arg.base.profileId
        clusterId := arg.base.clusterId
        dstEndpoint := some (getDstEndpoint arg.base)
        srcEndpoint := arg.base.srcEndpoint
        radius := 0
        addrMode := arg.base.addrMode
        txOptions := APSDE_TX_OPT_SECURITY ||| APSDE_TX_OPT_ACK
        useAlias := 0
        aliasSrcAddr := 0
        aliasSeqNum := 0 }
    some (.dataRequest base (List.replicate 5 0) (arg.data.take arg.dataLength))

def startRequest (isBroadcast : UInt16 → Bool) (arg : MaxArg) : Option Call :=
  let dstAddr := arg.base.addrData
  if arg.base.txOptions &&& APSDE_TX_OPT_SECURITY ≠ 0 ∧
      isUnicast isBroadcast arg.base.addrMode dstAddr then
    sendApsSecured dstAddr arg
  else
    some (.userPayload dstAddr arg.base.profileId arg.base.clusterId (getDstEndpoint arg.base)
      arg.base.srcEndpoint arg.base.addrMode true (arg.data.take arg.dataLength))

def doRequest (isBroadcast : UInt16 → Bool) (arg : Arg) : Option Call :=
  if paramLength arg = 21 then startRequest isBroadcast (maxArg arg)
  else startRequest isBroadcast (maxArgNep arg)

-- A request as a host means it. One without a destination endpoint has the
-- shorter header.
structure DataRequest where
  base : Base
  data : List UInt8
  addr : base.addrData.length = 8
  least : 2 ≤ data.length
  most : data.length ≤ MAX_APSDE_DATA_REQ_SIZE

namespace DataRequest

def paramLength : Option UInt8 → UInt8
  | some _ => 21
  | none => 20

def bytes (d : DataRequest) : List UInt8 :=
  [paramLength d.base.dstEndpoint] ++ toLE 2 d.data.length ++ d.base.addrData ++
    toLE 2 d.base.profileId.toNat ++ toLE 2 d.base.clusterId.toNat ++
    d.base.dstEndpoint.toList ++
    [d.base.srcEndpoint, d.base.radius, d.base.addrMode, d.base.txOptions, d.base.useAlias] ++
    toLE 2 d.base.aliasSrcAddr.toNat ++ [d.base.aliasSeqNum] ++ d.data

-- The destination is one device.
def Unicast (isBroadcast : UInt16 → Bool) (d : DataRequest) : Prop :=
  d.base.addrMode = 3 ∨
    d.base.addrMode = 2 ∧ isBroadcast (UInt16.ofNat (ofLE (d.base.addrData.take 2))) = false

-- The host wants the link key, and there is one for the destination.
def Secured (isBroadcast : UInt16 → Bool) (d : DataRequest) : Prop :=
  d.base.txOptions &&& 1 ≠ 0 ∧ d.Unicast isBroadcast

-- A payload that the link key makes too long is not handed over.
def TooLong (isBroadcast : UInt16 → Bool) (d : DataRequest) : Prop :=
  d.Secured isBroadcast ∧ APS_USER_PAYLOAD_MAX < d.data.length

instance (isBroadcast : UInt16 → Bool) (d : DataRequest) : Decidable (d.Unicast isBroadcast) :=
  inferInstanceAs (Decidable (_ ∨ _ ∧ _))

instance (isBroadcast : UInt16 → Bool) (d : DataRequest) : Decidable (d.Secured isBroadcast) :=
  inferInstanceAs (Decidable (_ ∧ _))

instance (isBroadcast : UInt16 → Bool) (d : DataRequest) : Decidable (d.TooLong isBroadcast) :=
  inferInstanceAs (Decidable (_ ∧ _))

end DataRequest

-- What ZBOSS is told by either call.
structure Delivered where
  secured : Bool
  addr : List UInt8
  profileId : UInt16
  clusterId : UInt16
  dstEndpoint : UInt8
  srcEndpoint : UInt8
  addrMode : UInt8
  payload : List UInt8
deriving DecidableEq, Repr

def Call.delivered : Call → Delivered
  | .userPayload addr profileId clusterId dstEndpoint srcEndpoint addrMode _ payload =>
      { secured := false, addr, profileId, clusterId, dstEndpoint, srcEndpoint, addrMode, payload }
  | .dataRequest base _ payload =>
      { secured := true
        addr := base.addrData
        profileId := base.profileId
        clusterId := base.clusterId
        dstEndpoint := getDstEndpoint base
        srcEndpoint := base.srcEndpoint
        addrMode := base.addrMode
        payload }

def DataRequest.delivered (isBroadcast : UInt16 → Bool) (d : DataRequest) : Delivered :=
  { secured := decide (d.Secured isBroadcast)
    addr := d.base.addrData
    profileId := d.base.profileId
    clusterId := d.base.clusterId
    dstEndpoint := d.base.dstEndpoint.getD 0
    srcEndpoint := d.base.srcEndpoint
    addrMode := d.base.addrMode
    payload := d.data }

end EspCoordinator.Apsde.Forward
