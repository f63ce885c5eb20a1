import EspCoordinator.Lib.Cursor
import EspCoordinator.Protocol
import EspCoordinator.Reply
import EspCoordinator.Requests

-- The ZDO responses that carry a list
namespace EspCoordinator.RequestProcess.ListResponse

open Bytes
open Requests (STATUS_CATEGORY_ZDO)

-- request_cmd_process::handle_response
def handleResponse (cmd : Cmd) (formatted : Reply) : Reply :=
  { stores := Reply.header cmd ++ formatted.stores.map (Memory.Store.shift CMD_SIZE)
    outlen := CMD_SIZE + formatted.outlen }

-- request_cmd_process::format_response
def baseFormatResponse (resp : List UInt8) : Cursor UInt8 :=
  (Cursor.start.put resp).patch 0 [STATUS_CATEGORY_ZDO]

def replyOf (c : Cursor UInt8) : Reply := { stores := c.stores, outlen := c.pos }

-- zb_zdo_ep_resp_t and zb_zdo_match_desc_resp_t; `list` is what stands behind.
structure EpResp where
  tsn : UInt8
  status : UInt8
  nwkAddr : UInt16
  count : UInt8
  list : Memory UInt8

def EpResp.bytes (resp : EpResp) : List UInt8 :=
  [resp.tsn, resp.status] ++ toLE 2 resp.nwkAddr.toNat ++ [resp.count]

-- resp_buffer_size
def ACTIVE_EP_SIZE : Nat := 5 + 16
def MATCH_DESC_SIZE : Nat := 5 + 64

-- cmd_handle<ZDO_ACTIVE_EP_REQ>::format_response
def activeEp (resp : EpResp) : Reply :=
  let epCount := if resp.count.toNat > 16 then 16 else resp.count.toNat
  { stores := (baseFormatResponse resp.bytes).stores ++
      [{ offset := 2, bytes := [UInt8.ofNat epCount] }] ++
      (List.range epCount).map (fun i => { offset := 3 + i, bytes := [resp.list i] }) ++
      [{ offset := 3 + epCount, bytes := toLE 2 resp.nwkAddr.toNat }]
    outlen := 3 + epCount + 2 }

-- cmd_handle<ZDO_MATCH_DESC_REQ>::format_response
def matchDesc (resp : EpResp) : Reply :=
  let out := (Cursor.start.put [STATUS_CATEGORY_ZDO]).put [resp.status]
  let len := if resp.count.toNat > 64 then 64 else resp.count.toNat
  let out := out.put [UInt8.ofNat len]
  let out := (List.range len).foldl (fun out i => out.put [resp.list i]) out
  replyOf (out.put (toLE 2 resp.nwkAddr.toNat))

-- A response of which the fields are copied, the count last, and behind them
-- the entries. `fixed` is what stands between the tsn and the count.
def copied (tsn : UInt8) (fixed : List UInt8) (count : UInt8)
    (copyEntry : Nat → Cursor UInt8 → Cursor UInt8) : Cursor UInt8 :=
  let out := baseFormatResponse (tsn :: fixed ++ [count])
  let cnt := if count.toNat > 64 then 64 else count.toNat
  let out := if count.toNat > 64 then out.patch (1 + fixed.length) [UInt8.ofNat cnt] else out
  (List.range cnt).foldl (fun out i => copyEntry i out) out

-- sizeof(zb_zdo_neighbor_table_record_t)
def NEIGHBOR_RECORD_SIZE : Nat := 22

def MGMT_LQI_SIZE : Nat := 5 + 64 * NEIGHBOR_RECORD_SIZE

-- zb_zdo_mgmt_lqi_resp_t and what stands behind
structure LqiResp where
  tsn : UInt8
  status : UInt8
  neighborTableEntries : UInt8
  startIndex : UInt8
  neighborTableListCount : UInt8
  list : Memory UInt8

def LqiResp.record (resp : LqiResp) (i : Nat) : List UInt8 :=
  resp.list.read (NEIGHBOR_RECORD_SIZE * i) NEIGHBOR_RECORD_SIZE

-- cmd_handle<ZDO_MGMT_LQI_REQ>::format_response
def mgmtLqi (resp : LqiResp) : Reply :=
  replyOf (copied resp.tsn [resp.status, resp.neighborTableEntries, resp.startIndex]
    resp.neighborTableListCount fun i out => out.put (resp.record i))

def MGMT_NWK_UPDATE_SIZE : Nat := 11 + 64

-- zb_zdo_mgmt_nwk_update_notify_hdr_t and what stands behind
structure NwkUpdateResp where
  tsn : UInt8
  status : UInt8
  scannedChannels : UInt32
  totalTransmissions : UInt16
  transmissionFailures : UInt16
  scannedChannelsListCount : UInt8
  list : Memory UInt8

def NwkUpdateResp.fixed (resp : NwkUpdateResp) : List UInt8 :=
  resp.status :: toLE 4 resp.scannedChannels.toNat ++ toLE 2 resp.totalTransmissions.toNat ++
    toLE 2 resp.transmissionFailures.toNat

-- cmd_handle<ZDO_MGMT_NWK_UPDATE_REQ>::format_response
def mgmtNwkUpdate (resp : NwkUpdateResp) : Reply :=
  replyOf (copied resp.tsn resp.fixed resp.scannedChannelsListCount fun i out =>
    out.put [resp.list i])

-- zb_zdo_binding_table_record_t. The short address of the union lies over the
-- first two bytes of the long one.
structure BindingRecord where
  srcAddress : UInt64
  srcEndp : UInt8
  clusterId : UInt16
  dstAddrMode : UInt8
  dstAddress : UInt64
  dstEndp : UInt8
deriving DecidableEq, Repr

def BindingRecord.addrShort (src : BindingRecord) : UInt16 := src.dstAddress.toUInt16

-- sizeof(zb_zdo_binding_table_record_t)
def BINDING_RECORD_SIZE : Nat := 21

def MGMT_BIND_SIZE : Nat := 5 + 64 * BINDING_RECORD_SIZE

-- zb_zdo_mgmt_bind_resp_t and what stands behind
structure BindResp where
  tsn : UInt8
  status : UInt8
  bindingTableEntries : UInt8
  startIndex : UInt8
  bindingTableListCount : UInt8
  list : Nat → BindingRecord

def copyBinding (src : BindingRecord) (out : Cursor UInt8) : Cursor UInt8 :=
  let out := (out.put (toLE 8 src.srcAddress.toNat)).put [src.srcEndp]
  let out := (out.put (toLE 2 src.clusterId.toNat)).put [src.dstAddrMode]
  if src.dstAddrMode = 0x01 then out.put (toLE 2 src.addrShort.toNat)
  else if src.dstAddrMode = 0x03 then (out.put (toLE 8 src.dstAddress.toNat)).put [src.dstEndp]
  else out

-- cmd_handle<ZDO_MGMT_BIND_REQ>::format_response
def mgmtBind (resp : BindResp) : Reply :=
  replyOf (copied resp.tsn [resp.status, resp.bindingTableEntries, resp.startIndex]
    resp.bindingTableListCount fun i out => copyBinding (resp.list i) out)

end EspCoordinator.RequestProcess.ListResponse
