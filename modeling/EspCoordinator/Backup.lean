import EspCoordinator.Lib.Bytes
import EspCoordinator.Lib.Nor
import EspCoordinator.Lib.Scanner
import EspCoordinator.Lib.Tlv
import EspCoordinator.Restore

namespace EspCoordinator.Backup

open Bytes
open Restore (Status field)

abbrev IeeeAddr := Vector UInt8 8

def MAGIC : List UInt8 := [0x5a, 0x42, 0x53, 0x42]
def VERSION : UInt8 := 1

def TAG_PAN_ID : UInt8 := 0x01
def TAG_EXT_PAN_ID : UInt8 := 0x02
def TAG_CHANNEL : UInt8 := 0x03
def TAG_NWK_UPDATE_ID : UInt8 := 0x04
def TAG_COORD_IEEE : UInt8 := 0x05
def TAG_NWK_KEY : UInt8 := 0x06
def TAG_NWK_FRAME_COUNTER : UInt8 := 0x08
def TAG_DEVICE_TABLE : UInt8 := 0x10

-- sizeof(header_t) and sizeof(device_record_t)
def HEADER_SIZE : Nat := 8
def RECORD_SIZE : Nat := 16

def MAX_DEVICES : Nat := 64
def MAX_IMAGE_SIZE : Nat := 8 + 80 + 3 + MAX_DEVICES * 16 + 16

-- What the getters of the stack return on a network in operation. There is no
-- key to be had before the coordinator has joined.
structure Network where
  panId : UInt16
  extendedPanId : IeeeAddr
  currentChannel : UInt8
  updateId : UInt8
  longAddress : IeeeAddr
  primaryNetworkKey : Option (Vector UInt8 16)
  frameCounter : UInt32
  channel_ge : 11 ≤ currentChannel
  channel_le : currentChannel ≤ 26

-- esp_zb_nwk_neighbor_info_t
structure Neighbor where
  ieeeAddr : IeeeAddr
  shortAddr : UInt16
  rxOnWhenIdle : UInt8
  relationship : UInt8
  deviceType : UInt8
  depth : UInt8
  lqi : UInt8
deriving DecidableEq

-- device_record_t
def deviceRecord (nbr : Neighbor) : List UInt8 :=
  nbr.ieeeAddr.toList ++ (toLE 2 nbr.shortAddr.toNat ++
    [nbr.rxOnWhenIdle, nbr.relationship, nbr.deviceType, nbr.depth, nbr.lqi, 0])

def emit (tag : UInt8) (value : List UInt8) (out : List UInt8) : List UInt8 :=
  out ++ tag :: (toLE 2 value.length ++ value)

-- Moves the cursor over a field that is written later; until then it has what
-- `outdata` held before.
def reserve (outdata : Nat → UInt8) (width : Nat) (out : List UInt8) : List UInt8 :=
  out ++ (List.range width).map fun i => outdata (out.length + i)

def patch (out : List UInt8) (pos : Nat) (bytes : List UInt8) : List UInt8 :=
  out.take pos ++ (bytes ++ out.drop (pos + bytes.length))

-- The iterator yields the neighbours one by one; the cap is tested first.
def emitDevices : List Neighbor → Nat → List UInt8 → Nat × List UInt8
  | [], devCount, out => (devCount, out)
  | nbr :: iter, devCount, out =>
      if devCount < MAX_DEVICES then emitDevices iter (devCount + 1) (out ++ deviceRecord nbr)
      else (devCount, out)

-- The TLVs in the order the source emits them, up to the device table.
def emitNetwork (network : Network) (out : List UInt8) : List UInt8 :=
  let out := emit TAG_PAN_ID (toLE 2 network.panId.toNat) out
  let out := emit TAG_EXT_PAN_ID network.extendedPanId.toList out
  let out := emit TAG_CHANNEL [network.currentChannel] out
  let out := emit TAG_NWK_UPDATE_ID [network.updateId] out
  let out := emit TAG_COORD_IEEE network.longAddress.toList out
  let out :=
    match network.primaryNetworkKey with
    | some nwkKey => emit TAG_NWK_KEY nwkKey.toList out
    | none => out
  emit TAG_NWK_FRAME_COUNTER (toLE 4 network.frameCounter.toNat) out

def emitDeviceTable (neighbors : List Neighbor) (outdata : Nat → UInt8) (out : List UInt8) :
    List UInt8 :=
  let out := out ++ [TAG_DEVICE_TABLE]
  let devLenField := out.length
  let out := reserve outdata 2 out
  let (devCount, out) := emitDevices neighbors 0 out
  patch out devLenField (toLE 2 (devCount * RECORD_SIZE))

-- The response: category and status, then the image. `outdata` is the buffer
-- on the stack as the handler finds it.
def getStructuredBackup (network : Network) (neighbors : List Neighbor)
    (outdata : Nat → UInt8) : List UInt8 :=
  let out := [0, 0]
  let imageStart := out.length
  let out := out ++ (MAGIC ++ [VERSION, 0])
  let out := reserve outdata 2 out
  let tlvStart := out.length
  let out := emitNetwork network out
  let out := emitDeviceTable neighbors outdata out
  patch out (imageStart + 6) (toLE 2 (out.length - tlvStart))

-- The part of header_t that is read back.
structure Header where
  magic : List UInt8
  version : UInt8
  payloadLen : Nat
deriving DecidableEq, Repr

def header (image : List UInt8) : Header :=
  { magic := image.take 4, version := image.getD 4 0, payloadLen := field image 6 2 }

structure Device (size : Nat) where
  -- "restore_pend"/"tlv"
  tlv : Option (List UInt8)
  -- zb_storage, if the partition table has it
  zb : Option (Nor size)
  -- the reboot tasks created this boot
  reboots : Nat
deriving DecidableEq

-- A failed NVS write may have stored the value all the same.
inductive NvsWrite where
  | done
  | failed (stored : Bool)
deriving DecidableEq

def NvsWrite.apply {α : Type*} (old new : α) : NvsWrite → α × Bool
  | .done => (new, true)
  | .failed stored => (if stored then new else old, false)

-- How the calls out of one RESTORE_STRUCTURED_BACKUP end.
structure Outcomes (size : Nat) where
  nvsOpen : Bool
  nvsSetBlob : NvsWrite
  nvsCommit : NvsWrite
  eraseZb : Nor.Outcome size

variable {size : Nat}

def Outcomes.done : Outcomes size :=
  { nvsOpen := true, nvsSetBlob := .done, nvsCommit := .done, eraseZb := .done }

structure Result (size : Nat) where
  device : Device size
  status : Status

-- A blob that was set reaches the flash with the commit at the latest.
def setBlob (o : Outcomes size) (old : Option (List UInt8)) (inbuffer : List UInt8) :
    Option (List UInt8) × Bool :=
  match o.nvsSetBlob.apply old (some inbuffer) with
  | (_, true) => o.nvsCommit.apply old (some inbuffer)
  | (tlv, false) => (tlv, false)

def eraseStorage (o : Outcomes size) : Option (Nor size) → Option (Nor size) × Bool
  | some _ =>
      let (zb, ze) := Nor.erase o.eraseZb
      (some zb, ze)
  | none => (none, true)

def scheduleReboot (d : Device size) : Device size := { d with reboots := d.reboots + 1 }

-- The checked request: the image goes to NVS and zb_storage is wiped. An image
-- that was stored stays when the wipe fails.
def storeImage (o : Outcomes size) (d : Device size) (inbuffer : List UInt8) : Result size :=
  if !o.nvsOpen then { device := d, status := .operationFailed }
  else
    let (tlv, err) := setBlob o d.tlv inbuffer
    let d := { d with tlv }
    if !err then { device := d, status := .operationFailed }
    else
      let (zb, ze) := eraseStorage o d.zb
      let d := { d with zb }
      if !ze then { device := d, status := .operationFailed }
      else { device := scheduleReboot d, status := .ok }

def restoreStructuredBackup (o : Outcomes size) (d : Device size) (inbuffer : List UInt8) :
    Result size :=
  let hdr := header inbuffer
  if inbuffer.length < HEADER_SIZE then { device := d, status := .invalidParameter }
  else if hdr.magic ≠ MAGIC then { device := d, status := .invalidParameter }
  else if hdr.version ≠ VERSION then { device := d, status := .invalidParameter }
  else if HEADER_SIZE + hdr.payloadLen > inbuffer.length then
    { device := d, status := .invalidParameter }
  else storeImage o d inbuffer

-- What a replay does to the stack: its setters, and the channel in the PIB cache.
inductive Call where
  | setPanId (pan : UInt16)
  | nwkSetExtendedPanId (ext : IeeeAddr)
  | setChannelMask (mask : UInt32)
  | setBdbPrimaryChannelSet (mask : UInt32)
  | setBdbSecondaryChannelSet (mask : UInt32)
  | pibcacheCurrentChannel (ch : UInt8)
  | nwkSetUpdateId (id : UInt8)
  | setLongAddress (ieee : IeeeAddr)
  | securNetworkKeySet (key : Vector UInt8 16)
  | nwkSetFrameCounter (fc : UInt32)
deriving DecidableEq

-- `if (len != n) break;` and the memcpy behind it.
def fixed (n : Nat) (value : List UInt8) : Option (Vector UInt8 n) :=
  if h : value.length = n then some ⟨value.toArray, by simpa using h⟩ else none

def channelCalls (ch : UInt8) : List Call :=
  if 11 ≤ ch ∧ ch ≤ 26 then
    let mask : UInt32 := 1 <<< ch.toUInt32
    [.setChannelMask mask, .setBdbPrimaryChannelSet mask, .setBdbSecondaryChannelSet mask,
      .pibcacheCurrentChannel ch]
  else []

-- The switch over the tag of one TLV. The device table and unknown tags are
-- passed over.
def replayTlv (t : Tlv) : List Call :=
  if t.tag = TAG_PAN_ID then
    (fixed 2 t.value).toList.map fun v => .setPanId (UInt16.ofNat (ofLE v.toList))
  else if t.tag = TAG_EXT_PAN_ID then (fixed 8 t.value).toList.map .nwkSetExtendedPanId
  else if t.tag = TAG_CHANNEL then
    (fixed 1 t.value).toList.flatMap fun v => channelCalls v[0]
  else if t.tag = TAG_NWK_UPDATE_ID then
    (fixed 1 t.value).toList.map fun v => .nwkSetUpdateId v[0]
  else if t.tag = TAG_COORD_IEEE then (fixed 8 t.value).toList.map .setLongAddress
  else if t.tag = TAG_NWK_KEY then (fixed 16 t.value).toList.map .securNetworkKeySet
  else if t.tag = TAG_NWK_FRAME_COUNTER then
    (fixed 4 t.value).toList.map fun v => .nwkSetFrameCounter (UInt32.ofNat (ofLE v.toList))
  else []

-- One turn of the replay loop: from `p` to `end`, a TLV must fit whole.
def scanTlv : List UInt8 → Scan UInt8 Tlv
  | tag :: lo :: hi :: rest =>
      let len := ofLE [lo, hi]
      if len > rest.length then .wait (tag :: lo :: hi :: rest)
      else .item (Tlv.front tag len (ofLE_pair_lt lo hi) rest) (rest.drop len)
  | tail => .wait tail

theorem scanTlv_shrinks {input rest : List UInt8} {t : Tlv}
    (h : scanTlv input = .item t rest) : rest.length < input.length := by
  match input with
  | tag :: lo :: hi :: tail =>
      simp only [scanTlv] at h
      split at h
      · cases h
      · cases h
        simp only [List.length_drop, List.length_cons]
        omega
  | [] | [_] | [_, _] => cases h

def tlvs : Scanner UInt8 Tlv := { scan := scanTlv, shrinks := scanTlv_shrinks }

-- The loop ends at the first TLV that runs past the end or has no header.
def replay (payload : List UInt8) : List Call := (tlvs.cut payload).1.flatMap replayTlv

-- How the calls out of apply_pending_restore end. Nobody looks at the result
-- of the erase; `erased` tells whether the blob is gone afterwards.
structure BootOutcomes where
  nvsOpen : Bool
  blobSize : Bool
  malloc : Bool
  getBlob : Bool
  erased : Bool

structure Applied (size : Nat) where
  device : Device size
  calls : List Call
  -- s_restore_applied
  restoreApplied : Bool

-- What runs after ZB_INIT: the stored blob, if any, is dropped from NVS and
-- then replayed.
def applyPendingRestore (o : BootOutcomes) (d : Device size) : Applied size :=
  let notApplied (d : Device size) : Applied size :=
    { device := d, calls := [], restoreApplied := false }
  match d.tlv with
  | none => notApplied d
  | some buf =>
      if !o.nvsOpen then notApplied d
      else if !o.blobSize ∨ buf.length < HEADER_SIZE then notApplied d
      else if !o.malloc then notApplied d
      else if !o.getBlob then notApplied d
      else
        let d := if o.erased then { d with tlv := none } else d
        let hdr := header buf
        if hdr.magic ≠ MAGIC ∨ hdr.version ≠ VERSION ∨
            HEADER_SIZE + hdr.payloadLen > buf.length then notApplied d
        else
          { device := d
            calls := replay ((buf.drop HEADER_SIZE).take hdr.payloadLen)
            restoreApplied := true }

end EspCoordinator.Backup
