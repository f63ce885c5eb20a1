import Mathlib.Data.List.GetD
import EspCoordinator.Backup.Image
import EspCoordinator.Backup.Web

namespace EspCoordinator.Backup

open Bytes

-- Both parsers cut the TLVs of an image as they were written.

theorem scanTlv_encode (t : Tlv) (tail : List UInt8) :
    scanTlv (t.encode ++ tail) = .item t tail := by
  obtain ⟨lo, hi, hlen, hbytes⟩ := t.encode_append tail
  have hfits : ¬ t.value.length > (t.value ++ tail).length := by
    rw [List.length_append]
    omega
  simp only [hbytes, scanTlv, hlen, if_neg hfits, Tlv.front_append, List.drop_left]

theorem Web.scanTlv_encode (t : Tlv) (tail : List UInt8) :
    Web.scanTlv (t.encode ++ tail) = .item t tail := by
  obtain ⟨lo, hi, hlen, hbytes⟩ := t.encode_append tail
  simp only [hbytes, Web.scanTlv, Web.join16_eq, hlen, Tlv.front_append, List.drop_left]

theorem cut_encode (ts : List Tlv) : tlvs.cut (ts.flatMap Tlv.encode) = (ts, []) := by
  have hcut := tlvs.cut_flatMap Tlv.encode id rfl scanTlv_encode ts
  rwa [List.map_id] at hcut

theorem Web.cut_encode (ts : List Tlv) : Web.tlvs.cut (ts.flatMap Tlv.encode) = (ts, []) := by
  have hcut := Web.tlvs.cut_flatMap Tlv.encode id rfl Web.scanTlv_encode ts
  rwa [List.map_id] at hcut

theorem fixed_of_length {n : Nat} {value : List UInt8} (h : value.length = n) :
    fixed n value = some ⟨value.toArray, by simpa using h⟩ := dif_pos h

theorem fixed_toList {n : Nat} (v : Vector UInt8 n) : fixed n v.toList = some v := by
  rw [fixed_of_length v.length_toList]
  congr 1

def channelMask (ch : UInt8) : UInt32 := 1 <<< ch.toUInt32

-- What a replay of the image of `network` must do.
def identityCalls (network : Network) : List Call :=
  [.setPanId network.panId,
    .nwkSetExtendedPanId network.extendedPanId,
    .setChannelMask (channelMask network.currentChannel),
    .setBdbPrimaryChannelSet (channelMask network.currentChannel),
    .setBdbSecondaryChannelSet (channelMask network.currentChannel),
    .pibcacheCurrentChannel network.currentChannel,
    .nwkSetUpdateId network.updateId,
    .setLongAddress network.longAddress] ++
  (network.primaryNetworkKey.toList.map .securNetworkKeySet ++
    [.nwkSetFrameCounter network.frameCounter])

theorem replayTlv_panId (pan : UInt16) (h : (toLE 2 pan.toNat).length < 2 ^ 16) :
    replayTlv { tag := TAG_PAN_ID, value := toLE 2 pan.toNat, fits := h } = [.setPanId pan] := by
  have hpan : ofLE (toLE 2 pan.toNat) = pan.toNat := ofLE_toLE 2 pan.toNat pan.toNat_lt
  change (fixed 2 (toLE 2 pan.toNat)).toList.map
    (fun v => Call.setPanId (UInt16.ofNat (ofLE v.toList))) = _
  simp [fixed_of_length (length_toLE 2 pan.toNat), hpan]

theorem replayTlv_extendedPanId (ext : IeeeAddr) (h : ext.toList.length < 2 ^ 16) :
    replayTlv { tag := TAG_EXT_PAN_ID, value := ext.toList, fits := h } =
      [.nwkSetExtendedPanId ext] := by
  change (fixed 8 ext.toList).toList.map _ = _
  rw [fixed_toList, Option.toList_some, List.map_singleton]

theorem replayTlv_channel (ch : UInt8) (hge : 11 ≤ ch) (hle : ch ≤ 26)
    (h : [ch].length < 2 ^ 16) :
    replayTlv { tag := TAG_CHANNEL, value := [ch], fits := h } =
      [.setChannelMask (channelMask ch), .setBdbPrimaryChannelSet (channelMask ch),
        .setBdbSecondaryChannelSet (channelMask ch), .pibcacheCurrentChannel ch] := by
  change channelCalls ch ++ [] = _
  rw [List.append_nil, channelCalls, if_pos ⟨hge, hle⟩]
  simp only [channelMask]

theorem replayTlv_updateId (id : UInt8) (h : [id].length < 2 ^ 16) :
    replayTlv { tag := TAG_NWK_UPDATE_ID, value := [id], fits := h } = [.nwkSetUpdateId id] :=
  rfl

theorem replayTlv_longAddress (ieee : IeeeAddr) (h : ieee.toList.length < 2 ^ 16) :
    replayTlv { tag := TAG_COORD_IEEE, value := ieee.toList, fits := h } =
      [.setLongAddress ieee] := by
  change (fixed 8 ieee.toList).toList.map _ = _
  rw [fixed_toList, Option.toList_some, List.map_singleton]

theorem replayTlv_counterRecord (fc : UInt32) :
    replayTlv (counterRecord fc) = [.nwkSetFrameCounter fc] := by
  have hfc : ofLE (toLE 4 fc.toNat) = fc.toNat := ofLE_toLE 4 fc.toNat fc.toNat_lt
  change (fixed 4 (toLE 4 fc.toNat)).toList.map
    (fun v => Call.nwkSetFrameCounter (UInt32.ofNat (ofLE v.toList))) = _
  simp [fixed_of_length (length_toLE 4 fc.toNat), hfc]

theorem replay_keyRecords (key : Option (Vector UInt8 16)) :
    (keyRecords key).flatMap replayTlv = key.toList.map .securNetworkKeySet := by
  cases key with
  | none => rfl
  | some key =>
      change (fixed 16 key.toList).toList.map _ ++ [] = _
      rw [fixed_toList, List.append_nil]

theorem replayTlv_deviceTable (neighbors : List Neighbor) :
    replayTlv (deviceTable neighbors) = [] := rfl

theorem replay_payload (network : Network) (neighbors : List Neighbor) :
    replay (payload network neighbors) = identityCalls network := by
  rw [replay, payload, cut_encode]
  simp only [records, networkRecords, identityRecords, List.flatMap_append, List.flatMap_cons,
    List.flatMap_nil, List.append_nil, replayTlv_panId, replayTlv_extendedPanId,
    replayTlv_channel _ network.channel_ge network.channel_le, replayTlv_updateId,
    replayTlv_longAddress, replay_keyRecords, replayTlv_counterRecord, replayTlv_deviceTable,
    identityCalls, List.cons_append, List.nil_append]

-- What the flasher must read out of the same image.

def deviceOf (nbr : Neighbor) : Web.DeviceEntry :=
  { nwkAddress := Web.hex 4 nbr.shortAddr.toNat
    ieeeAddress := Web.buf2hex nbr.ieeeAddr.toList
    isChild := true }

def structuredOf (network : Network) (neighbors : List Neighbor) : Web.Structured :=
  { panId := some network.panId.toNat
    extendedPanId := some network.extendedPanId.toList
    channel := some network.currentChannel
    nwkUpdateId := some network.updateId
    coordinatorIeee := some network.longAddress.toList
    networkKey := network.primaryNetworkKey.map Vector.toList
    networkKeySeq := none
    frameCounter := some network.frameCounter.toNat
    devices := (exported neighbors).map deviceOf }

theorem join16_toLE (n : UInt16) (tail : List UInt8) :
    Web.join16 ((toLE 2 n.toNat ++ tail).getD 0 0) ((toLE 2 n.toNat ++ tail).getD 1 0) =
      n.toNat := by
  have hn : ofLE (toLE 2 n.toNat) = n.toNat := ofLE_toLE 2 n.toNat n.toNat_lt
  rw [Web.join16_eq]
  exact hn

theorem deviceRecord_append (nbr : Neighbor) (tail : List UInt8) :
    ∃ rest, deviceRecord nbr ++ tail =
      nbr.ieeeAddr.toList ++ (toLE 2 nbr.shortAddr.toNat ++ rest) := by
  refine ⟨[nbr.rxOnWhenIdle, nbr.relationship, nbr.deviceType, nbr.depth, nbr.lqi, 0] ++ tail, ?_⟩
  simp only [deviceRecord, List.append_assoc]

theorem deviceEntry_deviceRecord (nbr : Neighbor) (tail : List UInt8) :
    Web.deviceEntry (deviceRecord nbr ++ tail) = deviceOf nbr := by
  have hieee : nbr.ieeeAddr.toList.length = 8 := nbr.ieeeAddr.length_toList
  obtain ⟨rest, hrest⟩ := deviceRecord_append nbr tail
  have htake : (deviceRecord nbr ++ tail).take 8 = nbr.ieeeAddr.toList := by
    rw [hrest, List.take_left' hieee]
  have hget : ∀ k, (deviceRecord nbr ++ tail).getD (8 + k) 0 =
      (toLE 2 nbr.shortAddr.toNat ++ rest).getD k 0 := by
    intro k
    rw [hrest, List.getD_append_right _ _ _ _ (by omega), hieee, Nat.add_sub_cancel_left]
  rw [Web.deviceEntry, htake, hget 0, hget 1, join16_toLE, deviceOf]

theorem scanDevice_deviceRecord (nbr : Neighbor) (tail : List UInt8) :
    Web.scanDevice (deviceRecord nbr ++ tail) = .item (deviceOf nbr) tail := by
  have hlen : 16 ≤ (deviceRecord nbr ++ tail).length := by
    rw [List.length_append, length_deviceRecord]
    omega
  have hdrop : (deviceRecord nbr ++ tail).drop 16 = tail := by
    rw [← length_deviceRecord nbr, List.drop_left]
  rw [Web.scanDevice, if_pos hlen, deviceEntry_deviceRecord, hdrop]

theorem parseTlv_panId (r : Web.Structured) (pan : UInt16)
    (h : (toLE 2 pan.toNat).length < 2 ^ 16) :
    Web.parseTlv r { tag := TAG_PAN_ID, value := toLE 2 pan.toNat, fits := h } =
      .ok { r with panId := some pan.toNat } := by
  have hpan := join16_toLE pan []
  rw [List.append_nil] at hpan
  change Except.ok { r with panId := some (Web.join16 ((toLE 2 pan.toNat).getD 0 0)
    ((toLE 2 pan.toNat).getD 1 0)) } = _
  rw [hpan]

theorem parseTlv_counterRecord (r : Web.Structured) (fc : UInt32) :
    Web.parseTlv r (counterRecord fc) = .ok { r with frameCounter := some fc.toNat } := by
  have hfc : ofLE (toLE 4 fc.toNat) = fc.toNat := ofLE_toLE 4 fc.toNat fc.toNat_lt
  have hget : Web.getUint (toLE 4 fc.toNat) 0 4 = .ok fc.toNat := by
    rw [Web.getUint, if_pos (by rw [length_toLE]), Restore.field, List.drop_zero,
      List.take_of_length_le (by rw [length_toLE]), hfc]
  change (Web.getUint (toLE 4 fc.toNat) 0 4).map
    (fun frameCounter => { r with frameCounter := some frameCounter }) = _
  rw [hget]
  rfl

theorem parseTlv_deviceTable (r : Web.Structured) (neighbors : List Neighbor) :
    Web.parseTlv r (deviceTable neighbors) =
      .ok { r with devices := r.devices ++ (exported neighbors).map deviceOf } := by
  have hcut := Web.devices.cut_flatMap deviceRecord deviceOf rfl scanDevice_deviceRecord
    (exported neighbors)
  change Except.ok { r with
    devices := r.devices ++ (Web.devices.cut (deviceTable neighbors).value).1 } = _
  rw [deviceTable, hcut]

theorem parse_keyRecords (r : Web.Structured) (key : Option (Vector UInt8 16))
    (h : r.networkKey = none) :
    (keyRecords key).foldlM Web.parseTlv r =
      .ok { r with networkKey := key.map Vector.toList } := by
  cases key with
  | none =>
      rw [Option.map_none, ← h]
      rfl
  | some key => rfl

theorem parse_identityRecords (network : Network) :
    (identityRecords network).foldlM Web.parseTlv Web.Structured.empty =
      .ok { Web.Structured.empty with
        panId := some network.panId.toNat
        extendedPanId := some network.extendedPanId.toList
        channel := some network.currentChannel
        nwkUpdateId := some network.updateId
        coordinatorIeee := some network.longAddress.toList } := by
  rw [identityRecords, List.foldlM_cons, parseTlv_panId]
  rfl

theorem parse_records (network : Network) (neighbors : List Neighbor) :
    (records network neighbors).foldlM Web.parseTlv Web.Structured.empty =
      .ok (structuredOf network neighbors) := by
  rw [records, networkRecords, List.foldlM_append, List.foldlM_append, parse_identityRecords]
  simp only [Except.bind, bind, List.foldlM_append]
  rw [parse_keyRecords]
  · simp only [List.foldlM_cons, List.foldlM_nil, parseTlv_counterRecord, parseTlv_deviceTable,
      bind, Except.bind]
    rfl
  · rfl

theorem length_image_le (network : Network) (neighbors : List Neighbor) :
    (image network neighbors).length ≤ MAX_IMAGE_SIZE := by
  have hpayload := length_payload_le network neighbors
  rw [length_image]
  simp only [HEADER_SIZE, MAX_IMAGE_SIZE, MAX_DEVICES]
  omega

theorem storeImage_status (o : Outcomes size) (d : Device size) (inbuffer : List UInt8) :
    (storeImage o d inbuffer).status ≠ .invalidParameter := by
  simp only [storeImage]
  split
  · simp
  split
  · simp
  split <;> simp

theorem storeImage_done (d : Device size) (inbuffer : List UInt8) :
    (storeImage .done d inbuffer).status = .ok ∧
      (storeImage .done d inbuffer).device.tlv = some inbuffer := by
  cases hzb : d.zb with
  | none => simp [storeImage, Outcomes.done, setBlob, NvsWrite.apply, eraseStorage, hzb,
      scheduleReboot]
  | some zb => simp [storeImage, Outcomes.done, setBlob, NvsWrite.apply, eraseStorage, hzb,
      scheduleReboot, Nor.erase]

theorem declared_image (network : Network) (neighbors : List Neighbor) :
    ¬ HEADER_SIZE + (payload network neighbors).length > (image network neighbors).length := by
  rw [length_image]
  exact Nat.lt_irrefl _

theorem header_le_image (network : Network) (neighbors : List Neighbor) :
    ¬ (image network neighbors).length < HEADER_SIZE := by
  rw [length_image]
  exact Nat.not_lt.mpr (Nat.le_add_right _ _)

theorem restore_image (o : Outcomes size) (d : Device size) (network : Network)
    (neighbors : List Neighbor) :
    restoreStructuredBackup o d (image network neighbors) =
      storeImage o d (image network neighbors) := by
  simp only [restoreStructuredBackup, header_image, header_le_image, declared_image, ne_eq,
    not_true_eq_false, if_false]

-- A boot on which the stored image can be read.
def BootOutcomes.read (erased : Bool) : BootOutcomes :=
  { nvsOpen := true, blobSize := true, malloc := true, getBlob := true, erased }

theorem applyPendingRestore_image (d : Device size) (erased : Bool) (network : Network)
    (neighbors : List Neighbor) (h : d.tlv = some (image network neighbors)) :
    (applyPendingRestore (.read erased) d).calls = identityCalls network ∧
      (applyPendingRestore (.read erased) d).restoreApplied = true := by
  have hpayload : ((image network neighbors).drop HEADER_SIZE).take
      (payload network neighbors).length = payload network neighbors := by
    rw [drop_image, List.take_length]
  simp [applyPendingRestore, h, BootOutcomes.read, header_image, header_le_image, declared_image,
    hpayload, replay_payload]

theorem parseStructuredTLVs_image (network : Network) (neighbors : List Neighbor)
    (behind : List UInt8) :
    Web.parseStructuredTLVs ([0, 0] ++ image network neighbors) behind =
      .ok (structuredOf network neighbors) := by
  have hmagic : Web.getUint ([0, 0] ++ image network neighbors ++ behind) 2 4 =
      .ok 0x4253425a := by
    simp [Web.getUint, Restore.field, image, MAGIC, ofLE]
  have hlen : Web.getUint ([0, 0] ++ image network neighbors ++ behind) 8 2 =
      .ok (payload network neighbors).length := by
    have hle := length_payload_le network neighbors
    have hof := ofLE_toLE 2 (payload network neighbors).length (by omega)
    simpa [Web.getUint, Restore.field, image, MAGIC, toLE] using hof
  have htlvs : (([0, 0] ++ image network neighbors).drop 10).take
      (payload network neighbors).length = payload network neighbors := by
    change ((image network neighbors).drop HEADER_SIZE).take _ = _
    rw [drop_image, List.take_length]
  have hstatus : ([0, 0] ++ image network neighbors)[1]? = some 0 := rfl
  have hversion : ([0, 0] ++ image network neighbors)[6]? = some 1 := rfl
  have hcut := Web.cut_encode (records network neighbors)
  simp only [Web.parseStructuredTLVs, hstatus, hmagic, hversion, hlen, ne_eq, not_true_eq_false,
    if_false, bind, Except.bind, htlvs]
  rw [payload, hcut]
  exact parse_records network neighbors

theorem table_suffix (network : Network) (neighbors : List Neighbor) :
    TAG_DEVICE_TABLE :: (toLE 2 (min neighbors.length MAX_DEVICES * 16) ++
      (neighbors.take MAX_DEVICES).flatMap deviceRecord) <:+ image network neighbors := by
  have htable : (deviceTable neighbors).encode =
      TAG_DEVICE_TABLE :: (toLE 2 (min neighbors.length MAX_DEVICES * 16) ++
        (neighbors.take MAX_DEVICES).flatMap deviceRecord) := by
    simp only [Tlv.encode, deviceTable, length_flatMap_deviceRecord, length_exported]
    rfl
  refine ⟨MAGIC ++ ([VERSION, 0] ++ (toLE 2 (payload network neighbors).length ++
    (networkRecords network).flatMap Tlv.encode)), ?_⟩
  simp only [← htable, image, payload, records, List.flatMap_append, List.flatMap_cons,
    List.flatMap_nil, List.append_nil, List.append_assoc]

-- What is asked of the image of a network, by the device that takes it back
-- and by the flasher.
structure RoundTrip (network : Network) (neighbors : List Neighbor) (image : List UInt8) :
    Prop where
  bounded : image.length ≤ MAX_IMAGE_SIZE
  payloadLen : (header image).payloadLen = (image.drop HEADER_SIZE).length
  table : TAG_DEVICE_TABLE :: (toLE 2 (min neighbors.length MAX_DEVICES * 16) ++
    (neighbors.take MAX_DEVICES).flatMap deviceRecord) <:+ image
  accepted : ∀ {size : Nat} (o : Outcomes size) (d : Device size),
    (restoreStructuredBackup o d image).status ≠ .invalidParameter
  stored : ∀ {size : Nat} (d : Device size), (restoreStructuredBackup .done d image).status = .ok
  replayed : ∀ {size : Nat} (d : Device size) (erased : Bool),
    let boot := applyPendingRestore (.read erased) (restoreStructuredBackup .done d image).device
    boot.calls = identityCalls network ∧ boot.restoreApplied = true
  parsed : ∀ behind, Web.parseStructuredTLVs ([0, 0] ++ image) behind =
    .ok (structuredOf network neighbors)

theorem getStructuredBackup_roundTrip (network : Network) (neighbors : List Neighbor)
    (outdata : Nat → UInt8) :
    ∃ image, getStructuredBackup network neighbors outdata = [0, 0] ++ image ∧
      RoundTrip network neighbors image := by
  refine ⟨image network neighbors, getStructuredBackup_eq network neighbors outdata, ?_⟩
  constructor
  case bounded => exact length_image_le network neighbors
  case payloadLen => rw [header_image, drop_image]
  case table => exact table_suffix network neighbors
  case accepted =>
    intro size o d
    rw [restore_image]
    exact storeImage_status o d _
  case stored =>
    intro size d
    rw [restore_image]
    exact (storeImage_done d _).1
  case replayed =>
    intro size d erased
    rw [restore_image]
    exact applyPendingRestore_image _ erased network neighbors (storeImage_done d _).2
  case parsed => exact parseStructuredTLVs_image network neighbors

end EspCoordinator.Backup
