import EspCoordinator.Backup

namespace EspCoordinator.Backup

open Bytes

@[simp] theorem length_deviceRecord (nbr : Neighbor) : (deviceRecord nbr).length = 16 := by
  simp [deviceRecord]

theorem length_flatMap_deviceRecord (nbrs : List Neighbor) :
    (nbrs.flatMap deviceRecord).length = nbrs.length * 16 := by
  induction nbrs with
  | nil => rfl
  | cons nbr nbrs ih =>
      rw [List.flatMap_cons, List.length_append, length_deviceRecord, ih, List.length_cons]
      omega

-- The neighbours that an image has room for.
def exported (neighbors : List Neighbor) : List Neighbor := neighbors.take MAX_DEVICES

theorem length_exported (neighbors : List Neighbor) :
    (exported neighbors).length = min neighbors.length MAX_DEVICES := by
  rw [exported, List.length_take, Nat.min_comm]

theorem length_table_le (neighbors : List Neighbor) :
    ((exported neighbors).flatMap deviceRecord).length ≤ 1024 := by
  have hcap : min neighbors.length MAX_DEVICES ≤ 64 := Nat.min_le_right _ _
  rw [length_flatMap_deviceRecord, length_exported]
  omega

def identityRecords (network : Network) : List Tlv :=
  [{ tag := TAG_PAN_ID, value := toLE 2 network.panId.toNat, fits := by simp },
    { tag := TAG_EXT_PAN_ID, value := network.extendedPanId.toList, fits := by simp },
    { tag := TAG_CHANNEL, value := [network.currentChannel], fits := by simp },
    { tag := TAG_NWK_UPDATE_ID, value := [network.updateId], fits := by simp },
    { tag := TAG_COORD_IEEE, value := network.longAddress.toList, fits := by simp }]

def keyRecords : Option (Vector UInt8 16) → List Tlv
  | some key => [{ tag := TAG_NWK_KEY, value := key.toList, fits := by simp }]
  | none => []

def counterRecord (fc : UInt32) : Tlv :=
  { tag := TAG_NWK_FRAME_COUNTER, value := toLE 4 fc.toNat, fits := by simp }

-- The network section as TLVs, in the order of the image.
def networkRecords (network : Network) : List Tlv :=
  identityRecords network ++ (keyRecords network.primaryNetworkKey ++
    [counterRecord network.frameCounter])

def deviceTable (neighbors : List Neighbor) : Tlv :=
  { tag := TAG_DEVICE_TABLE
    value := (exported neighbors).flatMap deviceRecord
    fits := by have := length_table_le neighbors; omega }

def records (network : Network) (neighbors : List Neighbor) : List Tlv :=
  networkRecords network ++ [deviceTable neighbors]

def payload (network : Network) (neighbors : List Neighbor) : List UInt8 :=
  (records network neighbors).flatMap Tlv.encode

def image (network : Network) (neighbors : List Neighbor) : List UInt8 :=
  MAGIC ++ ([VERSION, 0] ++ (toLE 2 (payload network neighbors).length ++
    payload network neighbors))

theorem reserve_two (outdata : Nat → UInt8) (out : List UInt8) :
    ∃ hole, hole.length = 2 ∧ reserve outdata 2 out = out ++ hole :=
  ⟨_, by simp, rfl⟩

theorem patch_hole {front hole rest bytes : List UInt8} {pos : Nat} (hpos : front.length = pos)
    (hlen : hole.length = bytes.length) :
    patch (front ++ (hole ++ rest)) pos bytes = front ++ (bytes ++ rest) := by
  subst hpos
  have hdrop : (front ++ (hole ++ rest)).drop (front.length + bytes.length) = rest := by
    rw [← hlen, ← List.append_assoc, ← List.length_append, List.drop_left]
  rw [patch, List.take_left, hdrop]

theorem emitNetwork_eq (network : Network) (out : List UInt8) :
    emitNetwork network out = out ++ (networkRecords network).flatMap Tlv.encode := by
  simp only [emitNetwork, networkRecords, identityRecords, counterRecord]
  cases network.primaryNetworkKey with
  | some key => simp [emit, keyRecords, Tlv.encode]
  | none => simp [emit, keyRecords, Tlv.encode]

-- The loop takes neighbours until there are MAX_DEVICES records.
theorem emitDevices_eq (iter : List Neighbor) (devCount : Nat) (out : List UInt8) :
    emitDevices iter devCount out =
      (devCount + (iter.take (MAX_DEVICES - devCount)).length,
        out ++ (iter.take (MAX_DEVICES - devCount)).flatMap deviceRecord) := by
  induction iter generalizing devCount out with
  | nil => simp [emitDevices]
  | cons nbr iter ih =>
      by_cases hroom : devCount < MAX_DEVICES
      · have hsucc : MAX_DEVICES - devCount = MAX_DEVICES - (devCount + 1) + 1 := by omega
        rw [emitDevices, if_pos hroom, ih, hsucc, List.take_succ_cons, List.length_cons,
          List.flatMap_cons, List.append_assoc]
        congr 1
        omega
      · have hfull : MAX_DEVICES - devCount = 0 := by omega
        rw [emitDevices, if_neg hroom, hfull]
        simp

theorem emitDeviceTable_eq (neighbors : List Neighbor) (outdata : Nat → UInt8)
    (out : List UInt8) :
    emitDeviceTable neighbors outdata out = out ++ (deviceTable neighbors).encode := by
  obtain ⟨hole, hhole, hres⟩ := reserve_two outdata (out ++ [TAG_DEVICE_TABLE])
  have hlen : ((deviceTable neighbors).value).length = (exported neighbors).length * 16 :=
    length_flatMap_deviceRecord (exported neighbors)
  simp only [emitDeviceTable, hres, emitDevices_eq, Nat.zero_add, Nat.sub_zero]
  rw [List.append_assoc, patch_hole rfl (by rw [hhole, length_toLE])]
  rw [Tlv.encode, hlen, List.append_assoc]
  rfl

-- Whatever the buffer held before, the response is two zeros and the image.
theorem getStructuredBackup_eq (network : Network) (neighbors : List Neighbor)
    (outdata : Nat → UInt8) :
    getStructuredBackup network neighbors outdata = [0, 0] ++ image network neighbors := by
  obtain ⟨hole, hhole, hres⟩ := reserve_two outdata ([0, 0] ++ (MAGIC ++ [VERSION, 0]))
  have hout : emitDeviceTable neighbors outdata
      (emitNetwork network ([0, 0] ++ (MAGIC ++ [VERSION, 0]) ++ hole)) =
      [0, 0] ++ (MAGIC ++ [VERSION, 0]) ++ (hole ++ payload network neighbors) := by
    rw [emitDeviceTable_eq, emitNetwork_eq]
    simp only [payload, records, List.flatMap_append, List.flatMap_cons, List.flatMap_nil,
      List.append_nil, List.append_assoc]
  have hlen : ([0, 0] ++ (MAGIC ++ [VERSION, 0]) ++ (hole ++ payload network neighbors)).length -
      ([0, 0] ++ (MAGIC ++ [VERSION, 0]) ++ hole).length = (payload network neighbors).length := by
    simp only [List.length_append]
    omega
  simp only [getStructuredBackup, hres, hout, hlen]
  rw [patch_hole (by decide) (by rw [hhole, length_toLE])]
  simp only [image, List.append_assoc]

theorem length_networkRecords_le (network : Network) :
    ((networkRecords network).flatMap Tlv.encode).length ≤ 61 := by
  simp only [networkRecords, identityRecords, counterRecord]
  cases network.primaryNetworkKey with
  | some key => simp [keyRecords]
  | none => simp [keyRecords]

theorem length_payload_le (network : Network) (neighbors : List Neighbor) :
    (payload network neighbors).length ≤ 1088 := by
  have hnet := length_networkRecords_le network
  have htable := length_table_le neighbors
  simp only [payload, records, List.flatMap_append, List.flatMap_cons, List.flatMap_nil,
    List.length_append, List.append_nil, Tlv.length_encode, deviceTable]
  omega

theorem length_image (network : Network) (neighbors : List Neighbor) :
    (image network neighbors).length = HEADER_SIZE + (payload network neighbors).length := by
  simp only [image, List.length_append, length_toLE, MAGIC, HEADER_SIZE, List.length_cons,
    List.length_nil]
  omega

theorem drop_image (network : Network) (neighbors : List Neighbor) :
    (image network neighbors).drop HEADER_SIZE = payload network neighbors := by
  simp [image, MAGIC, HEADER_SIZE, toLE]

theorem header_image (network : Network) (neighbors : List Neighbor) :
    header (image network neighbors) =
      { magic := MAGIC, version := VERSION
        payloadLen := (payload network neighbors).length } := by
  have hle := length_payload_le network neighbors
  have hlen := ofLE_toLE 2 (payload network neighbors).length (by omega)
  simpa [header, Restore.field, image, MAGIC, toLE] using hlen

end EspCoordinator.Backup
