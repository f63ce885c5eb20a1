import EspCoordinator.Backup.Image
import EspCoordinator.ZbossSerial.RoundTrip

namespace EspCoordinator.Backup

open Bytes
open Protocol (Link dispatched onRx onRxInt RX_BUFFER_SIZE)

def RESTORE_STRUCTURED_BACKUP : UInt16 := 0x009c

-- The image in the response of GET_STRUCTURED_BACKUP.
def backupImage (network : Network) (neighbors : List Neighbor) (outdata : Nat → UInt8) :
    List UInt8 :=
  (getStructuredBackup network neighbors outdata).drop 2

-- The frame that sends an image back.
def restoreFrame (s : ZbossSerial.State) (image : List UInt8) : List UInt8 :=
  (ZbossSerial.sendCommand s RESTORE_STRUCTURED_BACKUP image).2

-- What on_rx_data gets of it: the command header and the image.
def restoreCommand (s : ZbossSerial.State) (image : List UInt8) : List UInt8 :=
  [0, 0] ++ toLE 2 RESTORE_STRUCTURED_BACKUP.toNat ++ [s.nextTsn] ++ image

-- Delivered to an idle parser in some chunks, the frame leads to one dispatch
-- of the whole request.
def Dispatched (s : ZbossSerial.State) (link : Link) (image : List UInt8) : Prop :=
  ∃ chunks : List (List UInt8), chunks.flatten = restoreFrame s image ∧
    (∀ chunk ∈ chunks, 1 ≤ chunk.length ∧ chunk.length ≤ 1024) ∧
    dispatched (onRx { rxBuffer := [], link } chunks).2 = [restoreCommand s image]

-- The neighbours that leave the frame within the receive buffer.
def restorableDevices (network : Network) : Nat :=
  if network.primaryNetworkKey.isSome then 58 else 59

theorem length_networkRecords (network : Network) :
    ((networkRecords network).flatMap Tlv.encode).length =
      if network.primaryNetworkKey.isSome then 61 else 42 := by
  simp only [networkRecords, identityRecords, counterRecord]
  cases network.primaryNetworkKey with
  | some key => simp [keyRecords]
  | none => simp [keyRecords]

theorem length_backupImage (network : Network) (neighbors : List Neighbor)
    (outdata : Nat → UInt8) :
    (backupImage network neighbors outdata).length =
      (if network.primaryNetworkKey.isSome then 72 else 53) +
        16 * min neighbors.length MAX_DEVICES := by
  have himage : backupImage network neighbors outdata = image network neighbors := by
    rw [backupImage, getStructuredBackup_eq, List.drop_left' (by simp)]
  have hnet := length_networkRecords network
  have htable := length_flatMap_deviceRecord (exported neighbors)
  rw [length_exported] at htable
  rw [himage, length_image]
  simp only [payload, records, List.flatMap_append, List.flatMap_cons, List.flatMap_nil,
    List.length_append, List.append_nil, Tlv.length_encode, deviceTable, HEADER_SIZE]
  split at hnet <;> split <;> simp_all <;> omega

theorem length_restoreFrame (s : ZbossSerial.State) (image : List UInt8) :
    (restoreFrame s image).length = 14 + image.length := by
  simp only [restoreFrame, ZbossSerial.sendCommand, List.length_append, length_toLE,
    List.length_cons, List.length_nil]
  omega

-- What one call dispatches was in the receive buffer, with nine bytes around it.
theorem length_dispatched (s : Protocol.State) {chunks : List (List UInt8)} {data : List UInt8}
    (hc : ∀ chunk ∈ chunks, chunk.length ≤ RX_BUFFER_SIZE)
    (h : data ∈ dispatched (onRx s chunks).2) : data.length + 9 ≤ RX_BUFFER_SIZE := by
  induction chunks generalizing s with
  | nil => simp [onRx] at h
  | cons chunk rest ih =>
      rw [onRx, Protocol.dispatched_append, List.mem_append] at h
      rcases h with hnow | hlater
      · have hcall := Protocol.wireSize_onRxInt s chunk
        obtain ⟨front, back, hsplit⟩ := List.append_of_mem hnow
        rw [hsplit, Protocol.wireSize_append,
          Protocol.length_appendRx (hc chunk (by simp))] at hcall
        simp only [Protocol.wireSize, List.map_cons, List.sum_cons] at hcall
        omega
      · exact ih _ (fun chunk hm => hc chunk (by simp [hm])) hlater

theorem dispatched_iff_length (s : ZbossSerial.State) (link : Link) (image : List UInt8) :
    Dispatched s link image ↔ 14 + image.length ≤ RX_BUFFER_SIZE := by
  constructor
  · rintro ⟨chunks, -, hsizes, hdata⟩
    have hmem : restoreCommand s image ∈ dispatched (onRx { rxBuffer := [], link } chunks).2 := by
      rw [hdata, List.mem_singleton]
    have hlen := length_dispatched _ (fun chunk hm => (hsizes chunk hm).2) hmem
    have hcmd : (restoreCommand s image).length = 5 + image.length :=
      ZbossSerial.length_reqData s RESTORE_STRUCTURED_BACKUP image
    omega
  · intro hfits
    have hlen : (restoreFrame s image).length ≤ RX_BUFFER_SIZE := by
      rw [length_restoreFrame]
      exact hfits
    obtain ⟨hf, hpayload⟩ := ZbossSerial.sendCommand_dataFrame hlen
    refine ⟨[restoreFrame s image], by simp, ?_, ?_⟩
    · intro chunk hm
      obtain rfl := List.mem_singleton.mp hm
      exact ⟨by rw [length_restoreFrame]; omega, hlen⟩
    · have hcut : [restoreFrame s image].flatten = restoreFrame s image := by simp
      rw [Protocol.onRx_dataFrame hf link hcut hlen, hpayload]
      simp [Protocol.sendAck, Protocol.reply, restoreCommand, ZbossSerial.reqData]

-- A backup can be sent back exactly when the network is small enough.
theorem backup_dispatched_iff (s : ZbossSerial.State) (link : Link) (network : Network)
    (neighbors : List Neighbor) (outdata : Nat → UInt8) :
    Dispatched s link (backupImage network neighbors outdata) ↔
      neighbors.length ≤ restorableDevices network := by
  rw [dispatched_iff_length, length_backupImage, restorableDevices]
  simp only [RX_BUFFER_SIZE, MAX_DEVICES]
  split <;> omega

-- A network in operation with a key.
def sampleNetwork : Network :=
  { panId := 0x1a62, extendedPanId := .replicate 8 0xdd, currentChannel := 20, updateId := 0
    longAddress := .replicate 8 0x01, primaryNetworkKey := some (.replicate 16 0x0f)
    frameCounter := 4096, channel_ge := by decide, channel_le := by decide }

def sampleNeighbor : Neighbor :=
  { ieeeAddr := .replicate 8 0x02, shortAddr := 0x1234, rxOnWhenIdle := 1, relationship := 1
    deviceType := 2, depth := 1, lqi := 200 }

-- With 59 of the 64 devices it may list, the backup does not come back.
theorem not_every_backup_dispatched :
    ¬∀ (s : ZbossSerial.State) (link : Link) (network : Network) (neighbors : List Neighbor)
      (outdata : Nat → UInt8),
      Dispatched s link (backupImage network neighbors outdata) := by
  intro h
  have hlen := (dispatched_iff_length _ _ _).mp (h ZbossSerial.init Protocol.initInt.link
    sampleNetwork (List.replicate 59 sampleNeighbor) (fun _ => 0))
  rw [length_backupImage, List.length_replicate] at hlen
  simp [sampleNetwork, RX_BUFFER_SIZE, MAX_DEVICES] at hlen

end EspCoordinator.Backup
