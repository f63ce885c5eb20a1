import EspCoordinator.Backup.Theorems

namespace EspCoordinator.Backup

open Bytes

variable {size : Nat}

-- The TLV section that the header of an image declares.
def tlvSection (inbuffer : List UInt8) : List UInt8 :=
  (inbuffer.drop HEADER_SIZE).take (header inbuffer).payloadLen

def identityTags : List UInt8 :=
  [TAG_PAN_ID, TAG_EXT_PAN_ID, TAG_CHANNEL, TAG_NWK_UPDATE_ID, TAG_COORD_IEEE, TAG_NWK_KEY,
    TAG_NWK_FRAME_COUNTER]

-- The replay loop gets to the end of the section, and every identity TLV on
-- the way reaches its setter.
structure FullyReplayed (inbuffer : List UInt8) : Prop where
  consumed : (tlvs.cut (tlvSection inbuffer)).2 = []
  applied : ∀ t ∈ (tlvs.cut (tlvSection inbuffer)).1, t.tag ∈ identityTags → replayTlv t ≠ []

def requiredLength (tag : UInt8) : Option Nat :=
  if tag = TAG_PAN_ID then some 2
  else if tag = TAG_EXT_PAN_ID then some 8
  else if tag = TAG_CHANNEL then some 1
  else if tag = TAG_NWK_UPDATE_ID then some 1
  else if tag = TAG_COORD_IEEE then some 8
  else if tag = TAG_NWK_KEY then some 16
  else if tag = TAG_NWK_FRAME_COUNTER then some 4
  else none

-- What an identity TLV has to look like.
def WellFormed (t : Tlv) : Prop :=
  (∀ n, requiredLength t.tag = some n → t.value.length = n) ∧
    (t.tag = TAG_CHANNEL → ∀ ch ∈ t.value, 11 ≤ ch ∧ ch ≤ 26)

theorem scanTlv_wait {input tail : List UInt8} (h : scanTlv input = .wait tail) : tail = input := by
  match input with
  | tag :: lo :: hi :: rest =>
      simp only [scanTlv] at h
      split at h
      · exact (Scan.wait.inj h).symm
      · simp at h
  | [] | [_] | [_, _] => exact (Scan.wait.inj h).symm

theorem scanTlv_item {input rest : List UInt8} {t : Tlv} (h : scanTlv input = .item t rest) :
    t.encode ++ rest = input := by
  match input with
  | tag :: lo :: hi :: tail =>
      simp only [scanTlv] at h
      split at h
      · simp at h
      · rename_i hfits
        obtain ⟨rfl, rfl⟩ := Scan.item.inj h
        have hlen : (tail.take (ofLE [lo, hi])).length = ofLE [lo, hi] := by
          rw [List.length_take]
          omega
        have hbytes : toLE 2 (ofLE [lo, hi]) = [lo, hi] := toLE_ofLE [lo, hi]
        simp only [Tlv.front, Tlv.encode, hlen, hbytes, List.cons_append, List.nil_append,
          List.take_append_drop]
  | [] | [_] | [_, _] => simp [scanTlv] at h

-- The loop gets to the end of a section that consists of whole TLVs only.
theorem cut_snd_eq_nil_iff {input : List UInt8} :
    (tlvs.cut input).2 = [] ↔ ∃ ts : List Tlv, input = ts.flatMap Tlv.encode := by
  constructor
  · intro hnil
    have hall := tlvs.flatMap_cut Tlv.encode scanTlv_wait scanTlv_item input
    rw [hnil, List.append_nil] at hall
    exact ⟨_, hall.symm⟩
  · rintro ⟨ts, rfl⟩
    rw [cut_encode]

theorem fixed_eq_none_iff {n : Nat} {value : List UInt8} :
    fixed n value = none ↔ value.length ≠ n := by
  unfold fixed
  split <;> simp_all

theorem map_fixed_ne_nil {n : Nat} {value : List UInt8} (f : Vector UInt8 n → Call) :
    (fixed n value).toList.map f ≠ [] ↔ value.length = n := by
  rw [ne_eq, List.map_eq_nil_iff, Option.toList_eq_nil_iff, fixed_eq_none_iff, not_not]

theorem channelCalls_ne_nil (ch : UInt8) : channelCalls ch ≠ [] ↔ 11 ≤ ch ∧ ch ≤ 26 := by
  unfold channelCalls
  split <;> simp_all

theorem channel_ne_nil {value : List UInt8} (fits : value.length < 2 ^ 16) :
    replayTlv { tag := TAG_CHANNEL, value, fits } ≠ [] ↔
      value.length = 1 ∧ ∀ ch ∈ value, 11 ≤ ch ∧ ch ≤ 26 := by
  match value with
  | [ch] =>
      have hcalls : replayTlv { tag := TAG_CHANNEL, value := [ch], fits } =
          channelCalls ch ++ [] := rfl
      rw [hcalls, List.append_nil, channelCalls_ne_nil]
      simp
  | [] =>
      have hcalls : replayTlv { tag := TAG_CHANNEL, value := [], fits } = [] := rfl
      simp [hcalls]
  | first :: second :: rest =>
      have hcalls : replayTlv { tag := TAG_CHANNEL, value := first :: second :: rest, fits } =
          (fixed 1 (first :: second :: rest)).toList.flatMap fun v => channelCalls v.head := rfl
      simp [hcalls, fixed]

-- An identity TLV reaches its setter exactly when it is well formed.
theorem replayTlv_ne_nil_iff {t : Tlv} (h : t.tag ∈ identityTags) :
    replayTlv t ≠ [] ↔ WellFormed t := by
  obtain ⟨tag, value, fits⟩ := t
  have hother {n : Nat} (hn : requiredLength tag = some n) (hne : tag ≠ TAG_CHANNEL) :
      WellFormed { tag, value, fits } ↔ value.length = n := by
    simp [WellFormed, hn, hne]
  simp only [identityTags, List.mem_cons, List.not_mem_nil, or_false] at h
  rcases h with rfl | rfl | rfl | rfl | rfl | rfl | rfl
  · rw [hother (n := 2) rfl (by decide)]
    exact map_fixed_ne_nil _
  · rw [hother (n := 8) rfl (by decide)]
    exact map_fixed_ne_nil _
  · have hlen : requiredLength TAG_CHANNEL = some 1 := rfl
    have hwell : WellFormed { tag := TAG_CHANNEL, value, fits } ↔
        value.length = 1 ∧ ∀ ch ∈ value, 11 ≤ ch ∧ ch ≤ 26 := by
      simp [WellFormed, hlen]
    rw [hwell]
    exact channel_ne_nil fits
  · rw [hother (n := 1) rfl (by decide)]
    exact map_fixed_ne_nil _
  · rw [hother (n := 8) rfl (by decide)]
    exact map_fixed_ne_nil _
  · rw [hother (n := 16) rfl (by decide)]
    exact map_fixed_ne_nil _
  · rw [hother (n := 4) rfl (by decide)]
    exact map_fixed_ne_nil _

-- The section is written as whole TLVs, and the identity TLVs among them are
-- well formed.
def Replayable (inbuffer : List UInt8) : Prop :=
  ∃ ts : List Tlv, tlvSection inbuffer = ts.flatMap Tlv.encode ∧
    ∀ t ∈ ts, t.tag ∈ identityTags → WellFormed t

theorem fullyReplayed_iff {inbuffer : List UInt8} :
    FullyReplayed inbuffer ↔ Replayable inbuffer := by
  constructor
  · rintro ⟨hconsumed, happlied⟩
    obtain ⟨ts, hts⟩ := cut_snd_eq_nil_iff.mp hconsumed
    rw [hts, cut_encode] at happlied
    exact ⟨ts, hts, fun t ht htag => (replayTlv_ne_nil_iff htag).mp (happlied t ht htag)⟩
  · rintro ⟨ts, hts, hwell⟩
    refine ⟨cut_snd_eq_nil_iff.mpr ⟨ts, hts⟩, ?_⟩
    rw [hts, cut_encode]
    exact fun t ht htag => (replayTlv_ne_nil_iff htag).mpr (hwell t ht htag)

-- The request is answered with an error: its header is refused, or one of the
-- NVS calls or the wipe of zb_storage fails.
def Refused (o : Outcomes size) (d : Device size) (inbuffer : List UInt8) : Prop :=
  inbuffer.length < HEADER_SIZE ∨ (header inbuffer).magic ≠ MAGIC ∨
    (header inbuffer).version ≠ VERSION ∨
    HEADER_SIZE + (header inbuffer).payloadLen > inbuffer.length ∨
    o.nvsOpen = false ∨ o.nvsSetBlob ≠ .done ∨ o.nvsCommit ≠ .done ∨
    d.zb.isSome = true ∧ o.eraseZb ≠ .done

theorem NvsWrite.apply_snd {α : Type*} (w : NvsWrite) (old new : α) :
    (w.apply old new).2 = true ↔ w = .done := by
  cases w <;> simp [NvsWrite.apply]

theorem setBlob_snd (o : Outcomes size) (old : Option (List UInt8)) (inbuffer : List UInt8) :
    (setBlob o old inbuffer).2 = true ↔ o.nvsSetBlob = .done ∧ o.nvsCommit = .done := by
  rw [setBlob]
  cases hset : o.nvsSetBlob with
  | done => simp [NvsWrite.apply, ← NvsWrite.apply_snd o.nvsCommit old (some inbuffer)]
  | failed stored => simp [NvsWrite.apply]

theorem eraseStorage_snd (o : Outcomes size) (zb : Option (Nor size)) :
    (eraseStorage o zb).2 = true ↔ (zb.isSome = true → o.eraseZb = .done) := by
  cases zb with
  | none => simp [eraseStorage]
  | some flash =>
      cases herase : o.eraseZb with
      | done => simp [eraseStorage, herase, Nor.erase]
      | failed left => simp [eraseStorage, herase, Nor.erase]

theorem storeImage_status_ok (o : Outcomes size) (d : Device size) (inbuffer : List UInt8) :
    (storeImage o d inbuffer).status = .ok ↔
      o.nvsOpen = true ∧ (setBlob o d.tlv inbuffer).2 = true ∧ (eraseStorage o d.zb).2 = true := by
  simp only [storeImage]
  split
  · simp_all
  split
  · simp_all
  split
  · simp_all
  · simp_all

theorem status_ok_iff (o : Outcomes size) (d : Device size) (inbuffer : List UInt8) :
    (restoreStructuredBackup o d inbuffer).status = .ok ↔ ¬Refused o d inbuffer := by
  have hstore := storeImage_status_ok o d inbuffer
  rw [setBlob_snd, eraseStorage_snd] at hstore
  simp only [restoreStructuredBackup, Refused]
  split
  · simp_all
  split
  · simp_all
  split
  · simp_all
  split
  · simp_all
  · rw [hstore]
    simp_all
    tauto

theorem storeImage_tlv {o : Outcomes size} {d : Device size} {inbuffer : List UInt8}
    (h : (storeImage o d inbuffer).status = .ok) :
    (storeImage o d inbuffer).device.tlv = some inbuffer := by
  obtain ⟨hopen, hset, herase⟩ := (storeImage_status_ok o d inbuffer).mp h
  obtain ⟨hblob, hcommit⟩ := (setBlob_snd o d.tlv inbuffer).mp hset
  have hstored : (setBlob o d.tlv inbuffer).1 = some inbuffer := by
    simp [setBlob, hblob, hcommit, NvsWrite.apply]
  simp [storeImage, hopen, hset, herase, hstored, scheduleReboot]

-- What a boot replays after GENERIC_OK are the TLVs the loop finds in the
-- section of the image.
theorem replayed_of_ok {o : Outcomes size} {d : Device size} {inbuffer : List UInt8}
    (h : (restoreStructuredBackup o d inbuffer).status = .ok) (erased : Bool) :
    let boot := applyPendingRestore (.read erased) (restoreStructuredBackup o d inbuffer).device
    boot.calls = replay (tlvSection inbuffer) ∧ boot.restoreApplied = true := by
  have haccepted := (status_ok_iff o d inbuffer).mp h
  simp only [Refused, not_or] at haccepted
  obtain ⟨hlong, hmagic, hversion, hlen, -⟩ := haccepted
  have hstore : restoreStructuredBackup o d inbuffer = storeImage o d inbuffer := by
    simp only [restoreStructuredBackup, hlong, hmagic, hversion, hlen, if_false]
  rw [hstore] at h ⊢
  simp only [applyPendingRestore, storeImage_tlv h, BootOutcomes.read, Bool.not_true,
    Bool.false_eq_true, false_or, hlong, hmagic, hversion, hlen, if_false, tlvSection, and_self]

-- A request is answered with GENERIC_OK for a replayable image only, unless it
-- would have been refused anyway.
theorem accepted_replayed_iff (o : Outcomes size) (d : Device size) (inbuffer : List UInt8) :
    ((restoreStructuredBackup o d inbuffer).status = .ok → FullyReplayed inbuffer) ↔
      Refused o d inbuffer ∨ Replayable inbuffer := by
  rw [status_ok_iff, fullyReplayed_iff, or_iff_not_imp_left]

-- The PAN ID is whole, the extended PAN ID behind it is cut short.
def cutImage : List UInt8 :=
  MAGIC ++ [VERSION, 0, 11, 0, TAG_PAN_ID, 2, 0, 0x34, 0x12, TAG_EXT_PAN_ID, 8, 0, 1, 2, 3]

def joinedDevice : Device 16 := { tlv := none, zb := some (Nor.erased 16), reboots := 0 }

theorem cut_cutImage : (tlvs.cut (tlvSection cutImage)).2 = [TAG_EXT_PAN_ID, 8, 0, 1, 2, 3] := by
  have hsection : tlvSection cutImage =
      [TAG_PAN_ID, 2, 0, 0x34, 0x12, TAG_EXT_PAN_ID, 8, 0, 1, 2, 3] := by
    decide
  have hfirst : tlvs.scan [TAG_PAN_ID, 2, 0, 0x34, 0x12, TAG_EXT_PAN_ID, 8, 0, 1, 2, 3] =
      .item { tag := TAG_PAN_ID, value := [0x34, 0x12], fits := by decide }
        [TAG_EXT_PAN_ID, 8, 0, 1, 2, 3] := by
    decide
  have hsecond : tlvs.scan [TAG_EXT_PAN_ID, 8, 0, 1, 2, 3] =
      .wait [TAG_EXT_PAN_ID, 8, 0, 1, 2, 3] := by
    decide
  rw [hsection, Scanner.cut_item hfirst, Scanner.cut_wait hsecond]

-- The network is wiped for an image of which the replay applies the PAN ID only.
theorem not_every_accepted_replayed :
    ¬∀ (size : Nat) (o : Outcomes size) (d : Device size) (inbuffer : List UInt8),
      (restoreStructuredBackup o d inbuffer).status = .ok → FullyReplayed inbuffer := by
  intro h
  have haccepted : (restoreStructuredBackup .done joinedDevice cutImage).status = .ok := by
    decide
  have hconsumed := (h 16 .done joinedDevice cutImage haccepted).consumed
  rw [cut_cutImage] at hconsumed
  cases hconsumed

end EspCoordinator.Backup
