import EspCoordinator.Backup.File
import EspCoordinator.Backup.Pull.Page
import EspCoordinator.Restore.Commit

namespace EspCoordinator.Backup.File

open Bytes
open Restore (Layout Uploading encodeRequest)

theorem fromCharCode_append (first second : List UInt8) :
    fromCharCode (first ++ second) = fromCharCode first ++ fromCharCode second :=
  List.map_append

theorem binaryString_eq (buf : List UInt8) (i : Nat) (s : JsString) :
    binaryString buf i s = s ++ fromCharCode (buf.drop i) := by
  induction i, s using binaryString.induct buf with
  | case1 i s hlt ih =>
      have hcut : (buf.drop i).take (min (i + binaryChunk) buf.length - i) ++
          buf.drop (i + binaryChunk) = buf.drop i := by
        have hlen : (buf.drop i).length = buf.length - i := List.length_drop
        rw [← List.drop_drop]
        by_cases hwhole : i + binaryChunk ≤ buf.length
        · rw [Nat.min_eq_left hwhole, Nat.add_sub_cancel_left, List.take_append_drop]
        · have hrest : (buf.drop i).drop binaryChunk = [] :=
            List.drop_eq_nil_of_le (by omega)
          rw [Nat.min_eq_right (by omega), hrest, List.append_nil,
            List.take_of_length_le (by omega)]
      rw [binaryString, if_pos hlt, ih, List.append_assoc, ← fromCharCode_append, hcut]
  | case2 i s hend =>
      rw [binaryString, if_neg hend, List.drop_of_length_le (by omega)]
      exact (List.append_nil s).symm

theorem map_toUInt8_fromCharCode (bytes : List UInt8) :
    (fromCharCode bytes).map UInt16.toUInt8 = bytes := by
  rw [fromCharCode, List.map_map]
  conv_rhs => rw [← List.map_id bytes]
  exact List.map_congr_left fun byte _ => UInt8.toUInt8_toUInt16 byte

theorem btoa_fromCharCode (bytes : List UInt8) :
    btoa (fromCharCode bytes) = .ok (Base64.encode standard bytes) := by
  have hbytes : (fromCharCode bytes).all (· < 256) = true := by
    rw [List.all_eq_true]
    intro unit hunit
    obtain ⟨byte, -, rfl⟩ := List.mem_map.mp hunit
    have hbyte := byte.toNat_lt
    rw [decide_eq_true_eq, UInt16.lt_iff_toNat_lt]
    simpa using hbyte
  rw [btoa, if_pos hbytes, map_toUInt8_fromCharCode]

theorem whitespace_standard :
    ((standard.pad :: standard.digits).all fun unit => !whitespace unit) = true := by
  decide +kernel

theorem atob_encode (bytes : List UInt8) :
    atob (Base64.encode standard bytes) = .ok (fromCharCode bytes) := by
  have hfilter : (Base64.encode standard bytes).filter (fun unit => !whitespace unit) =
      Base64.encode standard bytes := by
    rw [List.filter_eq_self]
    intro unit hunit
    have hmem : unit ∈ standard.pad :: standard.digits :=
      List.mem_cons.mpr (Base64.mem_encode standard hunit).symm
    exact List.all_eq_true.mp whitespace_standard unit hmem
  rw [atob, hfilter, Base64.decode_encode]
  rfl

theorem buf2base64_eq (buf : List UInt8) :
    buf2base64 buf = .ok (Base64.encode standard buf) := by
  rw [buf2base64, binaryString_eq, List.nil_append, List.drop_zero, btoa_fromCharCode]

theorem base642buf_encode (buf : List UInt8) :
    base642buf (Base64.encode standard buf) = .ok buf := by
  rw [base642buf, atob_encode, Except.map, map_toUInt8_fromCharCode]

theorem encode_ne_nil {buf : List UInt8} (h : buf ≠ []) : Base64.encode standard buf ≠ [] := by
  intro hnil
  have hdecode := Base64.decode_encode standard buf
  rw [hnil] at hdecode
  exact h (Option.some.inj hdecode).symm

-- What doRestore gets out of a file of doBackup.
theorem raw_contents {raw : List UInt8} (h : raw ≠ []) :
    ∃ file, contents raw = .ok file ∧ file.raw = some raw := by
  refine ⟨.json (some (Base64.encode standard raw)), ?_, ?_⟩
  · rw [contents, buf2base64_eq]
    rfl
  · obtain ⟨unit, rest, hcons⟩ := List.exists_cons_of_ne_nil (encode_ne_nil h)
    have hbuf := base642buf_encode raw
    rw [hcons] at hbuf ⊢
    simp only [Contents.raw, hbuf]
    rfl

variable {L : Layout} {d : Restore.Device L} {raw : List UInt8} {offset : Nat}

theorem statusByte_eq_zero_iff {status : Restore.Status} :
    Immediate.statusByte status = 0 ↔ status = .ok := by
  cases status <;> decide

-- The image is in flash, and the device is about to start from it.
structure Restored (d : Restore.Device L) (raw : List UInt8) : Prop where
  flash : Restore.flash d = raw
  reboot : d.rebootPending = true

theorem finish_reboot (o : Restore.Outcomes L) (d : Restore.Device L) (copies : List Restore.Copy)
    (h : (Restore.finish o d copies).status = .ok) :
    (Restore.finish o d copies).device.rebootPending = true := by
  unfold Restore.finish at h ⊢
  cases himg : (Restore.closeSession d).img with
  | none =>
      simp only [himg]
      exact Restore.restoreScheduleReboot_pending _
  | some img =>
      simp only [himg] at h ⊢
      by_cases hgate : (!Restore.zbStorageImageOk (img.drop L.nvsSize) L.zbSize) = true
      · rw [if_pos hgate] at h
        cases h
      · rw [if_neg hgate]
        exact (Restore.commit_closed o _ img copies).2.2

-- One round of the loop.
def nextChunk (raw : List UInt8) (offset : Nat) : List UInt8 := (raw.drop offset).take chunkSize

theorem take_append_nextChunk (raw : List UInt8) (offset : Nat) :
    raw.take offset ++ nextChunk raw offset =
      raw.take (offset + (nextChunk raw offset).length) := by
  rw [List.take_add]
  congr 1
  exact List.prefix_iff_eq_take.mp (List.take_prefix _ _)

theorem length_nextChunk (raw : List UInt8) (offset : Nat) :
    (nextChunk raw offset).length = min chunkSize (raw.length - offset) := by
  rw [nextChunk, List.length_take, List.length_drop]

theorem restoreLoop_succ (fuel : Nat) (outcomes : Nat → Restore.Outcomes L)
    (hlt : offset < raw.length) :
    restoreLoop raw (fuel + 1) outcomes d offset =
      let result := Restore.processImmediate (outcomes 0) d
        (encodeRequest offset raw.length (nextChunk raw offset))
      if result.status = .ok then
        restoreLoop raw fuel (fun index => outcomes (index + 1)) result.device
          (offset + (nextChunk raw offset).length)
      else some (result.device, .error ("Restore failed at offset " ++ toString offset)) := by
  have hchunk : (raw.drop offset).take (min (offset + chunkSize) raw.length - offset) =
      nextChunk raw offset := by
    have hlen : (raw.drop offset).length = raw.length - offset := List.length_drop
    rw [nextChunk]
    by_cases hwhole : offset + chunkSize ≤ raw.length
    · rw [Nat.min_eq_left hwhole, Nat.add_sub_cancel_left]
    · rw [Nat.min_eq_right (by omega), List.take_of_length_le (by omega),
        List.take_of_length_le (by omega)]
  have hstatus (status : Restore.Status) :
      [STATUS_CATEGORY_GENERIC, Immediate.statusByte status][1]? = some 0 ↔ status = .ok :=
    Option.some_inj.trans statusByte_eq_zero_iff
  simp only [restoreLoop, if_pos hlt, hchunk, ne_eq, hstatus, ite_not]
  rfl

-- The device has what was sent so far, and at the end the image is in flash.
theorem restoreLoop_restored (hfound : L.found = true) (hlen : raw.length = L.capacity)
    (fuel : Nat) (outcomes : Nat → Restore.Outcomes L) (d : Restore.Device L) (offset : Nat)
    (hoffset : offset ≤ raw.length) (hup : offset < raw.length → Uploading d (raw.take offset))
    (hend : offset = raw.length → Restored d raw)
    (hfuel : (raw.length - offset + 127) / 128 < fuel) :
    ∃ e ended, restoreLoop raw fuel outcomes d offset = some (e, ended) ∧
      (ended = .complete → Restored e raw) ∧
      ((∀ index, (outcomes index).AllDone) →
        Restore.zbStorageImageOk (raw.drop L.nvsSize) L.zbSize = true → ended = .complete) := by
  induction fuel generalizing d offset outcomes with
  | zero => omega
  | succ fuel ih =>
      by_cases hlt : offset < raw.length
      · have hchunk := length_nextChunk raw offset
        have htake : (raw.take offset).length = offset := List.length_take_of_le hoffset
        have hsize : chunkSize = 128 := rfl
        have hstep := Restore.processImmediate_upload (hup hlt) hfound (outcomes 0)
          (nextChunk raw offset) (by omega)
        rw [htake, take_append_nextChunk, ← hlen] at hstep
        rw [restoreLoop_succ fuel outcomes hlt]
        dsimp only
        rcases hstep with ⟨e, copies, hfill, heq⟩ | ⟨⟨e, heq⟩, hfail⟩
        · by_cases hmore : offset + (nextChunk raw offset).length < raw.length
          · rw [heq, if_pos hmore, if_pos rfl]
            obtain ⟨last, ended, hloop, hok, hall⟩ := ih
              (fun index => outcomes (index + 1)) e (offset + (nextChunk raw offset).length)
              hmore.le
              (fun _ => .inr hfill) (fun heq => absurd heq hmore.ne) (by omega)
            exact ⟨last, ended, hloop, hok, fun hdone => hall fun index => hdone (index + 1)⟩
          · have hwhole : raw.take (offset + (nextChunk raw offset).length) = raw :=
              List.take_of_length_le (by omega)
            rw [hwhole] at hfill
            obtain ⟨hflash, hall⟩ := Restore.finish_filled hfill (outcomes 0) copies hlen
            rw [heq, if_neg hmore]
            by_cases hok : (Restore.finish (outcomes 0) e copies).status = .ok
            · rw [if_pos hok]
              obtain ⟨last, ended, hloop, hok, hrest⟩ := ih
                (fun index => outcomes (index + 1)) (Restore.finish (outcomes 0) e copies).device
                (offset + (nextChunk raw offset).length) (by omega)
                (fun hless => absurd hless hmore)
                (fun _ => ⟨hflash hok, finish_reboot _ _ _ hok⟩) (by omega)
              exact ⟨last, ended, hloop, hok, fun hdone => hrest fun index => hdone (index + 1)⟩
            · rw [if_neg hok]
              exact ⟨_, _, rfl, nofun, fun hdone hgate => absurd (hall (hdone 0) hgate) hok⟩
        · rw [heq, if_neg (by simp [Restore.restoreFail])]
          exact ⟨_, _, rfl, nofun, fun hdone => absurd (hdone 0) hfail⟩
      · have hequal : offset = raw.length := by omega
        rw [restoreLoop, if_neg hlt]
        exact ⟨d, .complete, rfl, fun _ => hend hequal, fun _ _ => rfl⟩

-- The device has other partitions, or none.
theorem restoreLoop_refused (h : ¬(L.found = true ∧ raw.length = L.capacity))
    (hsmall : raw.length < 2 ^ 32) (hne : 0 < raw.length) (fuel : Nat)
    (outcomes : Nat → Restore.Outcomes L) :
    ∃ e, restoreLoop raw (fuel + 1) outcomes d 0 =
      some (e, .error ("Restore failed at offset " ++ toString 0)) := by
  have hparse := Restore.parse_encodeRequest (nextChunk raw 0) (show 0 < 2 ^ 32 by decide) hsmall
  have hstatus : (Restore.processImmediate (outcomes 0) d
      (encodeRequest 0 raw.length (nextChunk raw 0))).status ≠ .ok := by
    rw [Restore.processImmediate, hparse]
    simp only [Restore.processRequest]
    by_cases hfound : L.found = true
    · have htotal : raw.length ≠ L.capacity := fun heq => h ⟨hfound, heq⟩
      simp [hfound, htotal, Restore.restoreFail]
    · simp [hfound, Restore.restoreFail]
  rw [restoreLoop_succ fuel outcomes hne]
  dsimp only
  rw [if_neg hstatus]
  exact ⟨_, rfl⟩

-- Of the page: complete means that the image is in flash. It is complete when
-- no call of the device fails and the image passes the gate.
theorem doRestore_restored (fuel : Nat) (outcomes : Nat → Restore.Outcomes L) (file : Contents)
    (hraw : file.raw = some raw) (hfuel : 320 < fuel) :
    ∃ e ended, doRestore fuel outcomes d file = some (e, ended) ∧
      (ended = .complete → Restored e raw) ∧
      (L.found = true → raw.length = EXPECTED_RAW_SIZE → L.capacity = EXPECTED_RAW_SIZE →
        (∀ index, (outcomes index).AllDone) →
        Restore.zbStorageImageOk (raw.drop L.nvsSize) L.zbSize = true → ended = .complete) := by
  have hexpected : EXPECTED_RAW_SIZE = 40960 := rfl
  simp only [doRestore, hraw]
  by_cases hsize : raw.length ≠ EXPECTED_RAW_SIZE
  · rw [if_pos hsize]
    exact ⟨_, _, rfl, nofun, fun _ heq => absurd heq hsize⟩
  · have hlen : raw.length = 40960 := not_not.mp hsize
    rw [if_neg hsize]
    by_cases hdevice : L.found = true ∧ raw.length = L.capacity
    · obtain ⟨e, ended, hloop, hok, hall⟩ := restoreLoop_restored hdevice.1
        hdevice.2 fuel outcomes d 0 (Nat.zero_le _) (fun _ => .inl rfl)
        (fun hzero => by omega) (by omega)
      exact ⟨e, ended, hloop, hok, fun _ _ _ hdone hgate => hall hdone hgate⟩
    · obtain ⟨less, rfl⟩ : ∃ less, fuel = less + 1 := ⟨fuel - 1, by omega⟩
      obtain ⟨e, hloop⟩ := restoreLoop_refused (d := d) hdevice (by omega) (by omega) less outcomes
      refine ⟨e, _, hloop, nofun, fun hfound _ hcap => ?_⟩
      exact absurd ⟨hfound, by omega⟩ hdevice

theorem doBackup_eq {c : Pull.Coordinator} (hc : c.OnNetwork)
    {rounds : Nat → Snapshot.Outcomes} (hread : ∀ index, Pull.ChunkRead (rounds index))
    {fuel : Nat} (hfuel : c.flash.image.length / 128 < fuel) (s : Snapshot.State) :
    Pull.doBackup c fuel rounds s = some (.ok c.flash.image) := by
  obtain ⟨whole, hpull, hwhole⟩ : ∃ whole, Pull.pull c fuel rounds s 0 [] =
      some (.ok { totalSize := c.flash.image.length, chunks := whole }) ∧
        whole.flatten = c.flash.image :=
    Pull.pull_image hc hread (fun hne => absurd rfl hne) rfl (Nat.zero_le _) hfuel
  have hraw := Pull.raw_of_flatten { totalSize := c.flash.image.length, chunks := whole }
    (congrArg List.length hwhole)
  rw [Pull.doBackup, hpull, Option.map_some, Except.bind, hraw, hwhole]

-- A backup that the page has pulled from one device and restored to another:
-- when the page says so, the second has the flash of the first.
theorem backup_restored (c : Pull.Coordinator) (hc : c.OnNetwork)
    (hnvs : c.flash.nvs.length = L.nvsSize) (hzb : c.flash.zb.length = L.zbSize)
    (hsize : L.capacity = EXPECTED_RAW_SIZE) (rounds : Nat → Snapshot.Outcomes)
    (hread : ∀ index, Pull.ChunkRead (rounds index)) (s : Snapshot.State) (d : Restore.Device L)
    (outcomes : Nat → Restore.Outcomes L) (fuel : Nat) (hfuel : 320 < fuel) :
    ∃ raw file e ended, Pull.doBackup c fuel rounds s = some (.ok raw) ∧
      contents raw = .ok file ∧ doRestore fuel outcomes d file = some (e, ended) ∧
      (ended = .complete →
        e.nvs.bytes = c.flash.nvs ∧ e.zb.bytes = c.flash.zb ∧ e.rebootPending = true) ∧
      (L.found = true → (∀ index, (outcomes index).AllDone) →
        Restore.zbStorageImageOk c.flash.zb L.zbSize = true → ended = .complete) := by
  have hexpected : EXPECTED_RAW_SIZE = 40960 := rfl
  have hcap : L.capacity = L.nvsSize + L.zbSize := rfl
  have hlen : c.flash.image.length = EXPECTED_RAW_SIZE := by
    rw [Pull.Flash.image, List.length_append, hnvs, hzb, ← hcap, hsize]
  have hne : c.flash.image ≠ [] := by
    intro hnil
    rw [hnil, List.length_nil] at hlen
    omega
  obtain ⟨file, hfile, hraw⟩ := raw_contents hne
  obtain ⟨e, ended, hrestore, hok, hall⟩ := doRestore_restored (d := d) fuel outcomes file hraw
    hfuel
  refine ⟨_, file, e, ended, doBackup_eq hc hread (by omega) s, hfile, hrestore, ?_, ?_⟩
  · intro hcomplete
    obtain ⟨hflash, hreboot⟩ := hok hcomplete
    obtain ⟨hfirst, hsecond⟩ := List.append_inj hflash (by rw [e.nvs.length_eq, hnvs])
    exact ⟨hfirst, hsecond, hreboot⟩
  · intro hfound hdone hgate
    have hdrop : c.flash.image.drop L.nvsSize = c.flash.zb := by
      rw [Pull.Flash.image, ← hnvs, List.drop_left]
    exact hall hfound hlen hsize hdone (by rw [hdrop]; exact hgate)

-- The partitions of the firmware, and a coordinator whose zb_storage has one
-- dataset at the front of its first page.
def partitions : Layout :=
  { nvsSize := 0x6000, zbSize := 0x4000, found := true, fits := by decide }

def dataset : List UInt8 :=
  [0xff, 0xff, 0xff, 0xff] ++ toLE 4 Restore.ZB_NVRAM_PAGE_MAGIC ++ List.replicate 0x38 0 ++
    toLE 4 1 ++ toLE 2 16 ++ toLE 2 5

def donor : Pull.Coordinator :=
  { flash :=
      { nvs := List.replicate 0x6000 0xff
        zb := dataset ++ List.replicate (0x4000 - 0x48) 0xff
        fits := by
          rw [List.length_append, List.length_replicate, List.length_replicate]
          decide }
    found := true
    joined := true
    panId := 0x1A62 }

def allRead : Snapshot.Outcomes :=
  { malloc := true, snapshotNvs := .done, snapshotZb := .done, chunkNvs := .done, chunkZb := .done }

def fresh : Restore.Device partitions := Restore.boot (Nor.erased _) (Nor.erased _)

theorem backup_restored_donor :
    ∃ raw file e,
      Pull.doBackup donor 321 (fun _ => allRead) none = some (.ok raw) ∧
        contents raw = .ok file ∧
        doRestore 321 (fun _ => Restore.allDone true) fresh file = some (e, .complete) ∧
        e.nvs.bytes = donor.flash.nvs ∧ e.zb.bytes = donor.flash.zb ∧ e.rebootPending = true := by
  have hnvs : donor.flash.nvs.length = partitions.nvsSize := List.length_replicate
  have hzb : donor.flash.zb.length = partitions.zbSize := by
    simp only [donor, List.length_append, List.length_replicate]
    decide
  obtain ⟨raw, file, e, ended, hbackup, hfile, hrestore, hok, hall⟩ :=
    backup_restored donor { found := rfl, joined := rfl, panId := by decide }
      hnvs hzb rfl (fun _ => allRead)
      (fun _ => ⟨rfl, rfl⟩) none fresh (fun _ => Restore.allDone true) 321 (by decide)
  have hcomplete : ended = .complete :=
    hall rfl (fun _ => ⟨rfl, rfl, rfl, rfl⟩) (by decide +kernel)
  rw [hcomplete] at hrestore
  exact ⟨raw, file, e, hbackup, hfile, hrestore, hok hcomplete⟩

end EspCoordinator.Backup.File
