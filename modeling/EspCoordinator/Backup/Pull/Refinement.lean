import EspCoordinator.Backup.Pull.Theorems
import EspCoordinator.Backup.Snapshot.Theorems

-- Without an overflow the 32 bits are those of Backup.Snapshot
namespace EspCoordinator.Backup.Pull

open Bytes
open Restore (Layout field)
open Snapshot (Answer State)

variable {L : Layout} {r : Snapshot.Request L} {s : State} {offset : UInt32}

def flashOf (r : Snapshot.Request L) : Flash :=
  { nvs := r.nvs.bytes
    zb := r.zb.bytes
    fits := by
      have hfits := L.fits
      rw [r.nvs.length_eq, r.zb.length_eq]
      omega }

def Request.of (r : Snapshot.Request L) : Request :=
  { inbuffer := r.inbuffer, outcomes := r.outcomes }

def Coordinator.of (r : Snapshot.Request L) : Coordinator :=
  { flash := flashOf r, found := L.found, joined := r.joined, panId := r.panId }

-- The fields of what the other model answers
def response (L : Layout) : Answer → Response
  | .refused => failed 0
  | .unread _ => failed (UInt32.ofNat L.capacity)
  | .served chunk =>
      { status := GENERIC_OK, totalSize := UInt32.ofNat L.capacity,
        len := UInt32.ofNat chunk.length, chunk }

theorem length_image_flash (r : Snapshot.Request L) : (flashOf r).image.length = L.capacity :=
  r.length_image

theorem totalSize_flash (r : Snapshot.Request L) :
    (flashOf r).totalSize = UInt32.ofNat L.capacity := by
  rw [← UInt32.ofNat_toNat (x := (flashOf r).totalSize), Flash.toNat_totalSize, length_image_flash]

theorem offset_of (r : Snapshot.Request L) : (Request.of r).offset.toNat = r.offset := by
  rw [Request.offset, Snapshot.Request.offset]
  change (if r.inbuffer.length ≥ 4 then UInt32.ofNat (field r.inbuffer 0 4) else 0).toNat = _
  split
  · have hlt := ofLE_lt ((r.inbuffer.drop 0).take 4)
    rw [List.length_take, List.length_drop] at hlt
    apply UInt32.toNat_ofNat_of_lt'
    exact Nat.lt_of_lt_of_le hlt (Nat.pow_le_pow_right (by decide) (Nat.min_le_left _ _))
  · rfl

theorem toNat_chunkLen_flash (r : Snapshot.Request L) (offset : UInt32) :
    (chunkLen (flashOf r) offset).toNat = Snapshot.chunkLen L offset.toNat := by
  rw [toNat_chunkLen, Flash.length_chunkAt, length_image_flash, Snapshot.chunkLen]
  split_ifs <;> omega

theorem chunkLen_flash (r : Snapshot.Request L) (offset : UInt32) :
    chunkLen (flashOf r) offset = UInt32.ofNat (Snapshot.chunkLen L offset.toNat) := by
  rw [← toNat_chunkLen_flash, UInt32.ofNat_toNat]

theorem release_flash (r : Snapshot.Request L) (s : State) (offset : UInt32) :
    release (flashOf r) s offset (chunkLen (flashOf r) offset) =
      Snapshot.release L s offset.toNat (Snapshot.chunkLen L offset.toNat) := by
  have hfits := (flashOf r).length_image_lt
  have hlen := toNat_chunkLen_flash r offset
  have htotal := Flash.toNat_totalSize (flashOf r)
  rw [length_image_flash] at hfits htotal
  have hends : offset + chunkLen (flashOf r) offset ≥ (flashOf r).totalSize ↔
      offset.toNat + Snapshot.chunkLen L offset.toNat ≥ L.capacity := by
    rw [ge_iff_le, UInt32.le_iff_toNat_le, htotal]
    by_cases hin : offset.toNat < L.capacity
    · have hless := (Snapshot.chunkLen_le hin).2.1
      rw [toNat_add_of_lt (by omega), hlen]
    · have hzero := Snapshot.chunkLen_of_le (Nat.not_lt.mp hin)
      have hsum : (offset + chunkLen (flashOf r) offset).toNat = offset.toNat := by
        rw [toNat_add_of_lt (by rw [hlen, hzero]; exact offset.toNat_lt), hlen, hzero]
        rfl
      rw [hsum, hzero]
      rfl
  simp only [release, Snapshot.release, hends]

-- The reads that the chunk takes are done.
theorem readable_iff (hin : offset.toNat < L.capacity) :
    Snapshot.Readable r offset.toNat (Snapshot.chunkLen L offset.toNat) ↔
      ∀ step ∈ chunkReads (flashOf r) offset (chunkLen (flashOf r) offset) r.outcomes,
        step.2 = .done := by
  have hlen := toNat_chunkLen_flash r offset
  have hpos := (Snapshot.chunkLen_le hin).1
  have hnvs : ((flashOf r).part .nvs).length = L.nvsSize := r.nvs.length_eq
  have hend : offset.toNat + (chunkLen (flashOf r) offset).toNat ≤ (flashOf r).image.length :=
    chunkLen_end (by rwa [length_image_flash])
  rw [Snapshot.Readable]
  rcases chunkReads_cases r.outcomes hend with
    (⟨hin, hplan⟩ | ⟨hplan, -, hpast⟩) | ⟨first, second, hplan, hfirst, hsecond, hpos, hmore⟩
  · rw [hplan, List.forall_mem_singleton]
    rw [hnvs, hlen] at hin
    exact ⟨fun h => h.1 (by omega), fun h => ⟨fun _ => h, fun hover => absurd hover (by omega)⟩⟩
  · rw [hplan, List.forall_mem_singleton]
    exact ⟨fun h => h.2 (by omega), fun h => ⟨fun hless => absurd hless (by omega), fun _ => h⟩⟩
  · have hover : L.nvsSize < offset.toNat + Snapshot.chunkLen L offset.toNat := by omega
    have hless : offset.toNat < L.nvsSize := by omega
    rw [hplan, List.forall_mem_cons, List.forall_mem_singleton]
    exact ⟨fun h => ⟨h.1 hless, h.2 hover⟩, fun h => ⟨fun _ => h.1, fun _ => h.2⟩⟩

-- A chunk that has been read is answered and released alike.
theorem serve_chunk {chunk : List UInt8} (hchunk : chunk.length = Snapshot.chunkLen L offset.toNat)
    (hread : (readChunk (flashOf r) s offset (chunkLen (flashOf r) offset) r.outcomes).2 =
      some chunk) :
    (serve (flashOf r) s offset r.outcomes).state =
        Snapshot.release L s offset.toNat (Snapshot.chunkLen L offset.toNat) ∧
      (serve (flashOf r) s offset r.outcomes).response = response L (.served chunk) := by
  obtain ⟨hstate, hresponse⟩ := serve_of_some hread
  rw [hstate, hresponse, release_flash, response, totalSize_flash, chunkLen_flash, hchunk]
  exact ⟨rfl, rfl⟩

theorem serve_copy {bytes : List UInt8} (r : Snapshot.Request L) (hin : offset.toNat < L.capacity)
    (hbytes : bytes.length = L.capacity) :
    let answered := Snapshot.serve (some bytes) r offset.toNat (Snapshot.chunkLen L offset.toNat)
    (serve (flashOf r) (some bytes) offset r.outcomes).state = answered.1 ∧
      (serve (flashOf r) (some bytes) offset r.outcomes).response = response L answered.2 := by
  have himage := length_image_flash r
  have hinside : offset.toNat < (flashOf r).image.length := by rwa [himage]
  obtain ⟨hleast, hfits, -⟩ := Snapshot.chunkLen_le hin
  have hcopy := fromSnapshot_eq (hbytes.trans himage.symm) hinside
  rw [toNat_chunkLen_flash] at hcopy
  have hchunk : ((bytes.drop offset.toNat).take (Snapshot.chunkLen L offset.toNat)).length =
      Snapshot.chunkLen L offset.toNat := by
    rw [List.length_take, List.length_drop]
    omega
  have hread : (readChunk (flashOf r) (some bytes) offset (chunkLen (flashOf r) offset)
      r.outcomes).2 =
        some ((bytes.drop offset.toNat).take (Snapshot.chunkLen L offset.toNat)) := by
    rw [readChunk, if_pos (chunkLen_pos_iff.mpr hinside), hcopy]
  have hanswer : Snapshot.serve (some bytes) r offset.toNat (Snapshot.chunkLen L offset.toNat) =
      (Snapshot.release L (some bytes) offset.toNat (Snapshot.chunkLen L offset.toNat),
        .served ((bytes.drop offset.toNat).take (Snapshot.chunkLen L offset.toNat))) := by
    simp only [Snapshot.serve, if_pos hleast, hbytes, if_pos hfits]
  rw [hanswer]
  exact serve_chunk hchunk hread

theorem serve_direct (r : Snapshot.Request L) (hin : offset.toNat < L.capacity) :
    let answered := Snapshot.serve none r offset.toNat (Snapshot.chunkLen L offset.toNat)
    (serve (flashOf r) none offset r.outcomes).state = answered.1 ∧
      (serve (flashOf r) none offset r.outcomes).response = response L answered.2 := by
  have hinside : offset.toNat < (flashOf r).image.length := by rwa [length_image_flash]
  have hdirect : readChunk (flashOf r) none offset (chunkLen (flashOf r) offset) r.outcomes =
      readAll (flashOf r) (chunkReads (flashOf r) offset (chunkLen (flashOf r) offset)
        r.outcomes) := by
    rw [readChunk, if_pos (chunkLen_pos_iff.mpr hinside), fromSnapshot]
  by_cases hread : Snapshot.Readable r offset.toNat (Snapshot.chunkLen L offset.toNat)
  · have hgave : (readAll (flashOf r) (chunkReads (flashOf r) offset (chunkLen (flashOf r) offset)
        r.outcomes)).2 = some (r.chunk offset.toNat) := by
      rw [readAll_chunkReads hinside ((readable_iff hin).mp hread), ← take_chunkLen,
        toNat_chunkLen_flash]
      rfl
    obtain ⟨hstate, hresponse⟩ := serve_chunk (r.length_chunk hin) (hdirect ▸ hgave)
    rw [Snapshot.serve_direct hin hread]
    refine ⟨hstate.trans ?_, hresponse⟩
    rw [Snapshot.release, ite_self]
  · obtain ⟨left, hleft⟩ := Snapshot.serve_unread hin hread
    have hnone : (readAll (flashOf r) (chunkReads (flashOf r) offset (chunkLen (flashOf r) offset)
        r.outcomes)).2 = none := by
      refine Option.eq_none_iff_forall_ne_some.mpr fun bytes hbytes => ?_
      have hdone := (readAll_eq_some_iff.mp hbytes).1
      exact hread ((readable_iff hin).mpr fun step hstep => (hdone step hstep).2)
    obtain ⟨hstate, hresponse⟩ := serve_of_none (hdirect ▸ hnone)
    rw [hleft, hstate, hresponse, totalSize_flash]
    exact ⟨rfl, rfl⟩

theorem serve_past_end (r : Snapshot.Request L) (s : State) (hout : L.capacity ≤ offset.toNat) :
    let answered := Snapshot.serve s r offset.toNat (Snapshot.chunkLen L offset.toNat)
    (serve (flashOf r) s offset r.outcomes).state = answered.1 ∧
      (serve (flashOf r) s offset r.outcomes).response = response L answered.2 := by
  have hzero := Snapshot.chunkLen_of_le hout
  have hnothing : ¬chunkLen (flashOf r) offset > 0 := by
    rw [chunkLen_pos_iff, length_image_flash]
    exact Nat.not_lt.mpr hout
  have hread : (readChunk (flashOf r) s offset (chunkLen (flashOf r) offset) r.outcomes).2 =
      some [] := by
    rw [readChunk, if_neg hnothing]
  have hlen : ([] : List UInt8).length = Snapshot.chunkLen L offset.toNat := hzero.symm
  obtain ⟨hstate, hresponse⟩ := serve_chunk hlen hread
  rw [Snapshot.serve_out hout]
  refine ⟨hstate.trans ?_, hresponse⟩
  rw [Snapshot.release, hzero, Nat.add_zero, if_pos hout]

-- serve of either model, on a snapshot of the right size
theorem serve_flashOf (r : Snapshot.Request L) (s : State) (offset : UInt32)
    (hs : ∀ bytes, s = some bytes → bytes.length = L.capacity) :
    let answered := Snapshot.serve s r offset.toNat (Snapshot.chunkLen L offset.toNat)
    (serve (flashOf r) s offset r.outcomes).state = answered.1 ∧
      (serve (flashOf r) s offset r.outcomes).response = response L answered.2 := by
  by_cases hin : offset.toNat < L.capacity
  · cases s with
    | some bytes => exact serve_copy r hin (hs bytes rfl)
    | none => exact serve_direct r hin
  · exact serve_past_end r s (Nat.not_lt.mp hin)

theorem partitionRead_whole (r : Snapshot.Request L) (part : Part) :
    partitionRead (flashOf r) { part, offset := 0, size := (flashOf r).size part } .done =
      some ((flashOf r).part part) := by
  rw [partitionRead, if_pos (inside_whole _ _), bytes_whole]

-- The two reads of the snapshot, in a buffer of the right size
theorem readAll_whole (r : Snapshot.Request L) :
    (readAll (flashOf r)
      [({ part := .nvs, offset := 0, size := (flashOf r).size .nvs }, r.outcomes.snapshotNvs),
        ({ part := .zb, offset := 0, size := (flashOf r).size .zb }, r.outcomes.snapshotZb)]).2 =
      match Snapshot.partitionRead r.nvs.bytes 0 L.nvsSize r.outcomes.snapshotNvs,
          Snapshot.partitionRead r.zb.bytes 0 L.zbSize r.outcomes.snapshotZb with
      | .ok nvs, .ok zb => some (nvs ++ zb)
      | _, _ => none := by
  have hnvs : (r.nvs.bytes.drop 0).take L.nvsSize = r.nvs.bytes :=
    List.take_of_length_le (Nat.le_of_eq r.nvs.length_eq)
  have hzb : (r.zb.bytes.drop 0).take L.zbSize = r.zb.bytes :=
    List.take_of_length_le (Nat.le_of_eq r.zb.length_eq)
  cases r.outcomes.snapshotNvs with
  | failed left => rfl
  | done =>
      cases r.outcomes.snapshotZb with
      | failed left =>
          simp only [readAll, partitionRead_whole, Snapshot.partitionRead]
          rfl
      | done =>
          simp only [readAll, partitionRead_whole, Snapshot.partitionRead, Option.map_some,
            List.append_nil, hnvs, hzb]
          rfl

theorem takeSnapshot_flashOf (r : Snapshot.Request L) (s : State)
    (hs : ∀ bytes, s = some bytes → bytes.length = L.capacity) :
    (takeSnapshot (flashOf r) s r.outcomes).2 = Snapshot.takeSnapshot s r := by
  have hwhole := readAll_whole r
  cases s with
  | none =>
      cases hmalloc : r.outcomes.malloc with
      | false =>
          simp only [takeSnapshot, buffer, Snapshot.takeSnapshot, hmalloc, Bool.false_eq_true,
            if_false]
      | true =>
          simp only [takeSnapshot, buffer, Snapshot.takeSnapshot, hmalloc, if_true]
          exact hwhole
  | some old =>
      have hsize := hs old rfl
      simp only [takeSnapshot, buffer, Snapshot.takeSnapshot, totalSize_flash, hsize, ne_eq,
        not_true_eq_false, if_false, beq_self_eq_true, Bool.true_or, if_true]
      exact hwhole

-- Both models send the same bytes for an answer.
theorem frame_response (a : Answer) (outdata : Memory UInt8)
    (h : ∀ chunk, a = .served chunk → chunk.length < 2 ^ 32) :
    (a.reply L).frame outdata = (response L a).bytes := by
  have hcapacity : (UInt32.ofNat L.capacity).toNat = L.capacity :=
    UInt32.toNat_ofNat_of_lt' (Nat.lt_of_le_of_lt (Nat.le_add_right _ _) L.fits)
  cases a with
  | refused => rfl
  | unread left =>
      rw [Snapshot.frame_unread, response, failed, Response.bytes, hcapacity]
      rfl
  | served chunk =>
      have hlen : (UInt32.ofNat chunk.length).toNat = chunk.length :=
        UInt32.toNat_ofNat_of_lt' (h chunk rfl)
      rw [Snapshot.frame_served, response, Response.bytes, hcapacity, hlen]

-- A request on a snapshot of the right size has the answer of the other model
-- and leaves the same snapshot.
theorem processImmediate_flashOf (r : Snapshot.Request L) (s : State)
    (hs : ∀ bytes, s = some bytes → bytes.length = L.capacity) :
    (processImmediate (.of r) s (.of r)).state = (Snapshot.processImmediate s r).1 ∧
      (processImmediate (.of r) s (.of r)).response =
        response L (Snapshot.processImmediate s r).2 := by
  have hoffset := offset_of r
  have hzero : (Request.of r).offset = 0 ↔ r.offset = 0 := by
    rw [← UInt32.toNat_inj, hoffset]
    rfl
  have hserve (s : State) (hs : ∀ bytes, s = some bytes → bytes.length = L.capacity) :
      (serve (flashOf r) s (Request.of r).offset r.outcomes).state =
          (Snapshot.serve s r r.offset (Snapshot.chunkLen L r.offset)).1 ∧
        (serve (flashOf r) s (Request.of r).offset r.outcomes).response =
          response L (Snapshot.serve s r r.offset (Snapshot.chunkLen L r.offset)).2 :=
    hoffset ▸ serve_flashOf r s (Request.of r).offset hs
  have hoff : (!(Coordinator.of r).joined || (Coordinator.of r).panId == 0xFFFF) =
      !r.onNetwork := by
    rw [Snapshot.Request.onNetwork, Bool.not_and, bne, Bool.not_not]
    rfl
  have hfound : (Coordinator.of r).found = L.found := rfl
  rw [processImmediate, Snapshot.processImmediate, hoff, hfound]
  cases hfound : L.found with
  | false => exact ⟨rfl, rfl⟩
  | true =>
      have hthere : ¬(!true) = true := by decide
      rw [if_neg hthere, if_neg hthere]
      by_cases hopens : r.offset = 0
      · rw [if_pos hopens, if_pos (hzero.mpr hopens)]
        cases hnetwork : r.onNetwork with
        | false => exact ⟨rfl, rfl⟩
        | true =>
            have htaken := takeSnapshot_flashOf r s hs
            have hanswer := hserve (Snapshot.takeSnapshot s r) fun bytes hbytes => by
              rw [Snapshot.takeSnapshot_eq_some hbytes, Snapshot.Request.length_image]
            rw [← htaken] at hanswer ⊢
            exact hanswer
      · rw [if_neg hopens, if_neg fun h => hopens (hzero.mp h)]
        exact hserve s hs

end EspCoordinator.Backup.Pull
