import EspCoordinator.Backup.Pull

namespace EspCoordinator.Backup.Pull

open Snapshot (Reading State)

variable {f : Flash} {c : Coordinator} {s : State} {offset len : UInt32}
  {outcomes : Snapshot.Outcomes}

section Sizes

theorem toNat_add_of_lt {a b : UInt32} (h : a.toNat + b.toNat < 2 ^ 32) :
    (a + b).toNat = a.toNat + b.toNat := by
  rw [UInt32.toNat_add, Nat.mod_eq_of_lt h]

theorem Flash.length_image (f : Flash) :
    f.image.length = (f.part .nvs).length + (f.part .zb).length := List.length_append

theorem Flash.length_image_lt (f : Flash) : f.image.length + 128 < 2 ^ 32 := by
  rw [f.length_image]
  exact f.fits

theorem Flash.toNat_size (f : Flash) (part : Part) :
    (f.size part).toNat = (f.part part).length := by
  have hfits := f.length_image_lt
  have hsum := f.length_image
  have hlt : (f.part part).length < UInt32.size := by
    cases part <;> exact Nat.lt_of_le_of_lt (by omega) hfits
  exact UInt32.toNat_ofNat_of_lt' hlt

theorem Flash.toNat_totalSize (f : Flash) : f.totalSize.toNat = f.image.length := by
  have hfits := f.length_image_lt
  have hsum : (f.size .nvs).toNat + (f.size .zb).toNat = f.image.length := by
    rw [f.toNat_size, f.toNat_size, f.length_image]
  rw [totalSize, toNat_add_of_lt (by omega), hsum]

theorem Flash.length_chunkAt (f : Flash) (offset : Nat) :
    (f.chunkAt offset).length = min 128 (f.image.length - offset) := by
  rw [chunkAt, List.length_take, List.length_drop]

-- The sum that is compared does not wrap where the offset is inside.
theorem toNat_chunkLen (f : Flash) (offset : UInt32) :
    (chunkLen f offset).toNat = (f.chunkAt offset.toNat).length := by
  have hfits := f.length_image_lt
  have htotal := f.toNat_totalSize
  have h128 : (128 : UInt32).toNat = 128 := rfl
  rw [chunkLen, f.length_chunkAt]
  by_cases hout : offset ≥ f.totalSize
  · have hpast : f.image.length ≤ offset.toNat := htotal ▸ UInt32.le_iff_toNat_le.mp hout
    rw [if_pos hout, Nat.sub_eq_zero_of_le hpast]
    rfl
  · have hin : offset.toNat < f.image.length := by
      rw [← htotal]
      exact UInt32.lt_iff_toNat_lt.mp (UInt32.not_le.mp hout)
    have hsum : (offset + 128).toNat = offset.toNat + 128 := toNat_add_of_lt (by omega)
    rw [if_neg hout]
    by_cases hshort : offset + 128 > f.totalSize
    · have hless := UInt32.lt_iff_toNat_lt.mp hshort
      rw [if_pos hshort, UInt32.toNat_sub_of_le _ _ (UInt32.le_of_lt (UInt32.not_le.mp hout))]
      omega
    · have hmore := UInt32.le_iff_toNat_le.mp (UInt32.not_lt.mp hshort)
      rw [if_neg hshort]
      omega

theorem chunkLen_pos_iff : chunkLen f offset > 0 ↔ offset.toNat < f.image.length := by
  have hzero : (0 : UInt32).toNat = 0 := rfl
  rw [gt_iff_lt, UInt32.lt_iff_toNat_lt, toNat_chunkLen, f.length_chunkAt]
  omega

theorem chunkLen_end (hin : offset.toNat < f.image.length) :
    offset.toNat + (chunkLen f offset).toNat ≤ f.image.length := by
  rw [toNat_chunkLen, f.length_chunkAt]
  omega

end Sizes

section Reads

theorem mem_readAll {plan : List (Read × Reading)} {read : Read}
    (h : read ∈ (readAll f plan).1) : ∃ outcome, (read, outcome) ∈ plan := by
  induction plan with
  | nil => cases h
  | cons first rest ih =>
      obtain ⟨made, outcome⟩ := first
      rw [readAll] at h
      cases hread : partitionRead f made outcome with
      | none =>
          rw [hread, List.mem_singleton] at h
          exact ⟨outcome, h ▸ List.mem_cons_self⟩
      | some bytes =>
          rw [hread] at h
          rcases List.mem_cons.mp h with rfl | hlater
          · exact ⟨outcome, List.mem_cons_self⟩
          · obtain ⟨later, hlater⟩ := ih hlater
            exact ⟨later, List.mem_cons_of_mem _ hlater⟩

theorem partitionRead_eq_some_iff {read : Read} {outcome : Reading} {bytes : List UInt8} :
    partitionRead f read outcome = some bytes ↔
      (read.Inside f ∧ outcome = .done) ∧ bytes = read.bytes f := by
  cases outcome with
  | failed left =>
      refine iff_of_false nofun ?_
      rintro ⟨⟨-, hdone⟩, -⟩
      cases hdone
  | done =>
      rw [partitionRead, Option.ite_none_right_eq_some, Option.some.injEq]
      simp only [and_true, eq_comm]

-- Together they give their bytes, and only when each of them is done.
theorem readAll_eq_some_iff {plan : List (Read × Reading)} {bytes : List UInt8} :
    (readAll f plan).2 = some bytes ↔
      (∀ step ∈ plan, step.1.Inside f ∧ step.2 = .done) ∧
        bytes = plan.flatMap fun step => step.1.bytes f := by
  induction plan generalizing bytes with
  | nil =>
      simp only [readAll, Option.some.injEq, List.flatMap_nil]
      exact ⟨fun h => ⟨nofun, h.symm⟩, fun h => h.2.symm⟩
  | cons first rest ih =>
      obtain ⟨read, outcome⟩ := first
      rw [readAll, List.forall_mem_cons, List.flatMap_cons]
      constructor
      · intro h
        cases hread : partitionRead f read outcome with
        | none =>
            rw [hread] at h
            cases h
        | some gave =>
            rw [hread] at h
            obtain ⟨hdone, rfl⟩ := partitionRead_eq_some_iff.mp hread
            obtain ⟨later, hlater, rfl⟩ := Option.map_eq_some_iff.mp h
            obtain ⟨hrest, rfl⟩ := ih.mp hlater
            exact ⟨⟨hdone, hrest⟩, rfl⟩
      · rintro ⟨⟨hdone, hrest⟩, rfl⟩
        have hread := partitionRead_eq_some_iff.mpr ⟨hdone, rfl⟩
        have hlater := ih.mpr ⟨hrest, rfl⟩
        simp only [hread, hlater, Option.map_some]

-- A chunk is in the first partition, across the boundary, or in the second.
theorem chunkReads_cases (outcomes : Snapshot.Outcomes)
    (hend : offset.toNat + len.toNat ≤ f.image.length) :
    (offset.toNat + len.toNat ≤ (f.part .nvs).length ∧
      chunkReads f offset len outcomes =
        [({ part := .nvs, offset, size := len }, outcomes.chunkNvs)] ∨
      chunkReads f offset len outcomes =
        [({ part := .zb, offset := offset - f.size .nvs, size := len }, outcomes.chunkZb)] ∧
      (offset - f.size .nvs).toNat = offset.toNat - (f.part .nvs).length ∧
      (f.part .nvs).length ≤ offset.toNat) ∨
    ∃ first second : UInt32,
      chunkReads f offset len outcomes =
        [({ part := .nvs, offset, size := first }, outcomes.chunkNvs),
          ({ part := .zb, offset := 0, size := second }, outcomes.chunkZb)] ∧
      offset.toNat + first.toNat = (f.part .nvs).length ∧
      first.toNat + second.toNat = len.toNat ∧ 0 < first.toNat ∧ 0 < second.toNat := by
  have hfits := f.length_image_lt
  have hsize := f.toNat_size .nvs
  have hsum : (offset + len).toNat = offset.toNat + len.toNat := toNat_add_of_lt (by omega)
  rw [chunkReads]
  by_cases hnvs : offset < f.size .nvs
  · have hin := UInt32.lt_iff_toNat_lt.mp hnvs
    have hrest := UInt32.toNat_sub_of_le _ _ (UInt32.le_of_lt hnvs)
    rw [if_pos hnvs]
    by_cases hacross : offset + len > f.size .nvs
    · have hbeyond := UInt32.lt_iff_toNat_lt.mp hacross
      have hless : f.size .nvs - offset < len := UInt32.lt_iff_toNat_lt.mpr (by omega)
      have hsecond := UInt32.toNat_sub_of_le _ _ (UInt32.le_of_lt hless)
      refine .inr ⟨f.size .nvs - offset, len - (f.size .nvs - offset), ?_, by omega, by omega,
        by omega, by omega⟩
      simp only [if_pos hacross, if_pos hless]
    · have hwithin := UInt32.le_iff_toNat_le.mp (UInt32.not_lt.mp hacross)
      refine .inl (.inl ⟨by omega, ?_⟩)
      simp only [if_neg hacross, if_neg (UInt32.lt_irrefl len)]
  · have hge := UInt32.not_lt.mp hnvs
    have hpast := UInt32.le_iff_toNat_le.mp hge
    have hstart := UInt32.toNat_sub_of_le _ _ hge
    exact .inl (.inr ⟨if_neg hnvs, by omega, by omega⟩)

theorem chunkReads_inside (hend : offset.toNat + len.toNat ≤ f.image.length)
    {step : Read × Reading} (h : step ∈ chunkReads f offset len outcomes) : step.1.Inside f := by
  have hsum := f.length_image
  rcases chunkReads_cases outcomes hend with
    (⟨hin, hplan⟩ | ⟨hplan, hstart, hpast⟩) | ⟨first, second, hplan, hfirst, hsecond, -⟩
  · rw [hplan, List.mem_singleton] at h
    subst h
    exact hin
  · rw [hplan, List.mem_singleton] at h
    subst h
    simp only [Read.Inside]
    omega
  · rw [hplan, List.mem_pair] at h
    rcases h with rfl | rfl
    · exact hfirst.le
    · have hzero : (0 : UInt32).toNat = 0 := rfl
      simp only [Read.Inside]
      omega

-- The reads of a chunk give together what the contiguous image has there.
theorem flatMap_chunkReads (hend : offset.toNat + len.toNat ≤ f.image.length) :
    ((chunkReads f offset len outcomes).flatMap fun step => step.1.bytes f) =
      (f.image.drop offset.toNat).take len.toNat := by
  have himage : f.image = f.part .nvs ++ f.part .zb := rfl
  rcases chunkReads_cases outcomes hend with
    (⟨hin, hplan⟩ | ⟨hplan, hstart, hpast⟩) | ⟨first, second, hplan, hfirst, hsecond, -⟩
  · rw [hplan, List.flatMap_singleton, himage, List.drop_append_of_le_length (by omega),
      List.take_append_of_le_length (by rw [List.length_drop]; omega)]
    rfl
  · rw [hplan, List.flatMap_singleton, himage, List.drop_append, List.drop_of_length_le hpast,
      List.nil_append, ← hstart]
    rfl
  · have hfront : ((f.part .nvs).drop offset.toNat).length = first.toNat := by
      rw [List.length_drop]
      omega
    have hbehind : second.toNat = len.toNat - first.toNat := by omega
    rw [hplan, himage, List.drop_append_of_le_length (by omega), List.take_append, hfront,
      ← hbehind, List.take_of_length_le (by omega : _ ≤ len.toNat)]
    simp only [List.flatMap_cons, List.flatMap_nil, List.append_nil, Read.bytes]
    rw [List.take_of_length_le hfront.le]
    rfl

end Reads

section Serving

-- There is no snapshot, or it is one of what the flash holds.
def Current (f : Flash) (s : State) : Prop := ∀ bytes, s = some bytes → bytes = f.image

-- The direct reads of a chunk are done.
structure ChunkRead (outcomes : Snapshot.Outcomes) : Prop where
  nvs : outcomes.chunkNvs = .done
  zb : outcomes.chunkZb = .done

-- The chunk of the image at any offset, nothing at its end and beyond.
def answer (f : Flash) (offset : Nat) : Response :=
  { status := GENERIC_OK
    totalSize := UInt32.ofNat f.image.length
    len := UInt32.ofNat (f.chunkAt offset).length
    chunk := f.chunkAt offset }

theorem current_none : Current f none := fun _ h => by cases h

theorem take_chunkLen (f : Flash) (offset : UInt32) :
    (f.image.drop offset.toNat).take (chunkLen f offset).toNat = f.chunkAt offset.toNat := by
  rw [toNat_chunkLen]
  exact (List.prefix_iff_eq_take.mp (List.take_prefix 128 _)).symm

theorem fromSnapshot_eq {bytes : List UInt8} (hbytes : bytes.length = f.image.length)
    (hin : offset.toNat < f.image.length) :
    fromSnapshot (some bytes) offset (chunkLen f offset) =
      some ((bytes.drop offset.toNat).take (chunkLen f offset).toNat) := by
  have hfits := f.length_image_lt
  have hend := chunkLen_end hin
  have hsum := toNat_add_of_lt (show offset.toNat + (chunkLen f offset).toNat < 2 ^ 32 by omega)
  have hsize : (UInt32.ofNat bytes.length).toNat = f.image.length := by
    rw [hbytes]
    exact UInt32.toNat_ofNat_of_lt' (Nat.lt_of_le_of_lt (Nat.le_add_right _ 128) hfits)
  have hle : offset + chunkLen f offset ≤ UInt32.ofNat bytes.length := by
    rw [UInt32.le_iff_toNat_le]
    omega
  exact if_pos hle

theorem ChunkRead.done (h : ChunkRead outcomes) (hend : offset.toNat + len.toNat ≤ f.image.length)
    {step : Read × Reading} (hstep : step ∈ chunkReads f offset len outcomes) :
    step.2 = .done := by
  rcases chunkReads_cases outcomes hend with
    (⟨_, hplan⟩ | ⟨hplan, _⟩) | ⟨first, second, hplan, _⟩
  · rw [hplan, List.mem_singleton] at hstep
    exact hstep ▸ h.nvs
  · rw [hplan, List.mem_singleton] at hstep
    exact hstep ▸ h.zb
  · rw [hplan, List.mem_pair] at hstep
    rcases hstep with rfl | rfl
    · exact h.nvs
    · exact h.zb

theorem readAll_chunkReads (hin : offset.toNat < f.image.length)
    (h : ∀ step ∈ chunkReads f offset (chunkLen f offset) outcomes, step.2 = .done) :
    (readAll f (chunkReads f offset (chunkLen f offset) outcomes)).2 =
      some (f.chunkAt offset.toNat) := by
  have hend := chunkLen_end hin
  rw [readAll_eq_some_iff, flatMap_chunkReads hend, take_chunkLen]
  exact ⟨fun step hstep => ⟨chunkReads_inside hend hstep, h step hstep⟩, rfl⟩

-- The copy and the two partitions give the same.
theorem readChunk_of_current (offset : UInt32) (hs : Current f s) (h : ChunkRead outcomes) :
    (readChunk f s offset (chunkLen f offset) outcomes).2 = some (f.chunkAt offset.toNat) := by
  rw [readChunk]
  by_cases hin : offset.toNat < f.image.length
  · rw [if_pos (chunkLen_pos_iff.mpr hin)]
    cases s with
    | none => exact readAll_chunkReads hin fun _ hstep => h.done (chunkLen_end hin) hstep
    | some bytes =>
        obtain rfl := hs bytes rfl
        rw [fromSnapshot_eq rfl hin, take_chunkLen]
  · have hnothing : f.chunkAt offset.toNat = [] := by
      apply List.eq_nil_of_length_eq_zero
      rw [f.length_chunkAt]
      omega
    rw [if_neg fun hpos => hin (chunkLen_pos_iff.mp hpos), hnothing]

theorem serve_of_some {chunk : List UInt8}
    (h : (readChunk f s offset (chunkLen f offset) outcomes).2 = some chunk) :
    (serve f s offset outcomes).state = release f s offset (chunkLen f offset) ∧
      (serve f s offset outcomes).response =
        { status := GENERIC_OK, totalSize := f.totalSize, len := chunkLen f offset, chunk } := by
  cases hread : readChunk f s offset (chunkLen f offset) outcomes with
  | mk reads found =>
      rw [hread] at h
      obtain rfl : found = some chunk := h
      simp only [serve, hread, and_self]

theorem serve_of_none (h : (readChunk f s offset (chunkLen f offset) outcomes).2 = none) :
    (serve f s offset outcomes).state = s ∧
      (serve f s offset outcomes).response = failed f.totalSize := by
  cases hread : readChunk f s offset (chunkLen f offset) outcomes with
  | mk reads found =>
      rw [hread] at h
      obtain rfl : found = none := h
      simp only [serve, hread, and_self]

theorem response_serve (hs : Current f s) (h : ChunkRead outcomes) :
    (serve f s offset outcomes).response = answer f offset.toNat := by
  have htotal : f.totalSize = UInt32.ofNat f.image.length := by
    rw [← f.toNat_totalSize, UInt32.ofNat_toNat]
  have hlen : chunkLen f offset = UInt32.ofNat (f.chunkAt offset.toNat).length := by
    rw [← toNat_chunkLen, UInt32.ofNat_toNat]
  rw [(serve_of_some (readChunk_of_current offset hs h)).2, answer, htotal, hlen]

theorem state_serve (f : Flash) (s : State) (offset : UInt32) (outcomes : Snapshot.Outcomes) :
    (serve f s offset outcomes).state = s ∨ (serve f s offset outcomes).state = none := by
  cases hread : (readChunk f s offset (chunkLen f offset) outcomes).2 with
  | none => exact .inl (serve_of_none hread).1
  | some chunk =>
      rw [(serve_of_some hread).1, release]
      split
      · exact .inr rfl
      · exact .inl rfl

theorem current_serve (hs : Current f s) : Current f (serve f s offset outcomes).state := by
  rcases state_serve f s offset outcomes with heq | heq <;> rw [heq]
  · exact hs
  · exact current_none

theorem inside_whole (f : Flash) (part : Part) :
    Read.Inside f { part, offset := 0, size := f.size part } := by
  have hzero : (0 : UInt32).toNat = 0 := rfl
  rw [Read.Inside, f.toNat_size, hzero, Nat.zero_add]

theorem bytes_whole (f : Flash) (part : Part) :
    Read.bytes f { part, offset := 0, size := f.size part } = f.part part := by
  rw [Read.bytes, f.toNat_size]
  exact List.take_length

-- Whatever was in the buffer before, it is read again.
theorem current_takeSnapshot (f : Flash) (s : State) (outcomes : Snapshot.Outcomes) :
    Current f (takeSnapshot f s outcomes).2 := by
  intro bytes hbytes
  rw [takeSnapshot] at hbytes
  by_cases hbuffer : buffer f s outcomes
  · rw [if_pos hbuffer] at hbytes
    rw [(readAll_eq_some_iff.mp hbytes).2]
    simp only [List.flatMap_cons, List.flatMap_nil, List.append_nil, bytes_whole]
    rfl
  · rw [if_neg hbuffer] at hbytes
    cases hbytes

-- No read of the handler is outside, whatever the snapshot holds.
theorem reads_serve {read : Read} (h : read ∈ (serve f s offset outcomes).reads) :
    read.Inside f := by
  have hreads : (serve f s offset outcomes).reads =
      (readChunk f s offset (chunkLen f offset) outcomes).1 := by
    rw [serve]
    split <;> next hread => rw [hread]
  rw [hreads, readChunk] at h
  by_cases hpos : chunkLen f offset > 0
  · rw [if_pos hpos] at h
    cases hcopy : fromSnapshot s offset (chunkLen f offset) with
    | some chunk =>
        rw [hcopy] at h
        cases h
    | none =>
        rw [hcopy] at h
        obtain ⟨outcome, hstep⟩ := mem_readAll h
        exact chunkReads_inside (chunkLen_end (chunkLen_pos_iff.mp hpos)) hstep
  · rw [if_neg hpos] at h
    cases h

theorem reads_takeSnapshot {read : Read} (h : read ∈ (takeSnapshot f s outcomes).1) :
    read.Inside f := by
  rw [takeSnapshot] at h
  by_cases hbuffer : buffer f s outcomes
  · rw [if_pos hbuffer] at h
    obtain ⟨outcome, hstep⟩ := mem_readAll h
    rcases List.mem_pair.mp hstep with heq | heq <;> cases heq
    · exact inside_whole f .nvs
    · exact inside_whole f .zb
  · rw [if_neg hbuffer] at h
    cases h

end Serving

section Sessions

variable {r : Request} {requests : List Request}

-- A coordinator on a network, with both partitions.
structure Coordinator.OnNetwork (c : Coordinator) : Prop where
  found : c.found = true
  joined : c.joined = true
  panId : c.panId ≠ 0xFFFF

-- The first request of a session is at offset 0.
def Opens : List Request → Prop
  | [] => False
  | opening :: _ => opening.offset = 0

theorem processImmediate_opening (hc : c.OnNetwork) (hzero : r.offset = 0) :
    processImmediate c s r =
      let opened := takeSnapshot c.flash s r.outcomes
      let served := serve c.flash opened.2 r.offset r.outcomes
      { served with reads := opened.1 ++ served.reads } := by
  have hnetwork : (!c.joined || c.panId == 0xFFFF) = false := by
    simp [hc.joined, hc.panId]
  rw [processImmediate, hc.found, if_neg (by decide), if_pos hzero, hnetwork]
  rfl

theorem processImmediate_later (hc : c.OnNetwork) (hlater : r.offset ≠ 0) :
    processImmediate c s r = serve c.flash s r.offset r.outcomes := by
  rw [processImmediate, hc.found, if_neg (by decide), if_neg hlater]

theorem response_processImmediate (hc : c.OnNetwork) (hs : r.offset ≠ 0 → Current c.flash s)
    (h : ChunkRead r.outcomes) :
    (processImmediate c s r).response = answer c.flash r.offset.toNat := by
  by_cases hzero : r.offset = 0
  · rw [processImmediate_opening hc hzero]
    exact response_serve (current_takeSnapshot _ _ _) h
  · rw [processImmediate_later hc hzero]
    exact response_serve (hs hzero) h

theorem current_processImmediate (hc : c.OnNetwork) (hs : r.offset ≠ 0 → Current c.flash s) :
    Current c.flash (processImmediate c s r).state := by
  by_cases hzero : r.offset = 0
  · rw [processImmediate_opening hc hzero]
    exact current_serve (current_takeSnapshot _ _ _)
  · rw [processImmediate_later hc hzero]
    exact current_serve (hs hzero)

theorem current_after (requests : List Request) (hc : c.OnNetwork) (hs : Current c.flash s) :
    Current c.flash (after c s requests) := by
  induction requests generalizing s with
  | nil => exact hs
  | cons r rest ih => exact ih (current_processImmediate hc fun _ => hs)

theorem reads_processImmediate {read : Read} (h : read ∈ (processImmediate c s r).reads) :
    read.Inside c.flash := by
  rw [processImmediate] at h
  split at h
  · cases h
  · split at h
    · split at h
      · cases h
      · rcases List.mem_append.mp h with h | h
        · exact reads_takeSnapshot h
        · exact reads_serve h
    · exact reads_serve h

-- In a session the snapshot, when there is one, is of what the flash holds.
theorem response_session (hc : c.OnNetwork) (hopens : Opens (requests ++ [r]))
    (h : ChunkRead r.outcomes) :
    (processImmediate c (after c s requests) r).response = answer c.flash r.offset.toNat := by
  apply response_processImmediate hc ?_ h
  intro hlater
  cases requests with
  | nil => exact absurd hopens hlater
  | cons opening rest =>
      have hopening : opening.offset = 0 := hopens
      exact current_after rest hc (current_processImmediate hc fun hne => absurd hopening hne)

end Sessions

end EspCoordinator.Backup.Pull
