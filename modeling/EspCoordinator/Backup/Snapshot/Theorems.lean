import EspCoordinator.Backup.Snapshot
import EspCoordinator.Lib.Run

namespace EspCoordinator.Backup.Snapshot

open Bytes
open Restore (Layout)

variable {L : Layout} {s : State} {r : Request L} {past : List (Request L)}
  {offset len : Nat}

-- The direct reads that a chunk takes are done.
def Readable (r : Request L) (offset len : Nat) : Prop :=
  (offset < L.nvsSize → r.outcomes.chunkNvs = .done) ∧
    (L.nvsSize < offset + len → r.outcomes.chunkZb = .done)

-- A chunk of the image that the two partitions hold.
def Request.chunk (r : Request L) (offset : Nat) : List UInt8 :=
  (r.image.drop offset).take (chunkLen L offset)

theorem Request.length_image (r : Request L) : r.image.length = L.capacity := by
  rw [image, List.length_append, r.nvs.length_eq, r.zb.length_eq, Layout.capacity]

theorem chunkLen_le (hin : offset < L.capacity) :
    0 < chunkLen L offset ∧ offset + chunkLen L offset ≤ L.capacity ∧
      (offset + chunkLen L offset ≥ L.capacity ↔ L.capacity ≤ offset + 128) := by
  unfold chunkLen
  split_ifs <;> omega

theorem chunkLen_of_le (hout : L.capacity ≤ offset) : chunkLen L offset = 0 := if_pos hout

theorem Request.length_chunk (r : Request L) (hin : offset < L.capacity) :
    (r.chunk offset).length = chunkLen L offset := by
  have hlen := chunkLen_le hin
  rw [chunk, List.length_take, List.length_drop, r.length_image]
  omega

-- Where a read is done it gives the bytes of its partition, also across the
-- boundary of the two.
theorem readChunk_of_readable (hlen : 0 < len) (h : Readable r offset len) :
    readChunk r offset len = .ok ((r.image.drop offset).take len) := by
  have hnvsLen := r.nvs.length_eq
  rw [readChunk, Request.image]
  by_cases hnvs : offset < L.nvsSize
  · rw [if_pos hnvs, h.1 hnvs, List.drop_append_of_le_length (by omega)]
    by_cases hacross : offset + len > L.nvsSize
    · have hfirst : (r.nvs.bytes.drop offset).length = L.nvsSize - offset := by
        rw [List.length_drop, hnvsLen]
      simp only [partitionRead, if_pos hacross, h.2 hacross,
        if_pos (show L.nvsSize - offset < len by omega), List.drop_zero]
      rw [List.take_append, hfirst, List.take_of_length_le (l := r.nvs.bytes.drop offset) (by omega),
        List.take_of_length_le (l := r.nvs.bytes.drop offset) (by omega)]
    · simp only [partitionRead, if_neg hacross, Nat.lt_irrefl, if_false]
      rw [List.take_append_of_le_length (by rw [List.length_drop, hnvsLen]; omega)]
  · rw [if_neg hnvs, h.2 (by omega), List.drop_append, List.drop_of_length_le (by omega),
      List.nil_append, hnvsLen]
    rfl

theorem readChunk_of_not_readable (h : ¬Readable r offset len) :
    ∃ left, readChunk r offset len = .error left := by
  have hread (bytes : List UInt8) (start size : Nat) (outcome : Reading) :
      outcome ≠ .done → ∃ left, partitionRead bytes start size outcome = .error left := by
    intro hfailed
    cases outcome with
    | done => exact absurd rfl hfailed
    | failed left => exact ⟨left.take size, rfl⟩
  rw [readChunk]
  by_cases hnvs : offset < L.nvsSize
  · rw [if_pos hnvs]
    cases hfirst : r.outcomes.chunkNvs with
    | failed left => exact ⟨_, rfl⟩
    | done =>
        have hacross : L.nvsSize < offset + len ∧ r.outcomes.chunkZb ≠ .done := by
          simpa [Readable, hfirst] using h
        obtain ⟨left, hleft⟩ := hread r.zb.bytes 0 (len - (L.nvsSize - offset)) _ hacross.2
        simp only [partitionRead, if_pos hacross.1, if_pos (show L.nvsSize - offset < len by omega)]
          at hleft ⊢
        rw [hleft]
        exact ⟨_, rfl⟩
  · rw [if_neg hnvs]
    have hfailed : r.outcomes.chunkZb ≠ .done := by
      intro hdone
      exact h ⟨fun hin => absurd hin hnvs, fun _ => hdone⟩
    exact hread _ _ _ _ hfailed

-- What the host gets behind the header.
theorem frame_served (chunk : List UInt8) (outdata : Memory UInt8) :
    ((Answer.served chunk).reply L).frame outdata =
      [STATUS_CATEGORY_GENERIC, GENERIC_OK] ++ toLE 4 L.capacity ++ toLE 4 chunk.length ++
        chunk := by
  have hstores : ((Answer.served chunk).reply L).stores = Memory.consecutive 0
      [[STATUS_CATEGORY_GENERIC], [GENERIC_OK], toLE 4 L.capacity, toLE 4 chunk.length,
        chunk] := rfl
  have houtlen : ((Answer.served chunk).reply L).outlen =
      ([STATUS_CATEGORY_GENERIC, GENERIC_OK] ++ toLE 4 L.capacity ++ toLE 4 chunk.length ++
        chunk).length := by
    simp only [Answer.reply, List.length_append, length_toLE, List.length_cons, List.length_nil]
  rw [Reply.frame, hstores, Memory.storeAll_consecutive, houtlen]
  simp only [List.flatten_cons, List.flatten_nil, List.append_nil, List.append_assoc,
    List.cons_append, List.nil_append]
  exact Memory.read_write outdata 0 _

theorem frame_refused (outdata : Memory UInt8) :
    (Answer.refused.reply L).frame outdata =
      [STATUS_CATEGORY_GENERIC, GENERIC_OPERATION_FAILED] ++ toLE 4 0 ++ toLE 4 0 := rfl

-- The bytes of a failed read are not sent.
theorem frame_unread (left : List UInt8) (outdata : Memory UInt8) :
    ((Answer.unread left).reply L).frame outdata =
      [STATUS_CATEGORY_GENERIC, GENERIC_OPERATION_FAILED] ++ toLE 4 L.capacity ++ toLE 4 0 := rfl

-- The request reaches the end of the image, or goes beyond it.
def Ends (L : Layout) (offset : Nat) : Prop := L.capacity ≤ offset + 128

instance (offset : Nat) : Decidable (Ends L offset) := inferInstanceAs (Decidable (_ ≤ _))

theorem serve_out (hout : L.capacity ≤ offset) :
    serve s r offset (chunkLen L offset) = (none, .served []) := by
  unfold serve
  rw [chunkLen_of_le hout, if_neg (Nat.lt_irrefl 0), release, Nat.add_zero, if_pos hout]

theorem serve_snapshot {bytes : List UInt8} (hbytes : bytes.length = L.capacity)
    (hin : offset < L.capacity) :
    serve (some bytes) r offset (chunkLen L offset) =
      (if Ends L offset then none else some bytes,
        .served ((bytes.drop offset).take (chunkLen L offset))) := by
  obtain ⟨hlen, hfits, hends⟩ := chunkLen_le hin
  simp only [serve, if_pos hlen, hbytes, if_pos hfits, release, hends]
  rfl

theorem serve_direct (hin : offset < L.capacity) (h : Readable r offset (chunkLen L offset)) :
    serve none r offset (chunkLen L offset) = (none, .served (r.chunk offset)) := by
  have hlen := (chunkLen_le hin).1
  simp only [serve, if_pos hlen, readChunk_of_readable hlen h, release, ite_self, Request.chunk]

theorem serve_unread (hin : offset < L.capacity) (h : ¬Readable r offset (chunkLen L offset)) :
    ∃ left, serve none r offset (chunkLen L offset) = (none, .unread left) := by
  obtain ⟨left, hleft⟩ := readChunk_of_not_readable h
  exact ⟨left, by simp only [serve, if_pos (chunkLen_le hin).1, hleft]⟩

theorem processImmediate_later (hfound : L.found = true) (hlater : r.offset ≠ 0) :
    processImmediate s r = serve s r r.offset (chunkLen L r.offset) := by
  rw [processImmediate, hfound, if_neg (by decide), if_neg hlater]

theorem after_concat (past : List (Request L)) (r : Request L) :
    after (past ++ [r]) = (processImmediate (after past) r).1 := by
  rw [after, List.foldl_concat]
  rfl

-- Without a request at offset 0 there is no new snapshot.
theorem fst_later_none (hfound : L.found = true) (hlater : r.offset ≠ 0) :
    (processImmediate none r).1 = none := by
  rw [processImmediate_later hfound hlater]
  by_cases hin : r.offset < L.capacity
  · by_cases hread : Readable r r.offset (chunkLen L r.offset)
    · rw [serve_direct hin hread]
    · obtain ⟨left, hleft⟩ := serve_unread hin hread
      rw [hleft]
  · rw [serve_out (by omega)]

theorem fst_later_some {bytes : List UInt8} (hfound : L.found = true) (hlater : r.offset ≠ 0)
    (hbytes : bytes.length = L.capacity) :
    (processImmediate (some bytes) r).1 = if Ends L r.offset then none else some bytes := by
  rw [processImmediate_later hfound hlater]
  by_cases hin : r.offset < L.capacity
  · rw [serve_snapshot hbytes hin]
  · rw [serve_out (by omega), if_pos (by unfold Ends; omega)]

theorem takeSnapshot_eq_some {bytes : List UInt8} (h : takeSnapshot s r = some bytes) :
    bytes = r.image := by
  unfold takeSnapshot at h
  dsimp only at h
  split_ifs at h
  cases hnvs : r.outcomes.snapshotNvs with
  | failed left => simp [hnvs, partitionRead] at h
  | done =>
      cases hzb : r.outcomes.snapshotZb with
      | failed left => simp [hnvs, hzb, partitionRead] at h
      | done =>
          simp only [hnvs, hzb, partitionRead, List.drop_zero, Option.some.injEq] at h
          rw [← h, Request.image, List.take_of_length_le (by rw [r.nvs.length_eq]),
            List.take_of_length_le (by rw [r.zb.length_eq])]

-- The request at offset 0 has built its snapshot.
structure Builds (past : List (Request L)) (opening : Request L) : Prop where
  found : L.found = true
  offset : opening.offset = 0
  onNetwork : opening.onNetwork = true
  snapshot : takeSnapshot (after past) opening ≠ none

theorem Builds.fst {opening : Request L} (h : Builds past opening) :
    (processImmediate (after past) opening).1 =
      if Ends L opening.offset then none else some opening.image := by
  obtain ⟨bytes, hbytes⟩ := Option.ne_none_iff_exists'.mp h.snapshot
  obtain rfl := takeSnapshot_eq_some hbytes
  rw [processImmediate, h.found, if_neg (by decide), if_pos h.offset, h.onNetwork,
    if_neg (by decide), hbytes]
  by_cases hin : opening.offset < L.capacity
  · rw [serve_snapshot (Request.length_image _) hin]
  · rw [serve_out (by omega), if_pos (by unfold Ends; omega)]

-- The snapshot lives until a request reaches the end of the image, the one
-- that built it included.
theorem after_session {opening : Request L} (h : Builds past opening) {mids : List (Request L)}
    (hmids : ∀ q ∈ mids, q.offset ≠ 0) :
    after (past ++ opening :: mids) =
      if ∀ q ∈ opening :: mids, ¬Ends L q.offset then some opening.image else none := by
  induction mids using List.reverseRecOn with
  | nil =>
      rw [after_concat, h.fst]
      by_cases hends : Ends L opening.offset
      · simp [hends]
      · simp [hends]
  | append_singleton mids q ih =>
      have hq : q.offset ≠ 0 := hmids q (by simp)
      have hbefore := ih fun q hq => hmids q (by simp [hq])
      rw [← List.cons_append, ← List.append_assoc, after_concat, hbefore]
      by_cases hall : ∀ q ∈ opening :: mids, ¬Ends L q.offset
      · rw [if_pos hall, fst_later_some h.found hq (Request.length_image _)]
        by_cases hends : Ends L q.offset
        · rw [if_pos hends, if_neg fun hnone => hnone q (by simp) hends]
        · rw [if_neg hends, if_pos]
          intro other hother
          rcases List.mem_append.mp hother with hother | hother
          · exact hall other hother
          · rwa [List.mem_singleton.mp hother]
      · rw [if_neg hall, fst_later_none h.found hq, if_neg]
        exact fun hnone => hall fun other hother => hnone other (List.mem_append_left _ hother)

theorem later_of_live {opening : Request L} {mids : List (Request L)} (h : Builds past opening)
    (hmids : ∀ q ∈ mids, q.offset ≠ 0) (hlive : ∀ q ∈ opening :: mids, ¬Ends L q.offset)
    (hlater : r.offset ≠ 0) (hin : r.offset < L.capacity) :
    (processImmediate (after (past ++ opening :: mids)) r).2 =
      .served (opening.chunk r.offset) := by
  rw [processImmediate_later h.found hlater, after_session h hmids, if_pos hlive,
    serve_snapshot (Request.length_image _) hin]
  rfl

theorem later_of_ended {opening : Request L} {mids : List (Request L)} (h : Builds past opening)
    (hmids : ∀ q ∈ mids, q.offset ≠ 0) (hended : ∃ q ∈ opening :: mids, Ends L q.offset)
    (hlater : r.offset ≠ 0) :
    processImmediate (after (past ++ opening :: mids)) r =
      serve none r r.offset (chunkLen L r.offset) := by
  have hnone : ¬∀ q ∈ opening :: mids, ¬Ends L q.offset := by
    obtain ⟨q, hq, hends⟩ := hended
    exact fun hlive => hlive q hq hends
  rw [processImmediate_later h.found hlater, after_session h hmids, if_neg hnone]

-- A request inside the image, later in the session of `opening`, is answered
-- from the snapshot while that lives, and from the flash as it is now after that.
theorem backup_point_in_time_iff (past : List (Request L)) (opening : Request L)
    (mids : List (Request L)) (r : Request L) (hopening : Builds past opening)
    (hmids : ∀ q ∈ mids, q.offset ≠ 0) (hlater : r.offset ≠ 0) (hin : r.offset < L.capacity) :
    (processImmediate (after (past ++ opening :: mids)) r).2 = .served (opening.chunk r.offset) ↔
      (∀ q ∈ opening :: mids, ¬Ends L q.offset) ∨
        (Readable r r.offset (chunkLen L r.offset) ∧ r.chunk r.offset = opening.chunk r.offset) := by
  by_cases hall : ∀ q ∈ opening :: mids, ¬Ends L q.offset
  · exact iff_of_true (later_of_live hopening hmids hall hlater hin) (.inl hall)
  · have hended : ∃ q ∈ opening :: mids, Ends L q.offset := by
      simpa only [not_forall, not_not, exists_prop] using hall
    rw [later_of_ended hopening hmids hended hlater, or_iff_right hall]
    by_cases hread : Readable r r.offset (chunkLen L r.offset)
    · rw [serve_direct hin hread, and_iff_right hread, Answer.served.injEq]
    · obtain ⟨left, hleft⟩ := serve_unread hin hread
      rw [hleft]
      exact iff_of_false (fun h => by cases h) fun h => hread h.1

-- The partition table of the firmware.
def partitions : Layout :=
  { nvsSize := 0x6000, zbSize := 16 * 1024, found := true, fits := by decide }

-- The request of a host at `offset`, on a network whose flash holds `byte`.
def pull (offset : Nat) (byte : UInt8) : Request partitions :=
  { inbuffer := Bytes.toLE 4 offset
    joined := true
    panId := 0x1A62
    nvs := Nor.erased _
    zb := { bytes := List.replicate _ byte, length_eq := List.length_replicate }
    outcomes :=
      { malloc := true, snapshotNvs := .done, snapshotZb := .done, chunkNvs := .done,
        chunkZb := .done } }

theorem builds_pull (byte : UInt8) : Builds [] (pull 0 byte) :=
  { found := rfl, offset := rfl, onNetwork := rfl, snapshot := Option.some_ne_none _ }

theorem backup_point_in_time_iff_rewritten :
    (processImmediate (after ([] ++ pull 0 0x11 :: [pull 40704 0x11])) (pull 40704 0x22)).2 =
        .served ((pull 0 0x11).chunk 40704) ↔
      (∀ q ∈ pull 0 0x11 :: [pull 40704 0x11], ¬Ends partitions q.offset) ∨
        (Readable (pull 40704 0x22) 40704 (chunkLen partitions 40704) ∧
          (pull 40704 0x22).chunk 40704 = (pull 0 0x11).chunk 40704) :=
  backup_point_in_time_iff [] (pull 0 0x11) [pull 40704 0x11] (pull 40704 0x22)
    (builds_pull 0x11) (by decide) (by decide) (by decide)

theorem chunk_pull (byte : UInt8) : (pull 0 byte).chunk 40832 = List.replicate 128 byte := by
  have hboundary : (pull 0 byte).nvs.bytes.length ≤ 40832 := by
    rw [(pull 0 byte).nvs.length_eq]
    decide
  rw [Request.chunk, Request.image, List.drop_append, List.drop_of_length_le hboundary,
    List.nil_append, (pull 0 byte).nvs.length_eq]
  exact (congrArg (List.take 128) List.drop_replicate).trans List.take_replicate

-- The host repeats its request for the last chunk after ZBOSS has rewritten the
-- flash.
theorem not_backup_point_in_time :
    ¬∀ (L : Layout) (past : List (Request L)) (opening : Request L) (mids : List (Request L))
      (r : Request L), Builds past opening → (∀ q ∈ mids, q.offset ≠ 0) → r.offset ≠ 0 →
      r.offset < L.capacity →
      (processImmediate (after (past ++ opening :: mids)) r).2 =
        .served (opening.chunk r.offset) := by
  intro hall
  have hsnapshot := hall partitions [] (pull 0 0x11) [pull 40832 0x11] (pull 40832 0x22)
    (builds_pull 0x11) (by decide) (by decide) (by decide)
  have hended : ∃ q ∈ [pull 0 0x11, pull 40832 0x11], Ends partitions q.offset :=
    ⟨pull 40832 0x11, by simp, by decide⟩
  rw [later_of_ended (builds_pull 0x11) (by decide) hended (by decide),
    serve_direct (by decide) ⟨fun _ => rfl, fun _ => rfl⟩] at hsnapshot
  have hchunks : (pull 0 0x22).chunk 40832 = (pull 0 0x11).chunk 40832 :=
    Answer.served.inj hsnapshot
  rw [chunk_pull, chunk_pull] at hchunks
  exact absurd (congrArg List.head? hchunks) (by decide)

end EspCoordinator.Backup.Snapshot
