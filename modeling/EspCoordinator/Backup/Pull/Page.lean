import EspCoordinator.Backup.Pull.Theorems

namespace EspCoordinator.Backup.Pull

open Bytes
open Restore (field)
open Snapshot (State)
open Web (getUint)

variable {c : Coordinator} {s : State} {chunks : List (List UInt8)} {position fuel : Nat}
  {rounds : Nat → Snapshot.Outcomes}

theorem getUint_toLE {bytes : List UInt8} (front : List UInt8) (value : UInt32)
    (back : List UInt8) (h : bytes = front ++ toLE 4 value.toNat ++ back) :
    getUint bytes front.length 4 = .ok value.toNat := by
  have hfield : field bytes front.length 4 = ofLE (toLE 4 value.toNat) := by
    rw [field, h, List.append_assoc, List.drop_left, List.take_left' (length_toLE 4 _)]
  have hlen : front.length + 4 ≤ bytes.length := by
    rw [h, List.length_append, List.length_append, length_toLE]
    omega
  rw [getUint, if_pos hlen, hfield, ofLE_toLE _ _ value.toNat_lt]

theorem getUint_totalSize (response : Response) :
    getUint response.bytes 2 4 = .ok response.totalSize.toNat :=
  getUint_toLE [STATUS_CATEGORY_GENERIC, response.status] response.totalSize _
    (List.append_assoc _ _ _)

theorem getUint_len (response : Response) :
    getUint response.bytes 6 4 = .ok response.len.toNat :=
  getUint_toLE ([STATUS_CATEGORY_GENERIC, response.status] ++ toLE 4 response.totalSize.toNat)
    response.len response.chunk rfl

theorem offset_toLE (h : position < 2 ^ 32) (outcomes : Snapshot.Outcomes) :
    (Request.offset { inbuffer := toLE 4 position, outcomes }).toNat = position := by
  have hfield : field (toLE 4 position) 0 4 = position := ofLE_toLE 4 position h
  rw [Request.offset, if_pos (length_toLE 4 position).ge, hfield]
  exact UInt32.toNat_ofNat_of_lt' h

-- One round of the loop, when its request is answered.
theorem pull_succ (fuel : Nat) (chunks : List (List UInt8))
    (h : (processImmediate c s { inbuffer := toLE 4 position, outcomes := rounds 0 }).response =
      answer c.flash position) :
    pull c (fuel + 1) rounds s position chunks =
      if c.flash.chunkAt position ≠ [] then
        if position + (c.flash.chunkAt position).length < c.flash.image.length then
          pull c fuel (fun index => rounds (index + 1))
            (processImmediate c s { inbuffer := toLE 4 position, outcomes := rounds 0 }).state
            (position + (c.flash.chunkAt position).length) (chunks ++ [c.flash.chunkAt position])
        else some (.ok { totalSize := c.flash.image.length,
                         chunks := chunks ++ [c.flash.chunkAt position] })
      else some (.ok { totalSize := c.flash.image.length, chunks }) := by
  have hfits := c.flash.length_image_lt
  have hchunk := c.flash.length_chunkAt position
  have htotal : (answer c.flash position).totalSize.toNat = c.flash.image.length :=
    UInt32.toNat_ofNat_of_lt' (Nat.lt_of_le_of_lt (Nat.le_add_right _ 128) hfits)
  have hlen : (answer c.flash position).len.toNat = (c.flash.chunkAt position).length :=
    UInt32.toNat_ofNat_of_lt' (Nat.lt_of_le_of_lt (by omega) hfits)
  have hstatus : (answer c.flash position).bytes[1]? = some 0 := rfl
  have hbytes : ((answer c.flash position).bytes.drop 10).take
      (c.flash.chunkAt position).length = c.flash.chunkAt position := List.take_length
  rw [pull]
  simp only [h, hstatus, getUint_totalSize, getUint_len, htotal, hlen, hbytes]
  simp only [ne_eq, not_true_eq_false, if_false, gt_iff_lt, List.length_pos_iff]

-- The chunks so far are the image up to the offset, which a round advances.
theorem pull_image (hc : c.OnNetwork) (hread : ∀ index, ChunkRead (rounds index))
    (hs : position ≠ 0 → Current c.flash s)
    (hchunks : chunks.flatten = c.flash.image.take position)
    (hin : position ≤ c.flash.image.length)
    (hfuel : (c.flash.image.length - position) / 128 < fuel) :
    ∃ whole, pull c fuel rounds s position chunks =
        some (.ok { totalSize := c.flash.image.length, chunks := whole }) ∧
      whole.flatten = c.flash.image := by
  induction fuel generalizing position chunks s rounds with
  | zero => omega
  | succ fuel ih =>
      have hlt : position < 2 ^ 32 := by
        have hfits := c.flash.length_image_lt
        omega
      have hoffset := offset_toLE hlt (rounds 0)
      have hcurrent : Request.offset { inbuffer := toLE 4 position, outcomes := rounds 0 } ≠ 0 →
          Current c.flash s := by
        intro hlater
        exact hs fun hzero => hlater (UInt32.toNat.inj (hoffset.trans hzero))
      have hresponse := response_processImmediate hc hcurrent (hread 0)
      rw [hoffset] at hresponse
      have hlen := c.flash.length_chunkAt position
      have hnext : (chunks ++ [c.flash.chunkAt position]).flatten =
          c.flash.image.take (position + (c.flash.chunkAt position).length) := by
        rw [List.flatten_append, List.flatten_singleton, hchunks, List.take_add]
        congr 1
        exact List.prefix_iff_eq_take.mp (List.take_prefix 128 _)
      rw [pull_succ fuel chunks hresponse]
      by_cases hmore : c.flash.chunkAt position ≠ []
      · have hpos := List.length_pos_iff.mpr hmore
        rw [if_pos hmore]
        by_cases hless : position + (c.flash.chunkAt position).length < c.flash.image.length
        · rw [if_pos hless]
          exact ih (fun index => hread (index + 1))
            (fun _ => current_processImmediate hc hcurrent) hnext (by omega) (by omega)
        · rw [if_neg hless]
          exact ⟨_, rfl, hnext.trans (List.take_of_length_le (by omega))⟩
      · have hempty : (c.flash.chunkAt position).length = 0 := by
          rw [not_not.mp hmore, List.length_nil]
        rw [if_neg hmore]
        exact ⟨_, rfl, hchunks.trans (List.take_of_length_le (by omega))⟩

-- Setting the chunks one behind the other writes all of them at once.
theorem setAll_eq (raw : List UInt8) (ptr : Nat) (chunks : List (List UInt8))
    (h : ptr + chunks.flatten.length ≤ raw.length) :
    setAll raw ptr chunks =
      .ok (raw.take ptr ++ chunks.flatten ++ raw.drop (ptr + chunks.flatten.length)) := by
  induction chunks generalizing raw ptr with
  | nil => simp [setAll]
  | cons chunk rest ih =>
      rw [List.flatten_cons, List.length_append] at h
      have hset : set raw chunk ptr =
          .ok (raw.take ptr ++ chunk ++ raw.drop (ptr + chunk.length)) := if_pos (by omega)
      have hfront : (raw.take ptr ++ chunk).length = ptr + chunk.length := by
        rw [List.length_append, List.length_take]
        omega
      have hwhole : ptr + chunk.length + rest.flatten.length ≤
          (raw.take ptr ++ chunk ++ raw.drop (ptr + chunk.length)).length := by
        rw [List.length_append, hfront, List.length_drop]
        omega
      have hbehind : ptr + chunk.length +
          (ptr + chunk.length + rest.flatten.length - (ptr + chunk.length)) =
          ptr + (chunk.length + rest.flatten.length) := by
        omega
      simp only [setAll, hset]
      rw [ih _ _ hwhole, List.take_left' hfront, List.drop_append, hfront,
        List.drop_of_length_le (by omega), List.drop_drop, hbehind, List.flatten_cons,
        List.length_append]
      simp only [List.nil_append, List.append_assoc]

theorem raw_of_flatten (pulled : Pulled)
    (h : pulled.chunks.flatten.length = pulled.totalSize) :
    pulled.raw = .ok pulled.chunks.flatten := by
  have hlen : (List.replicate pulled.totalSize (0 : UInt8)).length = pulled.totalSize :=
    List.length_replicate
  rw [Pulled.raw, setAll_eq _ _ _ (by omega), List.take_zero, List.nil_append,
    List.drop_of_length_le (by omega), List.append_nil]

-- A chunk of the session is the same from the copy and from the partitions, no
-- read is outside, and the page gets the two partitions.
theorem snapshot_agrees_with_reads (c : Coordinator) (hc : c.OnNetwork) :
    (∀ (s : State) (session : List Request) (r : Request), Opens (session ++ [r]) →
      ChunkRead r.outcomes →
      let response := (processImmediate c (after c s session) r).response
      response = (serve c.flash none r.offset r.outcomes).response ∧
        response = answer c.flash r.offset.toNat) ∧
    (∀ (s : State) (r : Request), ∀ read ∈ (processImmediate c s r).reads,
      read.Inside c.flash) ∧
    ∀ (s : State) (rounds : Nat → Snapshot.Outcomes), (∀ index, ChunkRead (rounds index)) →
      ∀ fuel > c.flash.image.length / 128,
        doBackup c fuel rounds s = some (.ok (c.flash.nvs ++ c.flash.zb)) := by
  refine ⟨?_, fun s r read => reads_processImmediate, ?_⟩
  · intro s session r hopens hread
    have hresponse := response_session (s := s) hc hopens hread
    exact ⟨hresponse.trans (response_serve current_none hread).symm, hresponse⟩
  · intro s rounds hread fuel hfuel
    obtain ⟨whole, hpull, hwhole⟩ : ∃ whole, pull c fuel rounds s 0 [] =
        some (.ok { totalSize := c.flash.image.length, chunks := whole }) ∧
          whole.flatten = c.flash.image :=
      pull_image hc hread (fun hne => absurd rfl hne) rfl (Nat.zero_le _) hfuel
    have hraw := raw_of_flatten { totalSize := c.flash.image.length, chunks := whole }
      (congrArg List.length hwhole)
    rw [doBackup, hpull, Option.map_some, Except.bind, hraw, hwhole]
    rfl

-- The partitions of the firmware.
def coordinator : Coordinator :=
  { flash :=
      { nvs := List.replicate 0x6000 0xff
        zb := List.replicate (16 * 1024) 0xff
        fits := by rw [List.length_replicate, List.length_replicate]; decide }
    found := true
    joined := true
    panId := 0x1A62 }

theorem snapshot_agrees_with_reads_partitions :
    (∀ (s : State) (session : List Request) (r : Request), Opens (session ++ [r]) →
      ChunkRead r.outcomes →
      let response := (processImmediate coordinator (after coordinator s session) r).response
      response = (serve coordinator.flash none r.offset r.outcomes).response ∧
        response = answer coordinator.flash r.offset.toNat) ∧
    (∀ (s : State) (r : Request), ∀ read ∈ (processImmediate coordinator s r).reads,
      read.Inside coordinator.flash) ∧
    ∀ (s : State) (rounds : Nat → Snapshot.Outcomes), (∀ index, ChunkRead (rounds index)) →
      ∀ fuel > coordinator.flash.image.length / 128,
        doBackup coordinator fuel rounds s =
          some (.ok (coordinator.flash.nvs ++ coordinator.flash.zb)) :=
  snapshot_agrees_with_reads coordinator { found := rfl, joined := rfl, panId := by decide }

end EspCoordinator.Backup.Pull
