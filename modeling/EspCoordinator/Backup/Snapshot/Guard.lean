import EspCoordinator.Backup.Snapshot.Theorems

-- The poison-backup guard
namespace EspCoordinator.Backup.Snapshot

open Restore (Layout)

variable {L : Layout} {s : State} {r : Request L} {past : List (Request L)}

-- The last request at offset 0 was accepted by the guard.
def granted (past : List (Request L)) : Bool :=
  past.foldl (fun granted r => if r.offset = 0 then L.found && r.onNetwork else granted) false

theorem granted_concat (past : List (Request L)) (r : Request L) :
    granted (past ++ [r]) = if r.offset = 0 then L.found && r.onNetwork else granted past := by
  rw [granted, List.foldl_concat]
  rfl

-- Bytes of the image only go out in a session that the guard has accepted.
def Guarded (past : List (Request L)) (r : Request L) : Prop :=
  ∀ chunk, (processImmediate (after past) r).2 = .served chunk → chunk ≠ [] →
    granted (past ++ [r]) = true

-- A request inside the image that does not start a session, although none has
-- been accepted, and its direct reads succeed.
structure Bypasses (past : List (Request L)) (r : Request L) : Prop where
  found : L.found = true
  later : r.offset ≠ 0
  inside : r.offset < L.capacity
  readable : Readable r r.offset (chunkLen L r.offset)
  ungranted : granted past = false

theorem processImmediate_missing (hfound : L.found = false) :
    processImmediate s r = (s, .refused) := by
  rw [processImmediate, hfound]
  rfl

theorem processImmediate_offNetwork (hfound : L.found = true) (hzero : r.offset = 0)
    (hoff : r.onNetwork = false) : processImmediate s r = (none, .refused) := by
  rw [processImmediate, hfound, if_neg (by decide), if_pos hzero, hoff]
  rfl

-- There is a snapshot only in a session that the guard has accepted.
theorem granted_of_live : ∀ past : List (Request L),
    after past ≠ none → L.found = true ∧ granted past = true := by
  refine Run.foldl_history _ _ (fun past s => s ≠ none → L.found = true ∧ granted past = true)
    (fun hnone => absurd rfl hnone) ?_
  intro past s r ih hlive
  cases hfound : L.found with
  | false =>
      rw [processImmediate_missing hfound] at hlive
      exact absurd (ih hlive).1 (by rw [hfound]; decide)
  | true =>
      refine ⟨rfl, ?_⟩
      rw [granted_concat, hfound, Bool.true_and]
      by_cases hzero : r.offset = 0
      · rw [if_pos hzero]
        cases hon : r.onNetwork with
        | true => rfl
        | false =>
            rw [processImmediate_offNetwork hfound hzero hon] at hlive
            exact absurd rfl hlive
      · rw [if_neg hzero]
        refine (ih fun hnone => ?_).2
        rw [hnone] at hlive
        exact hlive (fst_later_none hfound hzero)

-- What goes out past the guard, at the start of a session and later.
theorem guarded_of_start (hzero : r.offset = 0) : Guarded past r := by
  intro chunk hserved hchunk
  rw [granted_concat, if_pos hzero]
  cases hfound : L.found with
  | false =>
      rw [processImmediate_missing hfound] at hserved
      cases hserved
  | true =>
      cases hon : r.onNetwork with
      | true => rfl
      | false =>
          rw [processImmediate_offNetwork hfound hzero hon] at hserved
          cases hserved

theorem guarded_of_granted (hlater : r.offset ≠ 0) (h : granted past = true) :
    Guarded past r := by
  intro chunk _ _
  rwa [granted_concat, if_neg hlater]

theorem snapshot_of_ungranted (h : granted past = false) : after past = none := by
  by_contra hlive
  exact absurd (granted_of_live past hlive).2 (by rw [h]; decide)

theorem Bypasses.served (h : Bypasses past r) :
    (processImmediate (after past) r).2 = .served (r.chunk r.offset) := by
  rw [snapshot_of_ungranted h.ungranted, processImmediate_later h.found h.later,
    serve_direct h.inside h.readable]

theorem Bypasses.chunk_ne_nil (h : Bypasses past r) : r.chunk r.offset ≠ [] := by
  have hlen := (chunkLen_le h.inside).1
  rw [← r.length_chunk h.inside] at hlen
  exact List.ne_nil_of_length_pos hlen

theorem Bypasses.escapes (h : Bypasses past r) : ¬Guarded past r := by
  intro hguarded
  have hgranted := hguarded _ h.served h.chunk_ne_nil
  rw [granted_concat, if_neg h.later, h.ungranted] at hgranted
  exact absurd hgranted (by decide)

-- Without a snapshot only a direct read gives bytes.
theorem bypasses_of_not_guarded (h : ¬Guarded past r) : Bypasses past r := by
  have hlater : r.offset ≠ 0 := fun hzero => h (guarded_of_start hzero)
  have hungranted : granted past = false := by
    by_contra hgranted
    exact h (guarded_of_granted hlater (by simpa using hgranted))
  have hstate := snapshot_of_ungranted hungranted
  have hfound : L.found = true := by
    by_contra hmissing
    refine h fun chunk hserved _ => ?_
    rw [processImmediate_missing (by simpa using hmissing)] at hserved
    cases hserved
  have hinside : r.offset < L.capacity := by
    by_contra hout
    refine h fun chunk hserved hchunk => ?_
    rw [hstate, processImmediate_later hfound hlater, serve_out (by omega)] at hserved
    exact absurd (Answer.served.inj hserved).symm hchunk
  have hread : Readable r r.offset (chunkLen L r.offset) := by
    by_contra hunread
    refine h fun chunk hserved _ => ?_
    obtain ⟨left, hleft⟩ := serve_unread hinside hunread
    rw [hstate, processImmediate_later hfound hlater, hleft] at hserved
    cases hserved
  exact ⟨hfound, hlater, hinside, hread, hungranted⟩

-- The guard holds for each request of each run, those that bypass it apart.
theorem guarded_iff (past : List (Request L)) (r : Request L) :
    Guarded past r ↔ ¬Bypasses past r :=
  ⟨fun hguarded h => h.escapes hguarded, fun h => by
    by_contra hnot
    exact h (bypasses_of_not_guarded hnot)⟩

-- The first request since the boot, at the second chunk and off the network.
theorem not_guarded :
    ¬∀ (L : Layout) (past : List (Request L)) (r : Request L), Guarded past r := by
  intro hall
  let blank := { pull 128 0xff with joined := false, panId := 0xFFFF }
  have hbypasses : Bypasses [] blank :=
    { found := rfl
      later := by decide
      inside := by decide
      readable := ⟨fun _ => rfl, fun _ => rfl⟩
      ungranted := rfl }
  exact hbypasses.escapes (hall partitions [] blank)

end EspCoordinator.Backup.Snapshot
