import EspCoordinator.Resolver
import Mathlib.Data.List.Induction

namespace EspCoordinator.Resolver

variable {Arg : Type} {r next : Resolver Arg}

@[simp] theorem set_storage (idx : Slot) (req : Request Arg) :
    (r.set idx req).storage = Function.update r.storage idx req := rfl

@[simp] theorem free_storage (idx : Slot) :
    (r.free idx).storage = Function.update r.storage idx { r.storage idx with state := .none } :=
  rfl

@[simp] theorem claim_storage (idx : Slot) (cmd : Cmd) :
    (r.claim idx cmd).storage = Function.update r.storage idx
      { r.storage idx with cmd, old := r.oldCntr, state := .allocation } := rfl

@[simp] theorem claim_oldCntr (idx : Slot) (cmd : Cmd) :
    (r.claim idx cmd).oldCntr = r.oldCntr + 1 := rfl

@[simp] theorem init_state (zero : Arg) (idx : Slot) :
    ((init zero).storage idx).state = .none := rfl

-- The slot is chosen because every slot is busy and no other S_EXEC slot has
-- a smaller allocation counter.
structure Oldest (r : Resolver Arg) (idx : Slot) : Prop where
  full : ∀ other, (r.storage other).state ≠ .none
  exec : (r.storage idx).state = .exec
  least : ∀ other, (r.storage other).state = .exec →
    (r.storage idx).old ≤ (r.storage other).old

theorem firstFree_eq_some {idx : Slot} (h : r.firstFree = some idx) :
    (r.storage idx).state = .none := by
  simpa using List.find?_some h

theorem firstFree_eq_none (h : r.firstFree = none) (idx : Slot) :
    (r.storage idx).state ≠ .none := by
  simpa using List.find?_eq_none.mp h idx (List.mem_finRange idx)

-- What the scan has found is among the slots it has passed, and no S_EXEC slot
-- it has passed is older.
private theorem foldl_olderOf (slots : List Slot) :
    (∀ idx, (slots.foldl r.olderOf (SIZE_MAX, none)).2 = some idx →
      (r.storage idx).state = .exec ∧
        (r.storage idx).old = (slots.foldl r.olderOf (SIZE_MAX, none)).1) ∧
    ∀ other ∈ slots, (r.storage other).state = .exec →
      (slots.foldl r.olderOf (SIZE_MAX, none)).1 ≤ (r.storage other).old := by
  induction slots using List.reverseRecOn with
  | nil => simp
  | append_singleton slots last ih =>
      obtain ⟨hfound, hleast⟩ := ih
      simp only [List.foldl_append, List.foldl_cons, List.foldl_nil]
      generalize slots.foldl r.olderOf (SIZE_MAX, none) = found at hfound hleast ⊢
      unfold olderOf
      by_cases h : (r.storage last).state = .exec ∧ (r.storage last).old < found.1
      · rw [if_pos h]
        refine ⟨?_, ?_⟩
        · rintro idx hidx
          cases hidx
          exact ⟨h.1, rfl⟩
        · intro other hother hexec
          rcases List.mem_append.mp hother with hother | hother
          · exact UInt32.le_trans (UInt32.le_of_lt h.2) (hleast other hother hexec)
          · obtain rfl := List.mem_singleton.mp hother
            exact UInt32.le_refl _
      · rw [if_neg h]
        refine ⟨hfound, ?_⟩
        intro other hother hexec
        rcases List.mem_append.mp hother with hother | hother
        · exact hleast other hother hexec
        · obtain rfl := List.mem_singleton.mp hother
          exact UInt32.not_lt.mp fun hlt => h ⟨hexec, hlt⟩

theorem oldestExec_eq_some {idx : Slot} (h : r.oldestExec = some idx) :
    (r.storage idx).state = .exec ∧
      ∀ other, (r.storage other).state = .exec → (r.storage idx).old ≤ (r.storage other).old := by
  obtain ⟨hfound, hleast⟩ := r.foldl_olderOf (List.finRange MAX_PARALLEL_REQUESTS)
  obtain ⟨hexec, hold⟩ := hfound idx h
  exact ⟨hexec, fun other ho => hold ▸ hleast other (List.mem_finRange other) ho⟩

theorem startResolve_eq_some {cmd : Cmd} {idx : Slot}
    (h : r.startResolve cmd = some (idx, next)) :
    next = r.claim idx cmd ∧ ((r.storage idx).state = .none ∨ r.Oldest idx) := by
  unfold startResolve at h
  split at h
  next first hfree =>
    obtain ⟨rfl, rfl⟩ := Prod.mk.inj (Option.some.inj h)
    exact ⟨rfl, .inl (firstFree_eq_some hfree)⟩
  next hfree =>
    obtain ⟨oldest, hoct, heq⟩ := Option.map_eq_some_iff.mp h
    obtain ⟨rfl, rfl⟩ := Prod.mk.inj heq
    obtain ⟨hexec, hleast⟩ := oldestExec_eq_some hoct
    exact ⟨rfl, .inr ⟨firstFree_eq_none hfree, hexec, hleast⟩⟩

-- A slot that is still being allocated is never handed out again.
theorem startResolve_ne_allocation {cmd : Cmd} {idx : Slot}
    (h : r.startResolve cmd = some (idx, next)) : (r.storage idx).state ≠ .allocation := by
  rcases (startResolve_eq_some h).2 with hnone | holdest
  · simp [hnone]
  · simp [holdest.exec]

theorem resolveTake_eq_some {tsn : UInt8} {idx : Slot} {out : Request Arg}
    (h : r.resolveTake tsn = some (idx, out, next)) :
    (r.storage idx).state = .exec ∧ (r.storage idx).tsn = tsn ∧ out = r.storage idx ∧
      next = r.free idx := by
  obtain ⟨hit, hfind, heq⟩ := Option.map_eq_some_iff.mp h
  simp only [Prod.mk.injEq] at heq
  obtain ⟨rfl, rfl, rfl⟩ := heq
  have hmatch := List.find?_some hfind
  simp only [decide_eq_true_eq] at hmatch
  exact ⟨hmatch.1, hmatch.2, rfl, rfl⟩

theorem resolveTake_eq_none {tsn : UInt8} (h : r.resolveTake tsn = none) (idx : Slot)
    (hexec : (r.storage idx).state = .exec) : (r.storage idx).tsn ≠ tsn := by
  have hfind := Option.map_eq_none_iff.mp h
  have := List.find?_eq_none.mp hfind idx (List.mem_finRange idx)
  simp only [decide_eq_true_eq, not_and] at this
  exact this hexec

theorem resolveTakeAt_eq_some {number : UInt16} {old : UInt32} {idx : Slot} {out : Request Arg}
    (h : r.resolveTakeAt number old = some (idx, out, next)) :
    (idx : Nat) = number.toNat ∧ (r.storage idx).state = .exec ∧ (r.storage idx).old = old ∧
      out = r.storage idx ∧ next = r.free idx := by
  unfold resolveTakeAt at h
  split at h
  next hlt =>
    simp only at h
    split at h
    · cases h
    next hmatch =>
      simp only [Option.some.injEq, Prod.mk.injEq] at h
      obtain ⟨rfl, rfl, rfl⟩ := h
      simp only [not_or, Decidable.not_not] at hmatch
      exact ⟨rfl, hmatch.1, hmatch.2, rfl, rfl⟩
  next => cases h

-- With fewer than 2 ^ 32 allocations the counter still is their number, and no
-- two busy slots carry the same value of it.
structure Counted (r : Resolver Arg) (allocations : Nat) : Prop where
  cntr : r.oldCntr.toNat = allocations
  old_lt : ∀ idx, (r.storage idx).state ≠ .none → (r.storage idx).old.toNat < allocations
  old_inj : ∀ first second, (r.storage first).state ≠ .none →
    (r.storage second).state ≠ .none → (r.storage first).old = (r.storage second).old →
    first = second

theorem counted_init (zero : Arg) : (init zero).Counted 0 := by
  constructor <;> simp [init]

-- Busy slots stay what they were, or become free.
theorem Counted.of_busy {allocations : Nat} (h : r.Counted allocations)
    (hcntr : next.oldCntr = r.oldCntr)
    (hbusy : ∀ idx, (next.storage idx).state ≠ .none →
      (r.storage idx).state ≠ .none ∧ (next.storage idx).old = (r.storage idx).old) :
    next.Counted allocations := by
  constructor
  · rw [hcntr, h.cntr]
  · intro idx hidx
    obtain ⟨hr, hold⟩ := hbusy idx hidx
    exact hold ▸ h.old_lt idx hr
  · intro first second hf hs heq
    obtain ⟨hf, hfold⟩ := hbusy first hf
    obtain ⟨hs, hsold⟩ := hbusy second hs
    exact h.old_inj first second hf hs (by rw [← hfold, ← hsold, heq])

theorem Counted.set {allocations : Nat} (h : r.Counted allocations) {idx : Slot}
    {req : Request Arg} (hold : req.old = (r.storage idx).old)
    (hstate : req.state ≠ .none → (r.storage idx).state ≠ .none) :
    (r.set idx req).Counted allocations := by
  refine h.of_busy rfl fun other hother => ?_
  by_cases ho : other = idx
  · subst ho
    rw [set_storage, Function.update_self] at hother ⊢
    exact ⟨hstate hother, hold⟩
  · rw [set_storage, Function.update_of_ne ho] at hother ⊢
    exact ⟨hother, rfl⟩

theorem Counted.free {allocations : Nat} (h : r.Counted allocations) (idx : Slot) :
    (r.free idx).Counted allocations :=
  h.set rfl fun hne => absurd rfl hne

theorem Counted.claim {allocations : Nat} (h : r.Counted allocations)
    (hlt : allocations + 1 < 2 ^ 32) (idx : Slot) (cmd : Cmd) :
    (r.claim idx cmd).Counted (allocations + 1) := by
  have hother : ∀ other, other ≠ idx → (r.claim idx cmd).storage other = r.storage other :=
    fun other ho => Function.update_of_ne ho ..
  have hnew : ∀ other, other ≠ idx → ((r.claim idx cmd).storage other).state ≠ .none →
      ((r.claim idx cmd).storage other).old ≠ r.oldCntr := by
    intro other ho hbusy heq
    rw [hother other ho] at hbusy heq
    have := h.old_lt other hbusy
    rw [heq, h.cntr] at this
    omega
  have hself : ((r.claim idx cmd).storage idx).old = r.oldCntr := by simp
  constructor
  · rw [claim_oldCntr, UInt32.toNat_add, h.cntr]
    simp only [UInt32.toNat_one]
    omega
  · intro other hbusy
    by_cases ho : other = idx
    · subst ho
      rw [hself, h.cntr]
      omega
    · rw [hother other ho] at hbusy ⊢
      exact Nat.lt_succ_of_lt (h.old_lt other hbusy)
  · intro first second hf hs heq
    by_cases h₁ : first = idx <;> by_cases h₂ : second = idx
    · rw [h₁, h₂]
    · subst h₁
      exact absurd (heq.symm.trans hself) (hnew second h₂ hs)
    · subst h₂
      exact absurd (heq.trans hself) (hnew first h₁ hf)
    · rw [hother first h₁] at hf heq
      rw [hother second h₂] at hs heq
      exact h.old_inj first second hf hs heq

theorem reclaimStale_storage (now timeout : UInt32) (cap : Nat) (idx : Slot) :
    (r.reclaimStale now timeout cap).2.storage idx =
      if r.stale now timeout idx then { r.storage idx with state := .none } else r.storage idx :=
  rfl

-- A slot that is still in use has not been touched.
theorem reclaimStale_busy {now timeout : UInt32} {cap : Nat} {idx : Slot}
    (hbusy : ((r.reclaimStale now timeout cap).2.storage idx).state ≠ .none) :
    (r.reclaimStale now timeout cap).2.storage idx = r.storage idx := by
  rw [reclaimStale_storage] at hbusy ⊢
  split at hbusy
  · exact absurd rfl hbusy
  next hstale => exact if_neg hstale

theorem stale_exec {now timeout : UInt32} {idx : Slot} (h : r.stale now timeout idx = true) :
    (r.storage idx).state = .exec := by
  simp only [stale, decide_eq_true_eq] at h
  exact h.1

theorem Counted.reclaimStale {allocations : Nat} (h : r.Counted allocations)
    (now timeout : UInt32) (cap : Nat) :
    (r.reclaimStale now timeout cap).2.Counted allocations := by
  refine h.of_busy rfl fun idx hidx => ?_
  have hsame := reclaimStale_busy hidx
  rw [hsame] at hidx ⊢
  exact ⟨hidx, rfl⟩

end EspCoordinator.Resolver
