import Mathlib.Data.List.Nodup
import Mathlib.Logic.Function.Basic

namespace EspCoordinator.Lease

variable {ι : Type*}

-- Clients are numbered as they come. Each is answered at once or gets a place,
-- which it leaves with its answer or because the place is taken from it.
@[ext] structure Book (ι : Type*) where
  next : Nat
  holder : ι → Option Nat
  answered : List Nat

def empty : Book ι := { next := 0, holder := fun _ => none, answered := [] }

inductive Action (ι : Type*) where
  | refuse
  | lease (place : ι)
  | answer (place : ι)
  | evict (gone : ι → Bool)

-- The action takes the client's place without an answer.
def Evicts (b : Book ι) (client : Nat) : Action ι → Prop
  | .lease place => b.holder place = some client
  | .evict gone => ∃ place, gone place = true ∧ b.holder place = some client
  | _ => False

structure Consistent (b : Book ι) : Prop where
  held_lt : ∀ place client, b.holder place = some client → client < b.next
  held_once : ∀ first second client, b.holder first = some client →
    b.holder second = some client → first = second
  answered_lt : ∀ client ∈ b.answered, client < b.next
  held_unanswered : ∀ place client, b.holder place = some client → client ∉ b.answered
  answered_once : b.answered.Nodup

theorem consistent_empty : Consistent (empty : Book ι) := by
  constructor <;> simp [empty]

theorem Consistent.refuse {b : Book ι} (h : Consistent b) :
    Consistent { b with next := b.next + 1, answered := b.answered ++ [b.next] } := by
  have hfresh : b.next ∉ b.answered := fun hn => (Nat.lt_irrefl _ (h.answered_lt _ hn))
  constructor
  · intro place client hheld
    have := h.held_lt place client hheld
    simp only
    omega
  · exact h.held_once
  · intro client hc
    rcases List.mem_append.mp hc with hc | hc
    · have := h.answered_lt client hc
      simp only
      omega
    · obtain rfl := List.mem_singleton.mp hc
      exact Nat.lt_succ_self _
  · intro place client hheld hc
    rcases List.mem_append.mp hc with hc | hc
    · exact h.held_unanswered place client hheld hc
    · obtain rfl := List.mem_singleton.mp hc
      exact Nat.lt_irrefl _ (h.held_lt place _ hheld)
  · exact List.Nodup.append h.answered_once (List.nodup_singleton _) (by simpa using hfresh)

-- Places that lose their holder need no new fact about the others.
theorem Consistent.shrink {b : Book ι} (h : Consistent b) {holder : ι → Option Nat}
    (hsub : ∀ place client, holder place = some client → b.holder place = some client) :
    Consistent { b with holder } := by
  constructor
  · exact fun place client hheld => h.held_lt place client (hsub place client hheld)
  · exact fun first second client hf hs =>
      h.held_once first second client (hsub first client hf) (hsub second client hs)
  · exact h.answered_lt
  · exact fun place client hheld => h.held_unanswered place client (hsub place client hheld)
  · exact h.answered_once

variable [DecidableEq ι]

def apply (b : Book ι) : Action ι → Option (Book ι)
  | .refuse => some { b with next := b.next + 1, answered := b.answered ++ [b.next] }
  | .lease place =>
      some { b with next := b.next + 1, holder := Function.update b.holder place (some b.next) }
  | .answer place =>
      (b.holder place).map fun client =>
        { b with holder := Function.update b.holder place none,
                 answered := b.answered ++ [client] }
  | .evict gone =>
      some { b with holder := fun place => if gone place then none else b.holder place }

theorem Consistent.lease {b : Book ι} (h : Consistent b) (place : ι) :
    Consistent { b with next := b.next + 1,
                        holder := Function.update b.holder place (some b.next) } := by
  have hfresh : ∀ other, b.holder other ≠ some b.next :=
    fun other hheld => Nat.lt_irrefl _ (h.held_lt other _ hheld)
  constructor
  · intro other client hheld
    simp only [Function.update_apply] at hheld
    split at hheld
    · cases hheld
      exact Nat.lt_succ_self _
    · exact Nat.lt_succ_of_lt (h.held_lt other client hheld)
  · intro first second client hf hs
    simp only [Function.update_apply] at hf hs
    split at hf <;> split at hs
    · simp_all
    · rw [← hf] at hs
      exact absurd hs (hfresh second)
    · rw [← hs] at hf
      exact absurd hf (hfresh first)
    · exact h.held_once first second client hf hs
  · intro client hc
    exact Nat.lt_succ_of_lt (h.answered_lt client hc)
  · intro other client hheld hc
    simp only [Function.update_apply] at hheld
    split at hheld
    · cases hheld
      exact Nat.lt_irrefl _ (h.answered_lt _ hc)
    · exact h.held_unanswered other client hheld hc
  · exact h.answered_once

theorem update_none_sub {holder : ι → Option Nat} {place other : ι} {client : Nat}
    (h : Function.update holder place none other = some client) :
    other ≠ place ∧ holder other = some client := by
  by_cases ho : other = place
  · subst ho
    simp at h
  · rw [Function.update_of_ne ho] at h
    exact ⟨ho, h⟩

theorem Consistent.answer {b : Book ι} (h : Consistent b) {place : ι} {client : Nat}
    (hheld : b.holder place = some client) :
    Consistent { b with holder := Function.update b.holder place none,
                        answered := b.answered ++ [client] } := by
  have hsub : ∀ other c, Function.update b.holder place none other = some c →
      b.holder other = some c := fun other c hc => (update_none_sub hc).2
  have hs := h.shrink hsub
  constructor
  · exact hs.held_lt
  · exact hs.held_once
  · intro c hc
    rcases List.mem_append.mp hc with hc | hc
    · exact h.answered_lt c hc
    · obtain rfl := List.mem_singleton.mp hc
      exact h.held_lt place _ hheld
  · intro other c hother hc
    obtain ⟨hne, hbefore⟩ : other ≠ place ∧ b.holder other = some c := update_none_sub hother
    rcases List.mem_append.mp hc with hc | hc
    · exact h.held_unanswered other c hbefore hc
    · obtain rfl := List.mem_singleton.mp hc
      exact hne (h.held_once other place c hbefore hheld)
  · exact List.Nodup.append h.answered_once (List.nodup_singleton _)
      (by simpa using h.held_unanswered place client hheld)

theorem Consistent.apply {b next : Book ι} (h : Consistent b) {action : Action ι}
    (happly : apply b action = some next) : Consistent next := by
  cases action with
  | refuse =>
      cases happly
      exact h.refuse
  | lease place =>
      cases happly
      exact h.lease place
  | answer place =>
      obtain ⟨client, hheld, rfl⟩ := Option.map_eq_some_iff.mp happly
      exact h.answer hheld
  | evict gone =>
      cases happly
      apply h.shrink
      intro place client hheld
      by_cases hg : gone place = true
      · simp [hg] at hheld
      · simpa [hg] using hheld

theorem next_le_apply {b next : Book ι} {action : Action ι} (happly : apply b action = some next) :
    b.next ≤ next.next := by
  cases action with
  | answer place =>
      obtain ⟨client, -, rfl⟩ := Option.map_eq_some_iff.mp happly
      exact Nat.le_refl _
  | _ =>
      cases happly
      simp

def Accounted (b : Book ι) (client : Nat) : Prop :=
  client ∈ b.answered ∨ ∃ place, b.holder place = some client

-- A client can drop out of the book only by being evicted, now or at the time
-- that `lost` tells of.
theorem Accounted.apply {b next : Book ι} {action : Action ι}
    (happly : apply b action = some next) {client : Nat} (hlt : client < next.next) {lost : Prop}
    (h : client < b.next → Accounted b client ∨ lost) :
    Accounted next client ∨ Evicts b client action ∨ lost := by
  cases action with
  | refuse =>
      cases happly
      by_cases hnew : client = b.next
      · exact .inl (.inl (by simp [hnew]))
      · rcases h (by simp only at hlt; omega) with (ha | hheld) | hlost
        · exact .inl (.inl (List.mem_append_left _ ha))
        · exact .inl (.inr hheld)
        · exact .inr (.inr hlost)
  | lease place =>
      cases happly
      by_cases hnew : client = b.next
      · exact .inl (.inr ⟨place, by simp [hnew]⟩)
      · rcases h (by simp only at hlt; omega) with (ha | ⟨other, hheld⟩) | hlost
        · exact .inl (.inl ha)
        · by_cases ho : other = place
          · subst ho
            exact .inr (.inl hheld)
          · exact .inl (.inr ⟨other, by simpa [ho] using hheld⟩)
        · exact .inr (.inr hlost)
  | answer place =>
      obtain ⟨answered, hplace, rfl⟩ := Option.map_eq_some_iff.mp happly
      rcases h hlt with (ha | ⟨other, hheld⟩) | hlost
      · exact .inl (.inl (List.mem_append_left _ ha))
      · by_cases ho : other = place
        · subst ho
          obtain rfl := Option.some.inj (hplace.symm.trans hheld)
          exact .inl (.inl (by simp))
        · exact .inl (.inr ⟨other, by simpa [ho] using hheld⟩)
      · exact .inr (.inr hlost)
  | evict gone =>
      cases happly
      rcases h hlt with (ha | ⟨other, hheld⟩) | hlost
      · exact .inl (.inl ha)
      · by_cases hg : gone other = true
        · exact .inr (.inl ⟨other, hg, hheld⟩)
        · exact .inl (.inr ⟨other, by simpa [hg] using hheld⟩)
      · exact .inr (.inr hlost)

end EspCoordinator.Lease
