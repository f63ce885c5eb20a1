import Mathlib.Data.List.Basic
import Mathlib.Tactic.Ring

namespace EspCoordinator

-- What one look at the front of the unread input decides: keep `tail` until
-- more input arrives, or consume an item and go on with `rest`.
inductive Scan (β ι : Type*) where
  | wait (tail : List β)
  | item (it : ι) (rest : List β)
deriving DecidableEq

structure Scanner (β ι : Type*) where
  scan : List β → Scan β ι
  shrinks : ∀ {input it rest}, scan input = .item it rest → rest.length < input.length

namespace Scanner

variable {β ι : Type*} (S : Scanner β ι)

-- Consume items until the scanner waits; what it waits with is the tail.
def cut (input : List β) : List ι × List β :=
  match _h : S.scan input with
  | .wait tail => ([], tail)
  | .item it rest => (it :: (cut rest).1, (cut rest).2)
termination_by input.length
decreasing_by all_goals exact S.shrinks _h

variable {S} {input tail rest : List β} {it : ι}

theorem cut_wait (h : S.scan input = .wait tail) : S.cut input = ([], tail) := by
  rw [cut]
  split <;> simp_all

theorem cut_item (h : S.scan input = .item it rest) :
    S.cut input = (it :: (S.cut rest).1, (S.cut rest).2) := by
  rw [cut]
  split <;> simp_all

-- Induction along the items that `cut` consumes.
theorem cut_induction {motive : List β → Prop}
    (hwait : ∀ input tail, S.scan input = .wait tail → motive input)
    (hitem : ∀ input it rest, S.scan input = .item it rest → motive rest → motive input)
    (input : List β) : motive input := by
  induction hn : input.length using Nat.strongRecOn generalizing input with
  | ind n ih =>
      cases hs : S.scan input with
      | wait tail => exact hwait input tail hs
      | item it rest => exact hitem input it rest hs (ih _ (hn ▸ S.shrinks hs) rest rfl)

-- When every item accounts for the input it consumed, so does a whole cut.
theorem sum_size_cut (size : ι → Nat)
    (hwait : ∀ {input tail}, S.scan input = .wait tail → tail.length ≤ input.length)
    (hitem : ∀ {input it rest}, S.scan input = .item it rest →
      size it + rest.length ≤ input.length) (input : List β) :
    ((S.cut input).1.map size).sum + (S.cut input).2.length ≤ input.length := by
  induction input using S.cut_induction with
  | hwait input tail hs => simpa [cut_wait hs] using hwait hs
  | hitem input it rest hs ih =>
      have := hitem hs
      simp only [cut_item hs, List.map_cons, List.sum_cons]
      omega

-- A scanner that reads each encoding at the front of any input reads back
-- everything that was written.
theorem cut_flatMap {α : Type*} (enc : α → List β) (read : α → ι)
    (hnil : S.scan [] = .wait [])
    (hcons : ∀ x tail, S.scan (enc x ++ tail) = .item (read x) tail) (xs : List α) :
    S.cut (xs.flatMap enc) = (xs.map read, []) := by
  induction xs with
  | nil => exact cut_wait hnil
  | cons x xs ih =>
      rw [List.flatMap_cons, cut_item (hcons x _), ih]
      rfl

-- Where an item stands for the input it consumed, and a wait keeps all of it,
-- the items and the tail are the whole input.
theorem flatMap_cut (enc : ι → List β)
    (hwait : ∀ {input tail}, S.scan input = .wait tail → tail = input)
    (hitem : ∀ {input it rest}, S.scan input = .item it rest → enc it ++ rest = input)
    (input : List β) : (S.cut input).1.flatMap enc ++ (S.cut input).2 = input := by
  induction input using S.cut_induction with
  | hwait input tail hs => simpa [cut_wait hs] using hwait hs
  | hitem input it rest hs ih =>
      rw [cut_item hs, List.flatMap_cons, List.append_assoc, ih]
      exact hitem hs

end Scanner

end EspCoordinator
