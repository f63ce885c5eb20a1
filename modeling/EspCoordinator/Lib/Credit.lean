import Mathlib.Algebra.BigOperators.Group.Finset.Basic
import Mathlib.Algebra.Order.BigOperators.Group.Finset
import Mathlib.Data.Multiset.AddSub

namespace EspCoordinator.Credit

variable {κ ω : Type}

-- A part of a system that works on credits. A label can bring some in, the part
-- spends them on what it puts out, and it holds or writes off the others.
structure Part (κ ω : Type) where
  State : Type
  Label : Type
  step : State → Label → Option (State × List ω)
  taken : Label → Multiset κ
  lost : State → Label → Multiset κ
  held : State → Multiset κ

variable {P : Part κ ω} {credit : ω → Multiset κ}

def spent (credit : ω → Multiset κ) (out : List ω) : Multiset κ := (out.map credit).sum

@[simp] theorem spent_nil : spent credit [] = 0 := rfl

@[simp] theorem spent_singleton (o : ω) : spent credit [o] = credit o := by
  rw [spent, List.map_singleton, List.sum_singleton]

theorem spent_append (first second : List ω) :
    spent credit (first ++ second) = spent credit first + spent credit second := by
  rw [spent, List.map_append, List.sum_append, spent, spent]

-- No step makes a credit or drops one unnoticed.
structure Part.Balanced (P : Part κ ω) (credit : ω → Multiset κ) (I : P.State → Prop) : Prop where
  inv : ∀ s label next out, I s → P.step s label = some (next, out) → I next
  balance : ∀ s label next out, I s → P.step s label = some (next, out) →
    P.taken label + P.held s = spent credit out + P.held next + P.lost s label

-- Parts side by side, each of them with labels of its own.
def parallel {ι : Type} [Fintype ι] [DecidableEq ι] (parts : ι → Part κ ω) : Part κ ω where
  State := ∀ i, (parts i).State
  Label := Σ i, (parts i).Label
  step s label :=
    ((parts label.1).step (s label.1) label.2).map fun (next, out) =>
      (Function.update s label.1 next, out)
  taken label := (parts label.1).taken label.2
  lost s label := (parts label.1).lost (s label.1) label.2
  held s := ∑ i, (parts i).held (s i)

section Parallel

variable {ι : Type} [Fintype ι] [DecidableEq ι] {parts : ι → Part κ ω}

-- A sum over places of which one changes.
theorem sum_update {σ : ι → Type} (value : ∀ i, σ i → Multiset κ) (s : ∀ i, σ i) (i : ι)
    (next : σ i) :
    (∑ j, value j (Function.update s i next j)) + value i (s i) =
      (∑ j, value j (s j)) + value i next := by
  have hrest : ∑ j ∈ Finset.univ.erase i, value j (Function.update s i next j) =
      ∑ j ∈ Finset.univ.erase i, value j (s j) :=
    Finset.sum_congr rfl fun j hj => by rw [Function.update_of_ne (Finset.ne_of_mem_erase hj)]
  rw [← Finset.add_sum_erase _ _ (Finset.mem_univ i), ← Finset.add_sum_erase _ _ (Finset.mem_univ i),
    hrest, Function.update_self]
  ac_rfl

-- What each part keeps to, the whole keeps to.
theorem balanced_parallel {I : ∀ i, (parts i).State → Prop}
    (h : ∀ i, (parts i).Balanced credit (I i)) :
    (parallel parts).Balanced credit fun s => ∀ i, I i (s i) := by
  have hsplit {s : ∀ i, (parts i).State} {i : ι} {label : (parts i).Label}
      {next : ∀ i, (parts i).State} {out : List ω}
      (hstep : (parallel parts).step s ⟨i, label⟩ = some (next, out)) :
      ∃ t, (parts i).step (s i) label = some (t, out) ∧ next = Function.update s i t := by
    obtain ⟨⟨t, more⟩, hpart, heq⟩ := Option.map_eq_some_iff.mp hstep
    obtain ⟨rfl, rfl⟩ := Prod.mk.inj heq
    exact ⟨t, hpart, rfl⟩
  constructor
  · rintro s ⟨i, label⟩ next out hinv hstep
    obtain ⟨t, hpart, rfl⟩ := hsplit hstep
    exact (Function.forall_update_iff s fun j => I j).mpr
      ⟨(h i).inv _ _ _ _ (hinv i) hpart, fun j _ => hinv j⟩
  · rintro s ⟨i, label⟩ next out hinv hstep
    obtain ⟨t, hpart, rfl⟩ := hsplit hstep
    have hlocal := (h i).balance _ _ _ _ (hinv i) hpart
    have hsum := sum_update (fun j => (parts j).held) s i t
    change (parts i).taken label + ∑ j, (parts j).held (s j) = spent credit out +
      (∑ j, (parts j).held (Function.update s i t j)) + (parts i).lost (s i) label
    apply add_left_cancel (a := (parts i).held (s i))
    calc (parts i).held (s i) + ((parts i).taken label + ∑ j, (parts j).held (s j))
        = ((parts i).taken label + (parts i).held (s i)) + ∑ j, (parts j).held (s j) := by ac_rfl
      _ = spent credit out + ((∑ j, (parts j).held (s j)) + (parts i).held t) +
            (parts i).lost (s i) label := by
          rw [hlocal]
          ac_rfl
      _ = (parts i).held (s i) + (spent credit out +
            (∑ j, (parts j).held (Function.update s i t j)) + (parts i).lost (s i) label) := by
          rw [← hsum]
          ac_rfl

end Parallel

end EspCoordinator.Credit
