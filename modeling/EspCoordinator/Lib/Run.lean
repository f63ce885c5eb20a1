import Mathlib.Data.List.Basic
import Mathlib.Data.List.Induction

namespace EspCoordinator.Run

variable {σ ℓ : Type*} {step : σ → ℓ → Option σ}

-- Take the labels in order. The run stops at `none` when a label is not enabled.
def exec (step : σ → ℓ → Option σ) : σ → List ℓ → Option σ
  | s, [] => some s
  | s, label :: rest => (step s label).bind fun next => exec step next rest

def Reachable (step : σ → ℓ → Option σ) (init s : σ) : Prop :=
  ∃ labels, exec step init labels = some s

@[simp] theorem exec_nil (s : σ) : exec step s [] = some s := rfl

theorem exec_cons {s final : σ} {label : ℓ} {rest : List ℓ} :
    exec step s (label :: rest) = some final ↔
      ∃ next, step s label = some next ∧ exec step next rest = some final := by
  simp only [exec, Option.bind_eq_some_iff]

theorem exec_append {s final : σ} {first second : List ℓ} :
    exec step s (first ++ second) = some final ↔
      ∃ middle, exec step s first = some middle ∧ exec step middle second = some final := by
  induction first generalizing s with
  | nil => simp
  | cons label rest ih =>
      simp only [List.cons_append, exec_cons, ih]
      constructor
      · rintro ⟨next, hstep, middle, hm, hf⟩
        exact ⟨middle, ⟨next, hstep, hm⟩, hf⟩
      · rintro ⟨middle, ⟨next, hstep, hm⟩, hf⟩
        exact ⟨next, hstep, middle, hm, hf⟩

theorem exec_concat {s final : σ} {labels : List ℓ} {label : ℓ} :
    exec step s (labels ++ [label]) = some final ↔
      ∃ before, exec step s labels = some before ∧ step before label = some final := by
  simp [exec_append, exec_cons]

-- An invariant that may mention the labels taken so far.
theorem exec_history {init final : σ} {labels : List ℓ} (I : List ℓ → σ → Prop)
    (hinit : I [] init)
    (hstep : ∀ past s label next, I past s → step s label = some next → I (past ++ [label]) next)
    (hrun : exec step init labels = some final) : I labels final := by
  induction labels using List.reverseRecOn generalizing final with
  | nil =>
      obtain rfl : init = final := by simpa using hrun
      exact hinit
  | append_singleton past label ih =>
      obtain ⟨before, hbefore, hlast⟩ := exec_concat.mp hrun
      exact hstep past before label final (ih hbefore) hlast

theorem exec_invariant {init final : σ} {labels : List ℓ} (I : σ → Prop) (hinit : I init)
    (hstep : ∀ s label next, I s → step s label = some next → I next)
    (hrun : exec step init labels = some final) : I final :=
  exec_history (fun _ s => I s) hinit (fun _ s label next => hstep s label next) hrun

theorem Reachable.invariant {init s : σ} (I : σ → Prop) (hinit : I init)
    (hstep : ∀ s label next, I s → step s label = some next → I next)
    (hreach : Reachable step init s) : I s := by
  obtain ⟨labels, hrun⟩ := hreach
  exact exec_invariant I hinit hstep hrun

-- Every label of the run is taken in a state where `P` holds of it.
def Along (step : σ → ℓ → Option σ) (init : σ) (P : σ → ℓ → Prop) (labels : List ℓ) : Prop :=
  ∀ past label before, past ++ [label] <+: labels → exec step init past = some before →
    P before label

theorem along_nil {init : σ} {P : σ → ℓ → Prop} : Along step init P [] :=
  fun _ _ _ hpre => by simp at hpre

theorem along_concat {init before : σ} {P : σ → ℓ → Prop} {past : List ℓ} {label : ℓ}
    (hrun : exec step init past = some before) :
    Along step init P (past ++ [label]) ↔ Along step init P past ∧ P before label := by
  constructor
  · exact fun h => ⟨fun first next s hb => h first next s (hb.trans (List.prefix_append _ _)),
      h past label before (List.prefix_refl _) hrun⟩
  · rintro ⟨hpast, hlast⟩ first next s hb hs
    rcases List.prefix_concat_iff.mp hb with heq | hb
    · obtain ⟨rfl, hnext⟩ := List.append_inj' heq rfl
      obtain rfl := List.singleton_inj.mp hnext
      obtain rfl := Option.some.inj (hrun.symm.trans hs)
      exact hlast
    · exact hpast first next s hb hs

theorem along_of_forall {init : σ} {P : σ → ℓ → Prop} {labels : List ℓ}
    (h : ∀ s, ∀ label ∈ labels, P s label) : Along step init P labels :=
  fun past label before hpre _ => h before label (hpre.subset (by simp))

theorem along_cons {init : σ} {P : σ → ℓ → Prop} {label : ℓ} {rest : List ℓ}
    (hfirst : P init label) (hrest : ∀ next, step init label = some next → Along step next P rest) :
    Along step init P (label :: rest) := by
  intro past last before hpre hrun
  cases past with
  | nil =>
      obtain rfl : init = before := by simpa using hrun
      obtain ⟨rfl, -⟩ := List.cons_prefix_cons.mp hpre
      exact hfirst
  | cons first past =>
      obtain ⟨rfl, htail⟩ := List.cons_prefix_cons.mp hpre
      obtain ⟨next, hstep, hlater⟩ := exec_cons.mp hrun
      exact hrest next hstep past last before htail hlater

theorem Along.and {init : σ} {P Q : σ → ℓ → Prop} {labels : List ℓ}
    (hp : Along step init P labels) (hq : Along step init Q labels) :
    Along step init (fun s label => P s label ∧ Q s label) labels :=
  fun past label before hpre hrun =>
    ⟨hp past label before hpre hrun, hq past label before hpre hrun⟩

-- An invariant of the runs along which `P` holds, and what follows from it
-- for the steps taken.
theorem exec_along {init final : σ} {labels : List ℓ} {P Q : σ → ℓ → Prop} (I : σ → Prop)
    (hinit : I init)
    (hstep : ∀ s label next, I s → P s label → step s label = some next → I next ∧ Q s label)
    (hrun : exec step init labels = some final) (halong : Along step init P labels) :
    I final ∧ Along step init Q labels := by
  induction labels using List.reverseRecOn generalizing final with
  | nil =>
      obtain rfl : init = final := by simpa using hrun
      exact ⟨hinit, along_nil⟩
  | append_singleton past label ih =>
      obtain ⟨before, hbefore, hlast⟩ := exec_concat.mp hrun
      obtain ⟨hpast, hlabel⟩ := (along_concat hbefore).mp halong
      obtain ⟨hinv, hfollows⟩ := ih hbefore hpast
      obtain ⟨hnext, hq⟩ := hstep before label final hinv hlabel hlast
      exact ⟨hnext, (along_concat hbefore).mpr ⟨hfollows, hq⟩⟩

-- The step adds something to the count of the invariant, unless it is `P`.
def Accounts (I : σ → Nat → Prop) (P : σ → ℓ → Prop) (s : σ) (label : ℓ) (next : σ) : Prop :=
  ∀ count, I s count → ∃ more, I next (count + more) ∧ (more = 0 ↔ P s label)

theorem Accounts.of_inv {I : σ → Nat → Prop} {P : σ → ℓ → Prop} {s next : σ} {label : ℓ}
    (hp : P s label) (h : ∀ count, I s count → I next count) : Accounts I P s label next :=
  fun count hinv => ⟨0, h count hinv, by simpa using hp⟩

-- A count that only grows, and grows at the steps that are not `P`.
theorem exec_ledger {init final : σ} {labels : List ℓ} {P : σ → ℓ → Prop} (I : σ → Nat → Prop)
    (hinit : I init 0)
    (hstep : ∀ s label next, step s label = some next → Accounts I P s label next)
    (hrun : exec step init labels = some final) :
    ∃ count, I final count ∧ (count = 0 ↔ Along step init P labels) := by
  induction labels using List.reverseRecOn generalizing final with
  | nil =>
      obtain rfl : init = final := by simpa using hrun
      exact ⟨0, hinit, by simpa using along_nil⟩
  | append_singleton past label ih =>
      obtain ⟨before, hbefore, hlast⟩ := exec_concat.mp hrun
      obtain ⟨count, hcount, hpast⟩ := ih hbefore
      obtain ⟨more, hnext, hmore⟩ := hstep before label final hlast count hcount
      refine ⟨count + more, hnext, ?_⟩
      rw [along_concat hbefore, ← hpast, ← hmore]
      omega

-- `Along`, for a given run and a condition that can be computed.
def checkAlong (step : σ → ℓ → Option σ) (check : σ → ℓ → Bool) : σ → List ℓ → Bool
  | _, [] => true
  | s, label :: rest =>
      check s label && (step s label).all fun next => checkAlong step check next rest

theorem along_of_check {init : σ} {P : σ → ℓ → Prop} {labels : List ℓ} (check : σ → ℓ → Bool)
    (hcheck : ∀ s label, check s label = true → P s label)
    (h : checkAlong step check init labels = true) : Along step init P labels := by
  induction labels generalizing init with
  | nil => exact along_nil
  | cons label rest ih =>
      obtain ⟨hfirst, hrest⟩ := Bool.and_eq_true_iff.mp h
      refine along_cons (hcheck init label hfirst) fun next hnext => ih ?_
      rw [hnext, Option.all_some] at hrest
      exact hrest

-- Two conditions that agree in every state a run can reach agree along runs.
theorem along_congr {init : σ} {P Q : σ → ℓ → Prop} {labels : List ℓ}
    (h : ∀ s, Reachable step init s → ∀ label, P s label ↔ Q s label) :
    Along step init P labels ↔ Along step init Q labels := by
  constructor
  · exact fun hp past label before hpre hb =>
      (h before ⟨past, hb⟩ label).mp (hp past label before hpre hb)
  · exact fun hq past label before hpre hb =>
      (h before ⟨past, hb⟩ label).mpr (hq past label before hpre hb)

-- The same rule for a step that is always enabled.
theorem foldl_history (f : σ → ℓ → σ) (init : σ) (I : List ℓ → σ → Prop) (hinit : I [] init)
    (hstep : ∀ past s label, I past s → I (past ++ [label]) (f s label)) (labels : List ℓ) :
    I labels (labels.foldl f init) := by
  induction labels using List.reverseRecOn with
  | nil => exact hinit
  | append_singleton past label ih =>
      rw [List.foldl_append]
      exact hstep past _ label ih

end EspCoordinator.Run
