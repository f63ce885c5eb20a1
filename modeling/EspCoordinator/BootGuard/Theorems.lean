import EspCoordinator.BootGuard

namespace EspCoordinator.BootGuard

variable {s next : State} {past : List Boot} {timer : Bool} {fails : Nat}

theorem earlyFailures_cons (boot : Boot) (past : List Boot) :
    earlyFailures (boot :: past) =
      if boot.resets then 0
      else if boot.safeMode then earlyFailures past else earlyFailures past + 1 := by
  unfold earlyFailures
  cases hresets : boot.resets <;> cases hsafe : boot.safeMode <;> simp [hresets, hsafe]

-- The breadcrumb of a count.
def crumb (fails : Nat) : UInt32 := BOOT_BC_MAGIC ||| UInt32.ofNat fails

theorem magicOk_crumb (h : fails ≤ 3) : MagicOk (crumb fails) :=
  (by decide : ∀ fails ≤ 3, MagicOk (crumb fails)) fails h

theorem count_crumb (h : fails ≤ 3) : count (crumb fails) = UInt32.ofNat fails :=
  (by decide : ∀ fails ≤ 3, count (crumb fails) = UInt32.ofNat fails) fails h

theorem ge_limit_iff (h : fails ≤ 3) : UInt32.ofNat fails ≥ BOOT_FAIL_LIMIT ↔ 3 ≤ fails :=
  (by decide : ∀ fails ≤ 3, UInt32.ofNat fails ≥ BOOT_FAIL_LIMIT ↔ 3 ≤ fails) fails h

-- The count that this boot leaves behind, unless it ends in a power cycle.
def State.failures (s : State) : Nat := earlyFailures (s.boot .crash :: s.past)

theorem failures_eq (s : State) :
    s.failures = if s.alive || s.cleared then 0
      else if s.safeMode then earlyFailures s.past else earlyFailures s.past + 1 := by
  have hresets : (s.boot .crash).resets = (s.alive || s.cleared) := Bool.or_false _
  rw [State.failures, earlyFailures_cons, hresets]
  rfl

theorem earlyFailures_warm {ending : Ending} (h : ∀ contents, ending ≠ .powerCycle contents) :
    earlyFailures (s.boot ending :: s.past) = s.failures := by
  have hwarm : (s.boot ending).powerCycled = false := by
    cases ending with
    | powerCycle contents => exact absurd rfl (h contents)
    | crash => rfl
    | deadline => rfl
    | restart => rfl
  have hresets : (s.boot ending).resets = (s.alive || s.cleared) := by
    rw [Boot.resets, hwarm, Bool.or_false]
    rfl
  rw [failures_eq, earlyFailures_cons, hresets]
  rfl

-- In every boot the breadcrumb is what the history says about the boot so far.
structure Inv (s : State) : Prop where
  safeMode : s.safeMode = true ↔ 3 ≤ earlyFailures s.past
  bound : earlyFailures s.past ≤ 3
  breadcrumb : s.breadcrumb = crumb s.failures

theorem Inv.failures_le (h : Inv s) : s.failures ≤ 3 := by
  have hbound := h.bound
  rw [failures_eq]
  split_ifs with hresets hsafe
  · exact Nat.zero_le 3
  · exact hbound
  · have hlow := mt h.safeMode.mpr hsafe
    omega

theorem inv_init_warm (hbound : earlyFailures past ≤ 3) :
    Inv (init (crumb (earlyFailures past)) timer past) := by
  have hcount := ge_limit_iff hbound
  unfold init
  simp only [if_pos (magicOk_crumb hbound), count_crumb hbound, hcount]
  split
  · next hfull =>
      exact
        { safeMode := iff_of_true rfl hfull
          bound := hbound
          breadcrumb := by simp [failures_eq] }
  · next hroom =>
      exact
        { safeMode := iff_of_false Bool.false_ne_true hroom
          bound := hbound
          breadcrumb := by simp [failures_eq, crumb, UInt32.ofNat_add] }

theorem inv_init_cold {contents : UInt32} (hcold : ¬MagicOk contents)
    (hpast : earlyFailures past = 0) : Inv (init contents timer past) := by
  have hlow : ¬3 ≤ earlyFailures past := by omega
  unfold init
  simp only [if_neg hcold]
  rw [if_neg (by decide)]
  exact
    { safeMode := iff_of_false Bool.false_ne_true hlow
      bound := Nat.le_of_not_le hlow
      breadcrumb := by simp [failures_eq, hpast, crumb] }

theorem inv_markZbossAlive (h : Inv s) : Inv { markZbossAlive s with alive := true } where
  safeMode := h.safeMode
  bound := h.bound
  breadcrumb := by simp [failures_eq, markZbossAlive, crumb]

theorem inv_clear (h : Inv s) : Inv { clear s with cleared := true } where
  safeMode := h.safeMode
  bound := h.bound
  breadcrumb := by simp [failures_eq, clear, crumb]

theorem inv_warm (h : Inv s) {ending : Ending} (hwarm : ∀ contents, ending ≠ .powerCycle contents) :
    Inv (init s.breadcrumb timer (s.boot ending :: s.past)) := by
  have hcount := earlyFailures_warm (s := s) hwarm
  rw [h.breadcrumb, ← hcount]
  exact inv_init_warm (by rw [hcount]; exact h.failures_le)

theorem inv_step (s : State) (label : Label) (next : State) (h : Inv s)
    (hstep : step s label = some next) : Inv next := by
  cases label with
  | zbossAlive =>
      simp only [step, Option.ite_none_left_eq_some, Option.some.injEq] at hstep
      obtain ⟨-, rfl⟩ := hstep
      exact inv_markZbossAlive h
  | ncpReset =>
      obtain rfl := Option.some.inj hstep
      exact inv_clear h
  | selfHeal =>
      simp only [step, Option.ite_none_right_eq_some, Option.some.injEq] at hstep
      obtain ⟨-, rfl⟩ := hstep
      exact inv_clear h
  | boot ending timer =>
      cases ending with
      | crash =>
          obtain rfl := Option.some.inj hstep
          exact inv_warm h (fun _ => nofun)
      | deadline =>
          simp only [step, Option.ite_none_right_eq_some, Option.some.injEq] at hstep
          obtain ⟨-, rfl⟩ := hstep
          exact inv_warm h (fun _ => nofun)
      | restart =>
          simp only [step, Option.ite_none_right_eq_some, Option.some.injEq] at hstep
          obtain ⟨-, rfl⟩ := hstep
          exact inv_warm h (fun _ => nofun)
      | powerCycle contents =>
          simp only [step, Option.ite_none_left_eq_some, Option.some.injEq] at hstep
          obtain ⟨hcold, rfl⟩ := hstep
          refine inv_init_cold hcold ?_
          rw [earlyFailures_cons, if_pos]
          simp [Boot.resets, Boot.powerCycled, State.boot]

theorem count_le_limit (h : fails ≤ 3) : count (crumb fails) ≤ BOOT_FAIL_LIMIT :=
  (by decide : ∀ fails ≤ 3, count (crumb fails) ≤ BOOT_FAIL_LIMIT) fails h

-- The sum stays within the low byte.
theorem increment_crumb (h : fails < 3) :
    BOOT_BC_MAGIC ||| (count (crumb fails) + 1) = crumb (fails + 1) :=
  (by decide : ∀ fails < 3, BOOT_BC_MAGIC ||| (count (crumb fails) + 1) = crumb (fails + 1)) fails h

-- The history decides about safe mode. The count of the breadcrumb is never
-- above the limit, and one more leaves the magic alone.
theorem safeMode_iff (contents : UInt32) (timer : Bool) (labels : List Label) (s : State)
    (hcold : ¬MagicOk contents)
    (hrun : Run.exec step (init contents timer []) labels = some s) :
    (s.safeMode = true ↔ BOOT_FAIL_LIMIT.toNat ≤ earlyFailures s.past) ∧
      count s.breadcrumb ≤ BOOT_FAIL_LIMIT ∧ MagicOk s.breadcrumb ∧
      (count s.breadcrumb < BOOT_FAIL_LIMIT →
        MagicOk (BOOT_BC_MAGIC ||| (count s.breadcrumb + 1)) ∧
          count (BOOT_BC_MAGIC ||| (count s.breadcrumb + 1)) = count s.breadcrumb + 1) := by
  have hinv : Inv s := Run.exec_invariant Inv (inv_init_cold hcold rfl) inv_step hrun
  have hle := hinv.failures_le
  refine ⟨hinv.safeMode, ?_, ?_, fun hroom => ?_⟩
  · rw [hinv.breadcrumb]
    exact count_le_limit hle
  · rw [hinv.breadcrumb]
    exact magicOk_crumb hle
  · rw [hinv.breadcrumb] at hroom ⊢
    have hlt : s.failures < 3 := by
      rw [count_crumb hle] at hroom
      exact Nat.lt_of_not_le fun hfull => UInt32.not_le.mpr hroom ((ge_limit_iff hle).mpr hfull)
    rw [increment_crumb hlt, count_crumb (Nat.succ_le_of_lt hlt), count_crumb hle]
    exact ⟨magicOk_crumb hlt, UInt32.ofNat_add s.failures 1⟩

-- Three boots that do not get past their deadline.
theorem safeMode_iff_threeDeadlines :
    ∃ s, Run.exec step (init 0x5eed1234 true []) (List.replicate 3 (.boot .deadline true)) = some s ∧
      s.safeMode = true :=
  ⟨_, rfl, (safeMode_iff 0x5eed1234 true (List.replicate 3 (.boot .deadline true)) _ (by decide)
    rfl).1.mpr (by decide)⟩

end EspCoordinator.BootGuard
