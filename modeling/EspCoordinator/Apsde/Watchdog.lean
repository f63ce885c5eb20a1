import EspCoordinator.Apsde.Lemmas
import EspCoordinator.Lib.Ticks

namespace EspCoordinator.Apsde

open Resolver Requests Transport

variable {hz : Nat} {s next : State} {label : Label}

def watchdogTimeout (hz : Nat) : Nat := (pdMS_TO_TICKS hz APSDE_WATCHDOG_TIMEOUT_MS).toNat

-- The scan frees a slot only if that many ticks have passed since it entered
-- S_EXEC. Fewer than 2 ^ 32 ticks lie between the two.
def FreesOnlyStale (hz : Nat) (s : State) (label : Label) : Prop :=
  label = .scan → ∀ next, step hz s label = some next → ∀ idx,
    (s.table.slot idx).state = .exec → (next.table.slot idx).state = .none →
    s.now - s.execAt idx < 2 ^ 32 → watchdogTimeout hz ≤ s.now - s.execAt idx

-- No fresh slot has entered S_EXEC after the clock was read. Its stamp would
-- lie in the future of the sample and look old, unless a multiple of 2 ^ 32
-- ticks, or a little less, passed between the two.
def NoneEnteredLater (hz : Nat) (s : State) (label : Label) : Prop :=
  label = .scan → ∀ sample, s.sampled = some sample → ∀ idx,
    (s.table.slot idx).state = .exec → sample < s.execAt idx →
    s.now - s.execAt idx < watchdogTimeout hz →
    (s.execAt idx - sample) % 2 ^ 32 = 0 ∨
      2 ^ 32 - watchdogTimeout hz < (s.execAt idx - sample) % 2 ^ 32

theorem step_scan {sample : Nat} (h : s.sampled = some sample) :
    step hz s .scan = some { s with
      table := s.table.reclaim (UInt32.ofNat sample) (pdMS_TO_TICKS hz APSDE_WATCHDOG_TIMEOUT_MS),
      sampled := none } := by
  simp only [step, h]

theorem step_scan_none (h : s.sampled = none) : step hz s .scan = none := by
  simp only [step, h]

-- The age that the scan computes is the age at the sampled tick.
theorem stale_iff (h : Inv s) {sample : Nat} {idx : Slot}
    (hexec : (s.table.slot idx).state = .exec) :
    s.table.resolver.stale (UInt32.ofNat sample)
        (pdMS_TO_TICKS hz APSDE_WATCHDOG_TIMEOUT_MS) idx = true ↔
      watchdogTimeout hz ≤ (Ticks.age sample (s.execAt idx)).toNat := by
  have hstamp : (s.table.resolver.storage idx).tExec = UInt32.ofNat (s.execAt idx) :=
    h.stamped idx hexec
  have hstate : (s.table.resolver.storage idx).state = .exec := hexec
  simp only [stale, hstate, hstamp, true_and, decide_eq_true_eq, UInt32.le_iff_toNat_le]
  rfl

theorem freed_iff (h : Inv s) {sample : Nat} (hstep : step hz s .scan = some next)
    (hsample : s.sampled = some sample) {idx : Slot} (hexec : (s.table.slot idx).state = .exec) :
    (next.table.slot idx).state = .none ↔
      watchdogTimeout hz ≤ (Ticks.age sample (s.execAt idx)).toNat := by
  rw [step_scan hsample] at hstep
  cases hstep
  rw [← stale_iff h hexec]
  simp only [Table.slot_reclaim]
  split
  next hstale => simp [hstale]
  next hstale => simp [hstale, hexec]

-- A stamp that is not in the future of the sample shows no more than the age
-- the slot really has.
theorem age_le_of_le {sample stamp now : Nat} (hle : stamp ≤ sample) (hnow : sample ≤ now)
    (hlt : now - stamp < 2 ^ 32) : (Ticks.age sample stamp).toNat ≤ now - stamp := by
  rw [Ticks.age_of_le hle (by omega)]
  omega

theorem freesOnlyStale_iff_noneEnteredLater (h : Inv s) (label : Label) :
    FreesOnlyStale hz s label ↔ NoneEnteredLater hz s label := by
  constructor
  · rintro hstale rfl sample hsample idx hexec hlater hfresh
    by_cases hfreed : watchdogTimeout hz ≤ (Ticks.age sample (s.execAt idx)).toNat
    · have hnone := (freed_iff h (step_scan hsample) hsample hexec).mpr hfreed
      have htimeout : watchdogTimeout hz < 2 ^ 32 := UInt32.toNat_lt _
      have := hstale rfl _ (step_scan hsample) idx hexec hnone (by omega)
      omega
    · rw [Ticks.age_of_lt hlater] at hfreed
      omega
  · rintro hlater rfl next hstep idx hexec hnone hlt
    cases hsample : s.sampled with
    | none =>
        rw [step_scan_none hsample] at hstep
        cases hstep
    | some sample =>
        have hfreed := (freed_iff h hstep hsample hexec).mp hnone
        have hnow := h.sampled_le sample hsample
        by_cases hle : s.execAt idx ≤ sample
        · exact hfreed.trans (age_le_of_le hle hnow hlt)
        · by_cases hfresh : s.now - s.execAt idx < watchdogTimeout hz
          · have hd := hlater rfl sample hsample idx hexec (by omega) hfresh
            rw [Ticks.age_of_lt (by omega)] at hfreed
            omega
          · omega

theorem reclaim_only_stale_iff (hz : Nat) (labels : List Label) :
    Run.Along (step hz) init (FreesOnlyStale hz) labels ↔
      Run.Along (step hz) init (NoneEnteredLater hz) labels := by
  apply Run.along_congr
  rintro s ⟨past, hrun⟩ label
  exact freesOnlyStale_iff_noneEnteredLater (inv_of_exec hrun) label

theorem exec_ticks (hz count : Nat) (s : State) (labels : List Label) :
    Run.exec (step hz) s (List.replicate count .tick ++ labels) =
      Run.exec (step hz) { s with now := s.now + count } labels := by
  induction count generalizing s with
  | zero => rfl
  | succ count ih =>
      change Run.exec (step hz) { s with now := s.now + 1 }
        (List.replicate count .tick ++ labels) = _
      rw [ih, Nat.add_right_comm, Nat.add_assoc]

-- The watchdog reads the clock, a tick later do_request stamps its slot, and
-- then the scan comes.
def lateStamp : List Label :=
  [.process (readAttributes 1), .handOver true, .watchdog, .tick, .doRequest 0 5 RET_OK, .publish]

theorem not_reclaim_only_stale_lateStamp :
    ¬ Run.Along (step 100) init (FreesOnlyStale 100)
      (List.replicate 200 .tick ++ lateStamp ++ [.scan]) := by
  intro h
  have hrun := exec_ticks 100 200 init lateStamp
  have hfreed := h _ .scan _ (List.prefix_refl _) (hrun.trans rfl) rfl _ rfl 0 rfl rfl (by decide)
  revert hfreed
  decide

end EspCoordinator.Apsde
