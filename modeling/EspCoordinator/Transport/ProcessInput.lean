import EspCoordinator.Lib.Ticks
import EspCoordinator.Transport

namespace EspCoordinator.Transport

-- What a round of the loop of process_input_int sees: the tick it compares
-- with the deadline, and what the senders append before its read returns.
structure Look where
  tick : UInt32
  arrived : List UInt8

-- What the first `count` rounds have seen arriving.
def arrivals (looks : Nat → Look) (count : Nat) : List UInt8 :=
  (List.range count).flatMap fun round => (looks round).arrived

-- Every round but the last reads a byte or more, so `size` rounds are enough.
def topUp (deadline : UInt32) (size : Nat) :
    Nat → (Nat → Look) → List UInt8 → List UInt8 → List UInt8 × List UInt8
  | 0, _, got, inputBuf => (got, inputBuf)
  | fuel + 1, looks, got, inputBuf =>
      match inputRound (looks 0).tick deadline (inputBuf ++ (looks 0).arrived) size got with
      | .read got inputBuf => topUp deadline size fuel (fun round => looks (round + 1)) got inputBuf
      | .leave => (got, inputBuf)
      | .blocked => (got, inputBuf)

-- The buffer at the end, and what write_int is called with.
structure Drained where
  inputBuf : List UInt8
  handed : Option (List UInt8)
deriving DecidableEq

def processInputInt (hz : Nat) (entry : UInt32) (looks : Nat → Look) (size : Nat)
    (inputBuf : List UInt8) : Drained :=
  let deadline := entry + pdMS_TO_TICKS hz RINGBUF_TIMEOUT_MS
  let (got, inputBuf) := topUp deadline size size looks [] inputBuf
  if got.length ≠ size then { inputBuf, handed := none } else { inputBuf, handed := some got }

variable {deadline : UInt32} {size fuel : Nat} {looks : Nat → Look} {got inputBuf : List UInt8}

theorem inputRound_full {tick : UInt32} (h : size ≤ got.length) :
    inputRound tick deadline inputBuf size got = .leave := by
  rw [inputRound, if_neg (Nat.not_lt.mpr h)]

theorem topUp_full (h : size ≤ got.length) :
    topUp deadline size fuel looks got inputBuf = (got, inputBuf) := by
  cases fuel with
  | zero => rfl
  | succ fuel => simp only [topUp, inputRound_full h]

theorem length_read {tick : UInt32} {next rest : List UInt8}
    (h : inputRound tick deadline inputBuf size got = .read next rest) :
    got.length < next.length := by
  unfold inputRound at h
  split_ifs at h with hmore hlate hempty
  obtain ⟨rfl, -⟩ := Round.read.inj h
  have hinput : 0 < inputBuf.length := List.length_pos_iff.mpr hempty
  rw [List.length_append, List.length_take]
  omega

-- The loop has ended by itself: more rounds change nothing.
theorem topUp_fuel (extra : Nat) (h : size ≤ got.length + fuel) :
    topUp deadline size (fuel + extra) looks got inputBuf =
      topUp deadline size fuel looks got inputBuf := by
  induction fuel generalizing looks got inputBuf with
  | zero => rw [topUp_full (by omega), topUp_full (by omega)]
  | succ fuel ih =>
      rw [Nat.add_right_comm, topUp, topUp]
      cases hround : inputRound (looks 0).tick deadline (inputBuf ++ (looks 0).arrived) size got with
      | leave => rfl
      | blocked => rfl
      | read next rest =>
          have hlonger := length_read hround
          exact ih (by omega)

-- What is read in the first round, when it is not too late for it.
theorem topUp_early (hearly : (looks 0).tick < deadline) (hsize : 0 < size)
    (hinput : size ≤ inputBuf.length) :
    topUp deadline size size looks [] inputBuf =
      (inputBuf.take size, inputBuf.drop size ++ (looks 0).arrived) := by
  obtain ⟨fuel, rfl⟩ := Nat.exists_eq_add_of_lt hsize
  have hlate : ¬(looks 0).tick ≥ deadline := UInt32.not_le.mpr hearly
  have hbytes : inputBuf ++ (looks 0).arrived ≠ [] := by
    apply List.append_ne_nil_of_left_ne_nil
    apply List.ne_nil_of_length_pos
    omega
  rw [Nat.zero_add] at hinput ⊢
  rw [topUp, inputRound, List.length_nil, if_pos (Nat.succ_pos fuel), if_neg hlate, if_neg hbytes,
    Nat.sub_zero, List.nil_append, List.take_append_of_le_length hinput,
    List.drop_append_of_le_length hinput]
  exact topUp_full (by rw [List.length_take]; omega)

theorem topUp_late (hlate : deadline ≤ (looks 0).tick) :
    topUp deadline size fuel looks [] inputBuf = ([], inputBuf) := by
  cases fuel with
  | zero => rfl
  | succ fuel =>
      simp only [topUp, inputRound, ge_iff_le, if_pos hlate, ite_self]

-- The next `size` bytes are handed on; the others stay, in front of what has
-- arrived in the meantime.
def Takes (looks : Nat → Look) (size : Nat) (inputBuf : List UInt8) (drained : Drained) : Prop :=
  drained.handed = some (inputBuf.take size) ∧
    ∃ rounds, drained.inputBuf = inputBuf.drop size ++ arrivals looks rounds

-- The bytes are there, so the first look decides. `elapsed` ticks have gone by
-- until then.
theorem processInputInt_takes_iff (hz : Nat) (entry : UInt32) (looks : Nat → Look) (size : Nat)
    (inputBuf : List UInt8) (hinput : size ≤ inputBuf.length) :
    let elapsed := (looks 0).tick - entry
    let timeout := pdMS_TO_TICKS hz RINGBUF_TIMEOUT_MS
    Takes looks size inputBuf (processInputInt hz entry looks size inputBuf) ↔
      size = 0 ∨
        (elapsed < timeout ↔ (Ticks.Wraps entry elapsed ↔ Ticks.Wraps entry timeout)) := by
  intro elapsed timeout
  rw [← Ticks.add_lt_add_iff, show entry + elapsed = (looks 0).tick by
    simp only [elapsed]; rw [UInt32.add_comm, UInt32.sub_add_cancel]]
  rcases Nat.eq_zero_or_pos size with rfl | hsize
  · refine iff_of_true ⟨rfl, 0, ?_⟩ (.inl rfl)
    simp [processInputInt, topUp, arrivals]
  · by_cases hearly : (looks 0).tick < entry + timeout
    · refine iff_of_true ?_ (.inr hearly)
      have hfull : (inputBuf.take size).length = size := by
        rw [List.length_take]
        omega
      have hread := topUp_early hearly hsize hinput
      simp only [processInputInt, timeout] at hread ⊢
      rw [hread]
      simp only [hfull, ne_eq, not_true_eq_false, if_false]
      exact ⟨rfl, 1, by simp [arrivals]⟩
    · refine iff_of_false ?_ (by rintro (rfl | h); exacts [Nat.lt_irrefl 0 hsize, hearly h])
      rintro ⟨hhanded, -⟩
      simp only [processInputInt, topUp_late (UInt32.not_lt.mp hearly), timeout] at hhanded
      rw [if_pos (by simpa using hsize.ne)] at hhanded
      cases hhanded

theorem processInputInt_takes_iff_oneByte :
    let looks : Nat → Look := fun _ => { tick := 0xfffffff0, arrived := [] }
    Takes looks 1 [0xde] (processInputInt 100 0xfffffff0 looks 1 [0xde]) :=
  (processInputInt_takes_iff 100 0xfffffff0 _ 1 [0xde] (by decide)).mpr
    (.inr (by simp only [Ticks.Wraps]; decide))

-- Two ticks before the wrap the deadline is 3, and no tick looks early.
theorem not_processInputInt_takes :
    ¬∀ hz entry looks size inputBuf, size ≤ inputBuf.length →
      Takes looks size inputBuf (processInputInt hz entry looks size inputBuf) := by
  intro h
  have hhanded := (h 100 0xfffffffe (fun _ => ⟨0xfffffffe, []⟩) 1 [0xde] (by decide)).1
  exact absurd hhanded (by decide)

end EspCoordinator.Transport
