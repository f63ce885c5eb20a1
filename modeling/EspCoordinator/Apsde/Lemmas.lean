import EspCoordinator.Apsde
import EspCoordinator.Requests.Lemmas

namespace EspCoordinator.Apsde

open Resolver Requests Transport

variable {hz : Nat} {s next : State} {label : Label}

-- The stamps are the low bits of real ticks that are not in the future.
structure Inv (s : State) : Prop where
  sound : s.table.Sound
  stamped : ∀ idx, (s.table.slot idx).state = .exec →
    (s.table.slot idx).tExec = UInt32.ofNat (s.execAt idx)
  execAt_le : ∀ idx, s.execAt idx ≤ s.now
  sampled_le : ∀ sample, s.sampled = some sample → sample ≤ s.now

theorem inv_init : Inv init where
  sound := Table.sound_init _
  stamped idx hexec := by simp [init, Table.slot, Table.init] at hexec
  execAt_le _ := Nat.le_refl _
  sampled_le sample hsample := by simp [init] at hsample

-- S_EXEC slots of the next table were S_EXEC with the same stamp before.
theorem Inv.of_exec (h : Inv s) {table : Table Arg UInt32} (hsound : table.Sound)
    (hexec : ∀ idx, (table.slot idx).state = .exec →
      (s.table.slot idx).state = .exec ∧
        (table.slot idx).tExec = (s.table.slot idx).tExec) : Inv { s with table } where
  sound := hsound
  stamped idx hidx := by
    obtain ⟨hbefore, hstamp⟩ := hexec idx hidx
    rw [hstamp]
    exact h.stamped idx hbefore
  execAt_le := h.execAt_le
  sampled_le := h.sampled_le

-- A slot that one step has changed is not S_EXEC afterwards.
theorem exec_of_update {table after : Table Arg UInt32} {idx : Slot} {req : Request Arg}
    (hslot : after.slot = Function.update table.slot idx req) (hreq : req.state ≠ .exec)
    (other : Slot) (hother : (after.slot other).state = .exec) :
    (table.slot other).state = .exec ∧ (after.slot other).tExec = (table.slot other).tExec := by
  rw [hslot] at hother ⊢
  by_cases ho : other = idx
  · subst ho
    rw [Function.update_self] at hother
    exact absurd hother hreq
  · rw [Function.update_of_ne ho] at hother ⊢
    exact ⟨hother, rfl⟩

-- A confirm does nothing to the table, or it answers the request in the slot
-- and the allocation that the record of its buffer names.
theorem callback_cases (s : State) (param : UInt8) (resp : DataResp) :
    (apsUserPayloadCallback s param resp).table = s.table ∨ ∃ (idx : Slot) (frame : Frame),
      (s.sent param).valid = true ∧ (idx : Nat) = (s.sent param).idx.toNat ∧
      (s.table.slot idx).state = .exec ∧ (s.table.slot idx).old = (s.sent param).old ∧
      frame.cmd = (s.table.slot idx).cmd.reply ∧
      (apsUserPayloadCallback s param resp).table = s.table.answer idx frame := by
  unfold apsUserPayloadCallback
  split
  · exact .inl rfl
  · simp only
    split
    · exact .inl rfl
    next hvalid =>
      cases htake :
          s.table.resolver.resolveTakeAt (s.sent param).idx.toUInt16 (s.sent param).old with
      | none => exact .inl rfl
      | some found =>
          obtain ⟨idx, req, r⟩ := found
          obtain ⟨hidx, hexec, hold, rfl, -⟩ := resolveTakeAt_eq_some htake
          refine .inr ⟨idx, _, by simpa using hvalid, by simpa using hidx, hexec, hold, ?_, rfl⟩
          split <;> rfl

theorem callback_clock (s : State) (param : UInt8) (resp : DataResp) :
    (apsUserPayloadCallback s param resp).now = s.now ∧
      (apsUserPayloadCallback s param resp).sampled = s.sampled ∧
      (apsUserPayloadCallback s param resp).execAt = s.execAt ∧
      (apsUserPayloadCallback s param resp).lastSent = s.lastSent := by
  unfold apsUserPayloadCallback
  split
  · simp
  · simp only
    split
    · simp
    · split <;> simp

theorem Inv.callback (h : Inv s) (param : UInt8) (resp : DataResp) :
    Inv (apsUserPayloadCallback s param resp) := by
  obtain ⟨hnow, hsampled, hexecAt, -⟩ := callback_clock s param resp
  have htable : Inv { s with table := (apsUserPayloadCallback s param resp).table } := by
    rcases callback_cases s param resp with hsame | ⟨idx, frame, -, -, hexec, -, hframe, hanswer⟩
    · rw [hsame]
      exact h
    · rw [hanswer]
      exact h.of_exec (h.sound.reply hexec hframe) (exec_of_update (Table.slot_answer idx frame)
        (by simp))
  refine ⟨htable.sound, ?_, ?_, ?_⟩
  · rw [hexecAt]
    exact htable.stamped
  · rw [hexecAt, hnow]
    exact h.execAt_le
  · rw [hsampled, hnow]
    exact h.sampled_le

theorem Inv.startRequest (h : Inv s) {idx : Slot} (hpending : idx ∈ s.table.pending)
    (hrunning : s.table.running = none) (buf : UInt8) (ret : UInt32) :
    Inv (startRequest s idx buf ret) := by
  have halloc : (s.table.slot idx).state = .allocation :=
    (h.sound.mem_iff idx).mp (by simp [Table.callbacks, hpending])
  have hstart : Inv { s with table :=
      (s.table.noteTsn idx (zclTsn (s.table.slot idx).arg)).start idx ret } :=
    h.of_exec ((h.sound.noteTsn idx _).start hpending hrunning ret)
      (exec_of_update (Table.slot_noteTsn idx _) (by simp [halloc]))
  unfold Apsde.startRequest
  simp only
  split
  · exact ⟨hstart.sound, hstart.stamped, hstart.execAt_le, hstart.sampled_le⟩
  · exact hstart

theorem Inv.claim (h : Inv s) {request : HostRequest} {noSlot : Frame} (happ : s.table.app = none)
    (hframe : noSlot.cmd = request.cmd.reply) :
    Inv { s with table := s.table.claim request noSlot } := by
  apply h.of_exec (h.sound.claim happ hframe)
  cases hstart : s.table.resolver.startResolve request.cmd with
  | none =>
      rw [Table.claim_eq_refuse noSlot hstart]
      exact fun idx hidx => ⟨hidx, rfl⟩
  | some found =>
      obtain ⟨idx, r⟩ := found
      exact exec_of_update (Table.slot_claim noSlot hstart) (by simp)

theorem Inv.publish (h : Inv s) {idx : Slot} {ret : UInt32}
    (hrunning : s.table.running = some (idx, ret)) (tsn : UInt8) :
    Inv { s with
      table := s.table.publish idx tsn s.tick, execAt := Function.update s.execAt idx s.now } where
  sound := h.sound.publish hrunning tsn s.tick
  stamped other hother := by
    by_cases ho : other = idx
    · subst ho
      simp [State.tick]
    · simp only [Table.slot_publish, Function.update_of_ne ho] at hother ⊢
      exact h.stamped other hother
  execAt_le other := by
    by_cases ho : other = idx
    · subst ho
      simp
    · simpa [ho] using h.execAt_le other
  sampled_le := h.sampled_le

theorem Inv.reclaim (h : Inv s) (now timeout : UInt32) :
    Inv { s with table := s.table.reclaim now timeout, sampled := none } := by
  have htable : Inv { s with table := s.table.reclaim now timeout } := by
    apply h.of_exec (h.sound.reclaim now timeout)
    intro idx hidx
    rw [Table.slot_reclaim] at hidx ⊢
    split at hidx
    · simp at hidx
    next hstale =>
      rw [if_neg hstale]
      exact ⟨hidx, rfl⟩
  exact ⟨htable.sound, htable.stamped, htable.execAt_le, fun _ hnone => nomatch hnone⟩

-- What a step can do, with the guard it has passed.
inductive Effect (hz : Nat) (s : State) : Label → State → Prop where
  | refuse {request : HostRequest} (happ : s.table.app = none) (hsampled : s.sampled = none)
      (hcheck : checkFrame request.buffer = false) :
      Effect hz s (.process request) { s with
        table := s.table.refuse request (failed request.cmd GENERIC_INVALID_PARAMETER) }
  | claim {request : HostRequest} (happ : s.table.app = none) (hsampled : s.sampled = none)
      (hcheck : checkFrame request.buffer = true) :
      Effect hz s (.process request) { s with
        table := s.table.claim request (failed request.cmd GENERIC_OUT_OF_RANGE) }
  | handOver {accepted : Bool} {idx : Slot} {request : HostRequest}
      (happ : s.table.app = some (idx, request)) :
      Effect hz s (.handOver accepted) { s with
        table := s.table.handOver idx (copyArg (s.table.slot idx).arg request.buffer) accepted
          (failed request.cmd GENERIC_NO_RESOURCES) }
  | doRequest {idx : Slot} {buf : UInt8} {ret : UInt32} (hpending : idx ∈ s.table.pending)
      (hrunning : s.table.running = none) :
      Effect hz s (.doRequest idx buf ret) (startRequest s idx buf ret)
  | abort {idx : Slot} {ret : UInt32} (hrunning : s.table.running = some (idx, ret))
      (hret : ret ≠ RET_OK) :
      Effect hz s .publish { s with
        table := s.table.abort idx (failed (s.table.slot idx).cmd ret.toUInt8) }
  | publish {idx : Slot} (hrunning : s.table.running = some (idx, RET_OK)) :
      Effect hz s .publish { s with
        table := s.table.publish idx (s.table.slot idx).tsn s.tick
        execAt := Function.update s.execAt idx s.now }
  | confirm {param : UInt8} {resp : DataResp} (hrunning : s.table.running = none) :
      Effect hz s (.confirm param resp) (apsUserPayloadCallback s param resp)
  | early (happ : s.table.app = none) (hsampled : s.sampled = none)
      (hearly : s.tick - s.sLast < pdMS_TO_TICKS hz 2000) : Effect hz s .watchdog s
  | sample (happ : s.table.app = none) (hsampled : s.sampled = none)
      (hdue : ¬ s.tick - s.sLast < pdMS_TO_TICKS hz 2000) :
      Effect hz s .watchdog { s with sLast := s.tick, sampled := some s.now }
  | scan {sample : Nat} (hsample : s.sampled = some sample) :
      Effect hz s .scan { s with
        table := s.table.reclaim (UInt32.ofNat sample) (pdMS_TO_TICKS hz APSDE_WATCHDOG_TIMEOUT_MS)
        sampled := none }
  | tick : Effect hz s .tick { s with now := s.now + 1 }

theorem effect_of_step (hstep : step hz s label = some next) : Effect hz s label next := by
  cases label with
  | process request =>
      simp only [step, Option.ite_none_left_eq_some, not_or, Option.not_isSome_iff_eq_none]
        at hstep
      obtain ⟨⟨happ, hsampled⟩, hstep⟩ := hstep
      split at hstep
      next hcheck =>
        cases hstep
        exact .claim happ hsampled hcheck
      next hcheck =>
        cases hstep
        exact .refuse happ hsampled (Bool.eq_false_iff.mpr hcheck)
  | handOver accepted =>
      simp only [step] at hstep
      split at hstep
      next happ =>
        cases hstep
        exact .handOver happ
      next => cases hstep
  | doRequest idx buf ret =>
      simp only [step, Option.ite_none_right_eq_some, Option.some.injEq, Table.ready_iff] at hstep
      obtain ⟨⟨hpending, hrunning⟩, rfl⟩ := hstep
      exact .doRequest hpending hrunning
  | publish =>
      simp only [step] at hstep
      split at hstep
      next idx ret hrunning =>
        split at hstep
        next hret =>
          cases hstep
          exact .abort hrunning hret
        next hret =>
          cases hstep
          exact .publish (not_not.mp hret ▸ hrunning)
      next => cases hstep
  | confirm param resp =>
      simp only [step, Option.ite_none_right_eq_some, Option.some.injEq] at hstep
      obtain ⟨hrunning, rfl⟩ := hstep
      exact .confirm hrunning
  | watchdog =>
      simp only [step, Option.ite_none_left_eq_some, not_or, Option.not_isSome_iff_eq_none]
        at hstep
      obtain ⟨⟨happ, hsampled⟩, hstep⟩ := hstep
      split at hstep
      next hearly =>
        cases hstep
        exact .early happ hsampled hearly
      next hdue =>
        cases hstep
        exact .sample happ hsampled hdue
  | scan =>
      simp only [step] at hstep
      split at hstep
      next sample hsample =>
        cases hstep
        exact .scan hsample
      next => cases hstep
  | tick =>
      cases hstep
      exact .tick

theorem inv_step (h : Inv s) (hstep : step hz s label = some next) : Inv next := by
  cases effect_of_step hstep with
  | refuse => exact h.of_exec (h.sound.refuse rfl) fun idx hidx => ⟨hidx, rfl⟩
  | claim happ => exact h.claim happ rfl
  | @handOver accepted idx request happ =>
      apply h.of_exec (h.sound.handOver happ _ accepted rfl)
      exact exec_of_update (Table.slot_handOver idx _ accepted _) (by cases accepted <;> simp)
  | doRequest hpending hrunning => exact h.startRequest hpending hrunning _ _
  | @abort idx ret hrunning =>
      apply h.of_exec (h.sound.abort hrunning rfl)
      exact exec_of_update (Table.slot_abort idx _) (by simp)
  | publish hrunning => exact h.publish hrunning _
  | confirm => exact h.callback _ _
  | early => exact h
  | sample =>
      refine ⟨h.sound, h.stamped, h.execAt_le, fun sample hsample => ?_⟩
      cases hsample
      exact Nat.le_refl _
  | scan => exact h.reclaim _ _
  | tick =>
      exact ⟨h.sound, h.stamped, fun idx => Nat.le_succ_of_le (h.execAt_le idx),
        fun sample hsample => Nat.le_succ_of_le (h.sampled_le sample hsample)⟩

theorem inv_of_exec {labels : List Label} (hrun : Run.exec (step hz) init labels = some s) :
    Inv s :=
  Run.exec_invariant Inv inv_init (fun _ _ _ h hstep => inv_step h hstep) hrun

-- The shortest ZCL frame, to device 0x1234.
def readAttributes (tsn : UInt8) : HostRequest :=
  { cmd := { version := 0, type := .request, commandId := 0x0301, tsn },
    buffer := [21, 3, 0] ++ [0x34, 0x12, 0, 0, 0, 0, 0, 0] ++ [4, 1] ++ [6, 0] ++
      [1, 1, 30, 2, 0, 0, 0, 0, 0] ++ [0x00, tsn, 0x00] }

end EspCoordinator.Apsde
