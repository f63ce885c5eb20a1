import EspCoordinator.Apsde.Lemmas

namespace EspCoordinator.Apsde

open Resolver Requests

variable {hz : Nat} {s next : State} {label : Label}

-- A record can name a slot that has a new request by now, but then it does not
-- name the slot's allocation.
def Records (s : State) : Prop :=
  ∀ buf, (s.sent buf).valid = true → ∃ number, s.lastSent buf = some number ∧
    (s.sent buf).old.toNat < s.table.allocations ∧
    ∀ idx : Slot, (idx : Nat) = (s.sent buf).idx.toNat → (s.table.slot idx).state ≠ .none →
      (s.table.slot idx).old = (s.sent buf).old → s.table.owner idx = number

theorem records_init : Records init := by
  intro buf hvalid
  cases hvalid

-- The records stay good when no slot gets an allocation that was there before.
theorem Records.mono (h : Records s) (next : State)
    (hsent : ∀ buf, (next.sent buf).valid = true → next.sent buf = s.sent buf)
    (hlast : next.lastSent = s.lastSent) (hcount : s.table.allocations ≤ next.table.allocations)
    (hslot : ∀ idx, (next.table.slot idx).state ≠ .none →
      (next.table.slot idx).old.toNat < s.table.allocations →
      (s.table.slot idx).state ≠ .none ∧ (next.table.slot idx).old = (s.table.slot idx).old ∧
        next.table.owner idx = s.table.owner idx) : Records next := by
  intro buf hvalid
  have hsame := hsent buf hvalid
  rw [hsame] at hvalid ⊢
  obtain ⟨number, hnumber, hold, hown⟩ := h buf hvalid
  refine ⟨number, by rw [hlast, hnumber], Nat.lt_of_lt_of_le hold hcount, ?_⟩
  intro idx hidx hbusy heq
  obtain ⟨hbefore, holdEq, howner⟩ := hslot idx hbusy (by rw [heq]; exact hold)
  rw [howner]
  exact hown idx hidx hbefore (holdEq ▸ heq)

-- One slot is written, and it keeps its allocation if it stays busy.
theorem Records.of_update (h : Records s) {table : Table Arg UInt32} {idx : Slot}
    {req : Request Arg} (hslot : table.slot = Function.update s.table.slot idx req)
    (hold : req.old = (s.table.slot idx).old)
    (hbusy : req.state ≠ .none → (s.table.slot idx).state ≠ .none)
    (howner : table.owner = s.table.owner) (hcount : table.allocations = s.table.allocations) :
    Records { s with table } := by
  refine h.mono _ (fun _ _ => rfl) rfl hcount.ge fun other hother _ => ?_
  simp only [hslot, howner, and_true] at hother ⊢
  by_cases ho : other = idx
  · subst ho
    rw [Function.update_self] at hother ⊢
    exact ⟨hbusy hother, hold⟩
  · rw [Function.update_of_ne ho] at hother ⊢
    exact ⟨hother, rfl⟩

theorem Records.claim (h : Records s) (hinv : Inv s) {request : HostRequest} {noSlot : Frame}
    (hcount : (s.table.claim request noSlot).allocations < 2 ^ 32) :
    Records { s with table := s.table.claim request noSlot } := by
  cases hstart : s.table.resolver.startResolve request.cmd with
  | none =>
      rw [Table.claim_eq_refuse noSlot hstart]
      exact h.mono _ (fun _ _ => rfl) rfl (Nat.le_refl _) fun idx hidx _ => ⟨hidx, rfl, rfl⟩
  | some found =>
      obtain ⟨idx, r⟩ := found
      have hnext : (s.table.claim request noSlot).allocations = s.table.allocations + 1 := by
        simp [Table.claim, hstart]
      have hcounted := hinv.sound.counted (by omega)
      refine h.mono _ (fun _ _ => rfl) rfl (by simp [hnext]) fun other hother hlt => ?_
      simp only [Table.slot_claim noSlot hstart, Table.owner_claim noSlot hstart] at hother hlt ⊢
      by_cases ho : other = idx
      · subst ho
        rw [Function.update_self, hcounted.cntr] at hlt
        exact absurd hlt (Nat.lt_irrefl _)
      · simp only [Function.update_of_ne ho] at hother ⊢
        exact ⟨hother, trivial, trivial⟩

theorem Records.record (h : Records s) (idx : Slot) {old : UInt32}
    (hlt : old.toNat < s.table.allocations) (buf : UInt8) :
    Records { s with
      sent := Function.update s.sent buf { old, idx := UInt8.ofNat idx, valid := true },
      lastSent := Function.update s.lastSent buf (some (s.table.owner idx)) } := by
  intro other hvalid
  by_cases ho : other = buf
  · subst ho
    simp only [Function.update_self, Option.some.injEq, exists_eq_left'] at hvalid ⊢
    refine ⟨hlt, fun first hfirst _ _ => ?_⟩
    have hidx : first = idx := by
      apply Fin.ext
      have hi : (idx : Nat) < 16 := idx.isLt
      simp only [UInt8.toNat_ofNat'] at hfirst
      omega
    rw [hidx]
  · simp only [Function.update_of_ne ho] at hvalid ⊢
    exact h other hvalid

theorem Records.startRequest (h : Records s) (hinv : Inv s) {idx : Slot}
    (hpending : idx ∈ s.table.pending) (buf : UInt8) (ret : UInt32)
    (hcount : s.table.allocations < 2 ^ 32) : Records (startRequest s idx buf ret) := by
  have halloc : (s.table.slot idx).state = .allocation :=
    (hinv.sound.mem_iff idx).mp (by simp [Table.callbacks, hpending])
  have hstart : Records { s with table :=
      (s.table.noteTsn idx (zclTsn (s.table.slot idx).arg)).start idx ret } :=
    h.of_update (Table.slot_noteTsn idx _) rfl (fun hne => hne) rfl rfl
  have hlt : (s.table.slot idx).old.toNat < s.table.allocations :=
    hinv.sound.old_lt hcount (by simp [halloc])
  unfold Apsde.startRequest
  simp only
  split
  · exact hstart.record idx hlt buf
  · exact hstart

-- The callback leaves every record alone but its own, which it spends.
theorem callback_sent (s : State) (param : UInt8) (resp : DataResp) (buf : UInt8)
    (hvalid : ((apsUserPayloadCallback s param resp).sent buf).valid = true) :
    (apsUserPayloadCallback s param resp).sent buf = s.sent buf := by
  let spent : UInt8 → Sent := Function.update s.sent param { s.sent param with valid := false }
  have hspent : (spent buf).valid = true → spent buf = s.sent buf := by
    simp only [spent]
    by_cases hb : buf = param
    · subst hb
      simp
    · simp [hb]
  revert hvalid
  unfold apsUserPayloadCallback
  split
  · simp
  · simp only
    split
    · exact hspent
    · split <;> exact hspent

theorem Records.callback (h : Records s) (param : UInt8) (resp : DataResp) :
    Records (apsUserPayloadCallback s param resp) := by
  obtain ⟨-, -, -, hlast⟩ := callback_clock s param resp
  have hsent := callback_sent s param resp
  rcases callback_cases s param resp with hsame | ⟨idx, frame, -, -, -, -, -, hanswer⟩
  · refine h.mono _ hsent hlast (by rw [hsame]) fun idx hidx _ => ?_
    rw [hsame] at hidx ⊢
    exact ⟨hidx, rfl, rfl⟩
  · refine h.mono _ hsent hlast (by rw [hanswer]; rfl) fun other hother _ => ?_
    rw [hanswer] at hother ⊢
    by_cases ho : other = idx
    · subst ho
      simp at hother
    · simp only [Table.slot_answer, Function.update_of_ne ho] at hother ⊢
      exact ⟨hother, trivial, rfl⟩

theorem allocations_startRequest (s : State) (idx : Slot) (buf : UInt8) (ret : UInt32) :
    (startRequest s idx buf ret).table.allocations = s.table.allocations := by
  unfold startRequest
  simp only
  split <;> rfl

theorem allocations_callback (s : State) (param : UInt8) (resp : DataResp) :
    (apsUserPayloadCallback s param resp).table.allocations = s.table.allocations := by
  rcases callback_cases s param resp with hsame | ⟨idx, frame, -, -, -, -, -, hanswer⟩
  · rw [hsame]
  · rw [hanswer]
    rfl

theorem allocations_le_step (hstep : step hz s label = some next) :
    s.table.allocations ≤ next.table.allocations := by
  cases effect_of_step hstep with
  | claim => exact Table.allocations_le_claim _ _
  | handOver => exact (Table.allocations_handOver _ _ _ _).ge
  | doRequest => exact (allocations_startRequest _ _ _ _).ge
  | confirm => exact (allocations_callback _ _ _).ge
  | _ => exact Nat.le_refl _

theorem Records.handOver (h : Records s) (hinv : Inv s) {idx : Slot} {request : HostRequest}
    (happ : s.table.app = some (idx, request)) (arg : Arg) (accepted : Bool) (rejected : Frame) :
    Records { s with table := s.table.handOver idx arg accepted rejected } := by
  apply h.of_update (Table.slot_handOver idx arg accepted rejected) rfl
  · simp [hinv.sound.allocation_of_app happ]
  · exact Table.owner_handOver _ _ _ _
  · exact Table.allocations_handOver _ _ _ _

theorem Records.reclaim (h : Records s) (now timeout : UInt32) :
    Records { s with table := s.table.reclaim now timeout, sampled := none } := by
  refine h.mono _ (fun _ _ => rfl) rfl (Nat.le_refl _) fun idx hidx _ => ?_
  have hsame := Table.slot_reclaim_busy hidx
  exact ⟨hsame ▸ hidx, congrArg _ hsame, rfl⟩

theorem records_step (h : Records s) (hinv : Inv s) (hstep : step hz s label = some next)
    (hcount : next.table.allocations < 2 ^ 32) : Records next := by
  have hcountBefore := Nat.lt_of_le_of_lt (allocations_le_step hstep) hcount
  cases effect_of_step hstep with
  | refuse => exact h
  | claim => exact h.claim hinv hcount
  | handOver happ => exact h.handOver hinv happ _ _ _
  | doRequest hpending => exact h.startRequest hinv hpending _ _ hcountBefore
  | @abort idx => exact h.of_update (Table.slot_abort idx _) rfl (by simp) rfl rfl
  | @publish idx hrunning =>
      have halloc := hinv.sound.allocation_of_running hrunning
      exact h.of_update (Table.slot_publish idx _ _) rfl (by simp [halloc]) rfl rfl
  | confirm => exact h.callback _ _
  | early => exact h
  | sample => exact h
  | scan => exact h.reclaim _ _
  | tick => exact h

theorem records_of_exec {labels : List Label} (hrun : Run.exec (step hz) init labels = some s)
    (hcount : s.table.allocations < 2 ^ 32) : Records s := by
  refine Run.exec_invariant (fun s => Inv s ∧ (s.table.allocations < 2 ^ 32 → Records s))
    ⟨inv_init, fun _ => records_init⟩ ?_ hrun |>.2 hcount
  rintro s label next ⟨hinv, hrecords⟩ hstep
  refine ⟨inv_step hinv hstep, fun hcount => ?_⟩
  exact records_step (hrecords (Nat.lt_of_le_of_lt (allocations_le_step hstep) hcount)) hinv hstep
    hcount

-- The request is in S_EXEC in the slot that it was sent from. A request claims
-- a slot only once, so this is still the allocation it was sent with.
def Occupies (s : State) (number : Nat) (idx : Slot) : Prop :=
  (s.table.slot idx).state = .exec ∧ s.table.owner idx = number

-- A confirm on a buffer changes nothing in the table and sends nothing, or it
-- answers the request of the last successful send on that buffer, which is
-- still in its slot.
def ConfirmsLastSend (hz : Nat) (s : State) (label : Label) : Prop :=
  ∀ param resp next, label = .confirm param resp → step hz s label = some next →
    next.table = s.table ∨ ∃ number idx frame, s.lastSent param = some number ∧
      Occupies s number idx ∧ (idx : Nat) = (s.sent param).idx.toNat ∧
      (s.table.slot idx).old = (s.sent param).old ∧ next.table = s.table.answer idx frame

-- When that request has left its slot, nothing is what happens.
def IgnoresGone (hz : Nat) (s : State) (label : Label) : Prop :=
  ∀ param resp next, label = .confirm param resp → step hz s label = some next →
    (∀ number idx, s.lastSent param = some number → ¬ Occupies s number idx) →
    next.table = s.table

theorem confirmsLastSend (h : Records s) (label : Label) : ConfirmsLastSend hz s label := by
  rintro param resp next rfl hstep
  cases effect_of_step hstep
  rcases callback_cases s param resp with
    hsame | ⟨idx, frame, hvalid, hidx, hexec, hold, -, hanswer⟩
  · exact .inl hsame
  · obtain ⟨number, hnumber, -, hown⟩ := h param hvalid
    have hocc : Occupies s number idx := ⟨hexec, hown idx hidx (by simp [hexec]) hold⟩
    exact .inr ⟨number, idx, frame, hnumber, hocc, hidx, hold, hanswer⟩

theorem ConfirmsLastSend.ignoresGone (h : ConfirmsLastSend hz s label) :
    IgnoresGone hz s label := by
  intro param resp next hlabel hstep hgone
  rcases h param resp next hlabel hstep with hsame | ⟨number, idx, frame, hnumber, hocc, -⟩
  · exact hsame
  · exact absurd hocc (hgone number idx hnumber)

theorem allocations_le_of_exec {labels : List Label} {final : State}
    (hrun : Run.exec (step hz) s labels = some final) :
    s.table.allocations ≤ final.table.allocations :=
  Run.exec_invariant (fun next => s.table.allocations ≤ next.table.allocations) (Nat.le_refl _)
    (fun _ _ _ hle hstep => hle.trans (allocations_le_step hstep)) hrun

theorem confirm_reaches_its_request (hz : Nat) (labels : List Label) (s : State)
    (hrun : Run.exec (step hz) init labels = some s) (hcount : s.table.allocations < 2 ^ 32) :
    Run.Along (step hz) init (ConfirmsLastSend hz) labels ∧
      Run.Along (step hz) init (IgnoresGone hz) labels ∧
      (∀ number, (s.table.answers.filter fun answer => answer.request = number).length ≤ 1) ∧
      ∀ answer ∈ s.table.answers, ∃ request, s.table.requests[answer.request]? = some request ∧
        answer.frame.cmd = { request.cmd with type := .response } := by
  have hconfirms : Run.Along (step hz) init (ConfirmsLastSend hz) labels := by
    intro past label before hpre hbefore
    obtain ⟨rest, rfl⟩ := hpre
    have hle : before.table.allocations ≤ s.table.allocations := by
      rw [List.append_assoc] at hrun
      obtain ⟨middle, hmiddle, hrest⟩ := Run.exec_append.mp hrun
      obtain rfl := Option.some.inj (hbefore.symm.trans hmiddle)
      exact allocations_le_of_exec hrest
    exact confirmsLastSend (records_of_exec hbefore (Nat.lt_of_le_of_lt hle hcount)) label
  have hsound := (inv_of_exec hrun).sound
  refine ⟨hconfirms, ?_, Table.answers_le_one hsound.toAccounts, hsound.header⟩
  exact fun past label before hpre hbefore => (hconfirms past label before hpre hbefore).ignoresGone

def confirmOk : DataResp :=
  { addr := [0x34, 0x12, 0, 0, 0, 0, 0, 0], dstEndpoint := 1, srcEndpoint := 1, txTime := 9,
    dstAddrMode := 2, status := 0 }

-- Two sends on buffer 5, and two confirms on it: the first of them answers the
-- second request, the other one nobody.
def reusedBuffer : List Label :=
  [.process (readAttributes 1), .handOver true, .doRequest 0 5 RET_OK, .publish,
    .process (readAttributes 2), .handOver true, .doRequest 1 5 RET_OK, .publish,
    .confirm 5 confirmOk, .confirm 5 confirmOk]

theorem confirm_reaches_its_request_reusedBuffer :
    ∃ s, Run.exec (step 100) init reusedBuffer = some s ∧
      s.table.answers.map Answer.request = [1] ∧
      Run.Along (step 100) init (ConfirmsLastSend 100) reusedBuffer :=
  ⟨_, rfl, rfl, (confirm_reaches_its_request 100 reusedBuffer _ rfl (by decide)).1⟩

end EspCoordinator.Apsde
