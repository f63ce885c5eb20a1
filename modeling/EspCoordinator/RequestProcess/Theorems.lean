import EspCoordinator.RequestProcess
import EspCoordinator.Requests.Lemmas

namespace EspCoordinator.RequestProcess

open Resolver Requests

variable {Arg Resp : Type} {c : Command Arg Resp} {s next : State Arg} {label : Label Resp}

-- An S_EXEC slot waits for the response to the tsn its own request was given.
structure Inv (s : State Arg) : Prop where
  sound : s.table.Sound
  waiting : ∀ idx, (s.table.slot idx).state = .exec →
    s.stack (s.table.slot idx).tsn = some (s.table.owner idx)
  started : ∀ idx tsn, s.table.running = some (idx, tsn) → tsn ≠ 0xFF →
    s.stack tsn = some (s.table.owner idx)

theorem inv_init (zero : Arg) : Inv (init zero) where
  sound := Table.sound_init zero
  waiting idx hexec := by simp [init, Table.slot, Table.init] at hexec
  started idx tsn hrunning := by simp [init, Table.init] at hrunning

theorem take_cases (s : State Arg) (tsn : UInt8) (frame : Request Arg → Frame) :
    (take s tsn frame = s ∧
      ∀ idx, (s.table.slot idx).state = .exec → (s.table.slot idx).tsn ≠ tsn) ∨
    ∃ idx, (s.table.slot idx).state = .exec ∧ (s.table.slot idx).tsn = tsn ∧
      take s tsn frame = { s with table := s.table.answer idx (frame (s.table.slot idx)) } := by
  unfold take
  cases htake : s.table.resolver.resolveTake tsn with
  | none => exact .inl ⟨rfl, resolveTake_eq_none htake⟩
  | some found =>
      obtain ⟨idx, out, r⟩ := found
      obtain ⟨hexec, htsn, rfl, -⟩ := resolveTake_eq_some htake
      exact .inr ⟨idx, hexec, htsn, rfl⟩

theorem take_stack (s : State Arg) (tsn : UInt8) (frame : Request Arg → Frame) :
    (take s tsn frame).stack = s.stack := by
  rcases take_cases s tsn frame with ⟨htake, -⟩ | ⟨idx, -, -, htake⟩ <;> rw [htake]

theorem take_running (s : State Arg) (tsn : UInt8) (frame : Request Arg → Frame) :
    (take s tsn frame).table.running = s.table.running := by
  rcases take_cases s tsn frame with ⟨htake, -⟩ | ⟨idx, -, -, htake⟩ <;> rw [htake]
  rfl

theorem Inv.take (h : Inv s) (tsn : UInt8) (frame : Request Arg → Frame)
    (hframe : ∀ req, (frame req).cmd = req.cmd.reply) : Inv (take s tsn frame) := by
  rcases take_cases s tsn frame with ⟨htake, -⟩ | ⟨idx, hexec, -, htake⟩
  · rw [htake]
    exact h
  · rw [htake]
    refine ⟨h.sound.reply hexec (hframe _), ?_, h.started⟩
    intro other hother
    by_cases ho : other = idx
    · subst ho
      simp at hother
    · simp only [Table.slot_answer, Function.update_of_ne ho] at hother ⊢
      exact h.waiting other hother

-- No other slot waits for the tsn that has been taken.
theorem Inv.take_gone (h : Inv s) (tsn : UInt8) (frame : Request Arg → Frame) (idx : Slot)
    (hexec : ((RequestProcess.take s tsn frame).table.slot idx).state = .exec) :
    ((RequestProcess.take s tsn frame).table.slot idx).tsn ≠ tsn := by
  rcases take_cases s tsn frame with ⟨htake, hnone⟩ | ⟨hit, hhit, htsn, htake⟩
  · rw [htake] at hexec ⊢
    exact hnone idx hexec
  · rw [htake] at hexec ⊢
    by_cases hi : idx = hit
    · subst hi
      simp at hexec
    · simp only [Table.slot_answer, Function.update_of_ne hi] at hexec ⊢
      intro heq
      apply hi
      have howner : s.table.owner idx = s.table.owner hit := by
        have hidx := h.waiting idx hexec
        rw [heq, ← htsn, h.waiting hit hhit] at hidx
        exact (Option.some.inj hidx).symm
      exact h.sound.consistent.held_once idx hit _
        (Table.holder_eq_some.mpr ⟨by simp [hexec], howner⟩)
        (Table.holder_eq_some.mpr ⟨by simp [hhit], rfl⟩)

-- The stack is done with a tsn that no slot waits for.
theorem Inv.delivered (h : Inv s) {tsn : UInt8}
    (hgone : ∀ idx, (s.table.slot idx).state = .exec → (s.table.slot idx).tsn ≠ tsn)
    (hrunning : s.table.running = none) :
    Inv { s with stack := Function.update s.stack tsn none } := by
  refine ⟨h.sound, ?_, ?_⟩
  · intro idx hexec
    simp only [Function.update_of_ne (hgone idx hexec)]
    exact h.waiting idx hexec
  · intro idx number hidx
    simp [hrunning] at hidx

theorem reqCbFrame_cmd (req : Request Arg) (resp : Resp) :
    (reqCbFrame c req resp).cmd = req.cmd.reply := by
  unfold reqCbFrame
  split
  · rfl
  · split <;> rfl

theorem Inv.claim (h : Inv s) {request : HostRequest} {noSlot : Frame} (happ : s.table.app = none)
    (hframe : noSlot.cmd = request.cmd.reply) :
    Inv { s with table := s.table.claim request noSlot } := by
  have hsound := h.sound.claim happ hframe
  cases hstart : s.table.resolver.startResolve request.cmd with
  | none =>
      rw [Table.claim_eq_refuse noSlot hstart] at hsound ⊢
      exact ⟨hsound, h.waiting, h.started⟩
  | some found =>
      obtain ⟨idx, r⟩ := found
      have hne := startResolve_ne_allocation hstart
      refine ⟨hsound, fun other hexec => ?_, fun other tsn hother htsn => ?_⟩
      · simp only [Table.slot_claim noSlot hstart, Table.owner_claim noSlot hstart] at hexec ⊢
        by_cases ho : other = idx
        · subst ho
          simp at hexec
        · simp only [Function.update_of_ne ho] at hexec ⊢
          exact h.waiting other hexec
      · simp only [Table.running_claim] at hother
        have ho : other ≠ idx := fun heq =>
          hne (heq ▸ h.sound.allocation_of_running hother)
        simp only [Table.owner_claim noSlot hstart, Function.update_of_ne ho]
        exact h.started other tsn hother htsn

theorem Inv.handOver (h : Inv s) {idx : Slot} {request : HostRequest} {rejected : Frame}
    (happ : s.table.app = some (idx, request)) (arg : Arg) (accepted : Bool)
    (hframe : rejected.cmd = request.cmd.reply) :
    Inv { s with table := s.table.handOver idx arg accepted rejected } := by
  refine ⟨h.sound.handOver happ arg accepted hframe, ?_, ?_⟩
  · intro other hexec
    simp only [Table.slot_handOver, Table.owner_handOver] at hexec ⊢
    by_cases ho : other = idx
    · subst ho
      cases accepted <;> simp at hexec
    · simp only [Function.update_of_ne ho] at hexec ⊢
      exact h.waiting other hexec
  · simpa only [Table.running_handOver, Table.owner_handOver] using h.started

theorem Inv.doRequest (h : Inv s) {idx : Slot} (hpending : idx ∈ s.table.pending)
    (hrunning : s.table.running = none) {tsn : UInt8} (htsn : s.stack tsn = none) :
    Inv { table := s.table.start idx tsn,
          stack := Function.update s.stack tsn (some (s.table.owner idx)) } := by
  refine ⟨h.sound.start hpending hrunning tsn, ?_, ?_⟩
  · intro other hexec
    have hwaiting := h.waiting other hexec
    have ho : (s.table.slot other).tsn ≠ tsn := by
      intro heq
      rw [heq, htsn] at hwaiting
      cases hwaiting
    simpa only [Table.slot_start, Table.owner_start, Function.update_of_ne ho] using hwaiting
  · intro other number hother _
    simp only [Table.start, Option.some.injEq, Prod.mk.injEq] at hother
    obtain ⟨rfl, rfl⟩ := hother
    simp [Table.start]

theorem Inv.publish (h : Inv s) {idx : Slot} {tsn : UInt8}
    (hrunning : s.table.running = some (idx, tsn)) (htsn : tsn ≠ 0xFF) (tick : UInt32) :
    Inv { s with table := s.table.publish idx tsn tick } := by
  refine ⟨h.sound.publish hrunning tsn tick, ?_, fun _ _ hnone => nomatch hnone⟩
  intro other hexec
  by_cases ho : other = idx
  · subst ho
    simpa using h.started other tsn hrunning htsn
  · simp only [Table.slot_publish, Function.update_of_ne ho] at hexec ⊢
    exact h.waiting other hexec

theorem Inv.abort (h : Inv s) {idx : Slot} {tsn : UInt8} {frame : Frame}
    (hrunning : s.table.running = some (idx, tsn))
    (hframe : frame.cmd = (s.table.slot idx).cmd.reply) :
    Inv { s with table := s.table.abort idx frame } := by
  refine ⟨h.sound.abort hrunning hframe, ?_, fun _ _ hnone => nomatch hnone⟩
  intro other hexec
  by_cases ho : other = idx
  · subst ho
    simp at hexec
  · simp only [Table.slot_abort, Function.update_of_ne ho] at hexec ⊢
    exact h.waiting other hexec

theorem Inv.startFailed (h : Inv s) {idx : Slot} (hpending : idx ∈ s.table.pending)
    (hrunning : s.table.running = none) : Inv { s with table := s.table.start idx 0xFF } := by
  refine ⟨h.sound.start hpending hrunning 0xFF, h.waiting, ?_⟩
  intro other tsn hother htsn
  simp only [Table.start, Option.some.injEq, Prod.mk.injEq] at hother
  exact absurd hother.2.symm htsn

-- What a step can do, with the guard it has passed.
inductive Effect (c : Command Arg Resp) (s : State Arg) : Label Resp → State Arg → Prop where
  | refuse {request : HostRequest} (happ : s.table.app = none)
      (hcheck : c.checkArgSize request.buffer = false) :
      Effect c s (.process request) { s with
        table := s.table.refuse request
          (reportFailed STATUS_CATEGORY_ZDO request.cmd GENERIC_INVALID_PARAMETER) }
  | claim {request : HostRequest} (happ : s.table.app = none)
      (hcheck : c.checkArgSize request.buffer = true) :
      Effect c s (.process request) { s with
        table := s.table.claim request
          (reportFailed STATUS_CATEGORY_ZDO request.cmd GENERIC_NO_RESOURCES) }
  | handOver {accepted : Bool} {idx : Slot} {request : HostRequest}
      (happ : s.table.app = some (idx, request)) :
      Effect c s (.handOver accepted) { s with
        table := s.table.handOver idx (c.arg request.buffer) accepted
          (reportFailed STATUS_CATEGORY_ZDO request.cmd GENERIC_NO_RESOURCES) }
  | startFailed {idx : Slot} (hpending : idx ∈ s.table.pending)
      (hrunning : s.table.running = none) :
      Effect c s (.doRequest idx 0xFF) { s with table := s.table.start idx 0xFF }
  | start {idx : Slot} {tsn : UInt8} (hpending : idx ∈ s.table.pending)
      (hrunning : s.table.running = none) (htsn : tsn ≠ 0xFF) (hfree : s.stack tsn = none) :
      Effect c s (.doRequest idx tsn)
        { table := s.table.start idx tsn
          stack := Function.update s.stack tsn (some (s.table.owner idx)) }
  | abort {tick : UInt32} {idx : Slot} (hrunning : s.table.running = some (idx, 0xFF)) :
      Effect c s (.publish tick) { s with
        table := s.table.abort idx
          (reportFailed STATUS_CATEGORY_ZDO (s.table.slot idx).cmd GENERIC_NO_RESOURCES) }
  | publish {tick : UInt32} {idx : Slot} {tsn : UInt8}
      (hrunning : s.table.running = some (idx, tsn)) (htsn : tsn ≠ 0xFF) :
      Effect c s (.publish tick) { s with table := s.table.publish idx tsn tick }
  | reqCb {resp : Resp} (hrunning : s.table.running = none)
      (howed : s.stack (c.getTsn resp) ≠ none) :
      Effect c s (.reqCb resp) { take s (c.getTsn resp) (fun req => reqCbFrame c req resp) with
        stack := Function.update s.stack (c.getTsn resp) none }
  | simpleDescRsp {p : List UInt8} (hsimple : c.isSimpleDesc = true)
      (hrunning : s.table.running = none) (hlen : 5 ≤ p.length) :
      Effect c s (.simpleDescRsp p) (take s (p.getD 0 0) fun req =>
        { cmd := req.cmd.reply, data := RequestProcess.simpleDescRsp p })

theorem effect_of_step (hstep : step c s label = some next) : Effect c s label next := by
  cases label with
  | process request =>
      simp only [step, Option.ite_none_left_eq_some, Option.not_isSome_iff_eq_none] at hstep
      obtain ⟨happ, hstep⟩ := hstep
      split at hstep
      next hcheck =>
        cases hstep
        exact .claim happ hcheck
      next hcheck =>
        cases hstep
        exact .refuse happ (Bool.eq_false_iff.mpr hcheck)
  | handOver accepted =>
      simp only [step] at hstep
      split at hstep
      next happ =>
        cases hstep
        exact .handOver happ
      next => cases hstep
  | doRequest idx tsn =>
      simp only [step, Option.ite_none_right_eq_some, Table.ready_iff] at hstep
      obtain ⟨⟨hpending, hrunning⟩, hstep⟩ := hstep
      split at hstep
      next hfailed =>
        cases hstep
        subst hfailed
        exact .startFailed hpending hrunning
      next htsn =>
        simp only [Option.ite_none_right_eq_some, Option.some.injEq] at hstep
        obtain ⟨hfree, rfl⟩ := hstep
        exact .start hpending hrunning htsn hfree
  | publish tick =>
      simp only [step] at hstep
      split at hstep
      next idx tsn hrunning =>
        split at hstep
        next hfailed =>
          cases hstep
          exact .abort (hfailed ▸ hrunning)
        next htsn =>
          cases hstep
          exact .publish hrunning htsn
      next => cases hstep
  | reqCb resp =>
      simp only [step, Option.ite_none_right_eq_some, Option.some.injEq] at hstep
      obtain ⟨⟨hrunning, howed⟩, rfl⟩ := hstep
      exact .reqCb hrunning howed
  | simpleDescRsp p =>
      simp only [step, Option.ite_none_right_eq_some, Option.some.injEq] at hstep
      obtain ⟨⟨hsimple, hrunning, hlen⟩, rfl⟩ := hstep
      exact .simpleDescRsp hsimple hrunning hlen

theorem inv_reqCb (h : Inv s) (resp : Resp) (hrunning : s.table.running = none) :
    Inv { take s (c.getTsn resp) (fun req => reqCbFrame c req resp) with
      stack := Function.update s.stack (c.getTsn resp) none } := by
  have htake := h.take (c.getTsn resp) (fun req => reqCbFrame c req resp)
    fun req => reqCbFrame_cmd req resp
  have hstack := take_stack s (c.getTsn resp) fun req => reqCbFrame c req resp
  rw [← hstack]
  exact htake.delivered (h.take_gone _ _) (by rw [take_running, hrunning])

theorem inv_step (h : Inv s) (hstep : step c s label = some next) : Inv next := by
  cases effect_of_step hstep with
  | refuse => exact ⟨h.sound.refuse rfl, h.waiting, h.started⟩
  | claim happ => exact h.claim happ rfl
  | handOver happ => exact h.handOver happ _ _ rfl
  | startFailed hpending hrunning => exact h.startFailed hpending hrunning
  | start hpending hrunning _ hfree => exact h.doRequest hpending hrunning hfree
  | abort hrunning => exact h.abort hrunning rfl
  | publish hrunning htsn => exact h.publish hrunning htsn _
  | reqCb hrunning => exact inv_reqCb h _ hrunning
  | simpleDescRsp => exact h.take _ _ fun _ => rfl

theorem inv_of_exec {zero : Arg} {labels : List (Label Resp)}
    (hrun : Run.exec (step c) (init zero) labels = some s) : Inv s :=
  Run.exec_invariant Inv (inv_init zero) (fun _ _ _ h hstep => inv_step h hstep) hrun

-- The tsn in what ZBOSS delivers.
def Label.tsn? (c : Command Arg Resp) : Label Resp → Option UInt8
  | .reqCb resp => some (c.getTsn resp)
  | .simpleDescRsp p => some (p.getD 0 0)
  | _ => none

-- A response does nothing to the table, or it answers the request that the
-- stack gave its tsn to.
def UsedByTsn (c : Command Arg Resp) (s : State Arg) (label : Label Resp) : Prop :=
  ∀ tsn next, label.tsn? c = some tsn → step c s label = some next →
    next.table = s.table ∨ ∃ idx frame, s.stack tsn = some (s.table.owner idx) ∧
      (s.table.slot idx).state = .exec ∧ (s.table.slot idx).tsn = tsn ∧
      next.table = s.table.answer idx frame

theorem Inv.take_usedByTsn (h : Inv s) (tsn : UInt8) (frame : Request Arg → Frame) :
    (RequestProcess.take s tsn frame).table = s.table ∨ ∃ idx reply,
      s.stack tsn = some (s.table.owner idx) ∧ (s.table.slot idx).state = .exec ∧
      (s.table.slot idx).tsn = tsn ∧
      (RequestProcess.take s tsn frame).table = s.table.answer idx reply := by
  rcases take_cases s tsn frame with ⟨htake, -⟩ | ⟨idx, hexec, htsn, htake⟩
  · exact .inl (by rw [htake])
  · refine .inr ⟨idx, _, ?_, hexec, htsn, by rw [htake]⟩
    rw [← htsn]
    exact h.waiting idx hexec

theorem Inv.usedByTsn (h : Inv s) (label : Label Resp) : UsedByTsn c s label := by
  intro tsn next htsn hstep
  cases effect_of_step hstep with
  | reqCb =>
      cases htsn
      exact h.take_usedByTsn _ _
  | simpleDescRsp =>
      cases htsn
      exact h.take_usedByTsn _ _
  | _ => cases htsn

-- The table is full, and the request of this slot, the S_EXEC slot with the
-- smallest allocation counter, makes way for a new one.
def Overrides (c : Command Arg Resp) (s : State Arg) (label : Label Resp) (number : Nat) : Prop :=
  ∃ request idx, label = .process request ∧ c.checkArgSize request.buffer = true ∧
    s.table.resolver.startResolve request.cmd =
      some (idx, s.table.resolver.claim idx request.cmd) ∧
    s.table.owner idx = number ∧ (∀ other, (s.table.slot other).state ≠ .none) ∧
    (s.table.slot idx).state = .exec ∧
    ∀ other, other ≠ idx → (s.table.slot other).state = .exec →
      (s.table.slot idx).old < (s.table.slot other).old

theorem overrides_of_startResolve {request : HostRequest} {idx : Slot} {r : Resolver Arg}
    (hcounted : s.table.resolver.Counted s.table.allocations)
    (hcheck : c.checkArgSize request.buffer = true)
    (hstart : s.table.resolver.startResolve request.cmd = some (idx, r))
    (hbusy : (s.table.slot idx).state ≠ .none) :
    Overrides c s (.process request) (s.table.owner idx) := by
  obtain ⟨rfl, hchoice⟩ := startResolve_eq_some hstart
  rcases hchoice with hnone | holdest
  · exact absurd hnone hbusy
  · refine ⟨request, idx, rfl, hcheck, hstart, rfl, holdest.full, holdest.exec, ?_⟩
    intro other ho hexec
    have hne : (s.table.slot idx).old ≠ (s.table.slot other).old :=
      fun heq => ho (hcounted.old_inj idx other hbusy (holdest.full other) heq).symm
    exact UInt32.lt_of_le_of_ne (holdest.least other hexec) hne

theorem Inv.take_book (h : Inv s) (tsn : UInt8) (frame : Request Arg → Frame) :
    (RequestProcess.take s tsn frame).table.book = s.table.book ∨ ∃ idx,
      Lease.apply s.table.book (.answer idx) =
        some (RequestProcess.take s tsn frame).table.book := by
  rcases h.take_usedByTsn tsn frame with htake | ⟨idx, reply, -, hexec, -, htake⟩
  · exact .inl (by rw [htake])
  · exact .inr ⟨idx, by rw [htake, Table.book_answer reply (by simp [hexec])]⟩

-- What is lost when a new request gets a slot is an overridden one.
theorem Inv.claim_book (h : Inv s) {request : HostRequest} (noSlot : Frame)
    (hcheck : c.checkArgSize request.buffer = true) :
    ∃ action, Lease.apply s.table.book action = some (s.table.claim request noSlot).book ∧
      ∀ number, Lease.Evicts s.table.book number action → s.table.allocations < 2 ^ 32 →
        Overrides c s (.process request) number := by
  cases hstart : s.table.resolver.startResolve request.cmd with
  | none =>
      rw [Table.claim_eq_refuse noSlot hstart]
      exact ⟨.refuse, Table.book_refuse _ _, fun _ hevicts => nomatch hevicts⟩
  | some found =>
      obtain ⟨idx, r⟩ := found
      refine ⟨.lease idx, Table.book_claim noSlot hstart, ?_⟩
      intro number hevicts hcount
      obtain ⟨hbusy, rfl⟩ := Table.holder_eq_some.mp hevicts
      exact overrides_of_startResolve (h.sound.counted hcount) hcheck hstart hbusy

-- In the book of requests a step is no action at all or one that evicts
-- nobody but an overridden request.
def Booked (c : Command Arg Resp) (s : State Arg) (label : Label Resp) (next : State Arg) : Prop :=
  next.table.book = s.table.book ∨ ∃ action,
    Lease.apply s.table.book action = some next.table.book ∧
    ∀ number, Lease.Evicts s.table.book number action → s.table.allocations < 2 ^ 32 →
      Overrides c s label number

theorem Booked.of_answer
    (h : next.table.book = s.table.book ∨ ∃ idx,
      Lease.apply s.table.book (.answer idx) = some next.table.book) : Booked c s label next := by
  rcases h with hsame | ⟨idx, hanswer⟩
  · exact .inl hsame
  · exact .inr ⟨.answer idx, hanswer, fun _ hevicts => nomatch hevicts⟩

theorem booked_step (h : Inv s) (hstep : step c s label = some next) : Booked c s label next := by
  cases effect_of_step hstep with
  | refuse => exact .inr ⟨.refuse, Table.book_refuse _ _, fun _ hevicts => nomatch hevicts⟩
  | claim _ hcheck => exact .inr (h.claim_book _ hcheck)
  | @handOver accepted idx request happ =>
      have hbusy : (s.table.slot idx).state ≠ .none := by simp [h.sound.allocation_of_app happ]
      exact .of_answer ((Table.book_handOver hbusy).imp_right fun hanswer => ⟨idx, hanswer⟩)
  | startFailed => exact .inl rfl
  | start => exact .inl rfl
  | @abort tick idx hrunning =>
      have hbusy : (s.table.slot idx).state ≠ .none := by
        simp [h.sound.allocation_of_running hrunning]
      exact .of_answer (.inr ⟨idx, Table.book_abort _ hbusy⟩)
  | @publish tick idx tsn hrunning =>
      have hbusy : (s.table.slot idx).state ≠ .none := by
        simp [h.sound.allocation_of_running hrunning]
      exact .inl (Table.book_publish tsn tick hbusy)
  | reqCb => exact .of_answer (h.take_book _ _)
  | simpleDescRsp => exact .of_answer (h.take_book _ _)

def InSlot (s : State Arg) (number : Nat) : Prop :=
  ∃ idx, (s.table.slot idx).state ≠ .none ∧ s.table.owner idx = number

def Outstanding (s : State Arg) (idx : Slot) : Prop :=
  idx ∈ s.table.pending ∨ ∃ tsn, s.table.running = some (idx, tsn)

-- process has claimed the slot and is about to pass its callback on.
def HandingOver (s : State Arg) (idx : Slot) : Prop :=
  ∃ request, s.table.app = some (idx, request)

-- What holds of the requests of one command after a run.
structure Lifecycle (c : Command Arg Resp) (zero : Arg) (labels : List (Label Resp))
    (s : State Arg) : Prop where
  callback : ∀ idx, (s.table.slot idx).state = .allocation ↔ Outstanding s idx ∨ HandingOver s idx
  once : ∀ number, (s.table.answers.filter fun answer => answer.request = number).length ≤ 1
  header : ∀ answer ∈ s.table.answers, ∃ request, s.table.requests[answer.request]? = some request ∧
    answer.frame.cmd = { request.cmd with type := .response }
  used : Run.Along (step c) (init zero) (UsedByTsn c) labels
  unanswered : ∀ number < s.table.requests.length,
    (∀ answer ∈ s.table.answers, answer.request ≠ number) →
    InSlot s number ∨ ∃ past label before, past ++ [label] <+: labels ∧
      Run.exec (step c) (init zero) past = some before ∧ Overrides c before label number

theorem mem_callbacks {idx : Slot} :
    idx ∈ s.table.callbacks ↔ Outstanding s idx ∨ HandingOver s idx := by
  simp only [Table.callbacks, List.mem_append, Option.mem_toList, Option.map_eq_some_iff,
    Outstanding, HandingOver, Prod.exists]
  grind

theorem requests_le_of_book {before after : Table Arg UInt8}
    (hbook : after.book = before.book ∨ ∃ action,
      Lease.apply before.book action = some after.book) :
    before.requests.length ≤ after.requests.length := by
  rcases hbook with hsame | ⟨action, happly⟩
  · exact (congrArg Lease.Book.next hsame).ge
  · exact Lease.next_le_apply happly

-- By induction on the run: a request leaves the book only in a step that
-- overrides it.
theorem accounted_of_exec {zero : Arg} {labels : List (Label Resp)}
    (hrun : Run.exec (step c) (init zero) labels = some s)
    (hcount : s.table.requests.length < 2 ^ 32 - 1) {number : Nat}
    (hlt : number < s.table.requests.length) :
    Lease.Accounted s.table.book number ∨ ∃ past label before, past ++ [label] <+: labels ∧
      Run.exec (step c) (init zero) past = some before ∧ Overrides c before label number := by
  induction labels using List.reverseRecOn generalizing s with
  | nil =>
      obtain rfl : init zero = s := by simpa using hrun
      simp [init, Table.init] at hlt
  | append_singleton past label ih =>
      obtain ⟨before, hbefore, hlast⟩ := Run.exec_concat.mp hrun
      have hinv := inv_of_exec hbefore
      have hbook := booked_step hinv hlast
      have hle : before.table.requests.length ≤ s.table.requests.length := by
        apply requests_le_of_book
        rcases hbook with hsame | ⟨action, happly, -⟩
        · exact .inl hsame
        · exact .inr ⟨action, happly⟩
      have ih := ih hbefore (Nat.lt_of_le_of_lt hle hcount)
      have hearlier : number < before.table.requests.length →
          Lease.Accounted before.table.book number ∨ ∃ first next s', first ++ [next] <+:
            past ++ [label] ∧ Run.exec (step c) (init zero) first = some s' ∧
            Overrides c s' next number := by
        intro hold
        rcases ih hold with hacc | ⟨first, next, s', hpre, hfirst, hover⟩
        · exact .inl hacc
        · exact .inr ⟨first, next, s', hpre.trans (List.prefix_append _ _), hfirst, hover⟩
      rcases hbook with hsame | ⟨action, happly, hevicts⟩
      · rw [hsame]
        exact hearlier (Nat.lt_of_lt_of_eq hlt (congrArg Lease.Book.next hsame))
      · rcases Lease.Accounted.apply happly hlt hearlier with hacc | hout | hover
        · exact .inl hacc
        · have halloc := hinv.sound.allocations_le
          exact .inr ⟨past, label, before, List.prefix_refl _, hbefore,
            hevicts number hout (by omega)⟩
        · exact .inr hover

theorem request_lifecycle (c : Command Arg Resp) (zero : Arg) (labels : List (Label Resp))
    (s : State Arg) (hrun : Run.exec (step c) (init zero) labels = some s)
    (hcount : s.table.requests.length < 2 ^ 32 - 1) : Lifecycle c zero labels s where
  callback idx := by
    rw [← (inv_of_exec hrun).sound.mem_iff idx]
    exact mem_callbacks
  once := Table.answers_le_one (inv_of_exec hrun).sound.toAccounts
  header := (inv_of_exec hrun).sound.header
  used past label before _ hbefore := (inv_of_exec hbefore).usedByTsn label
  unanswered number hlt hnone := by
    rcases accounted_of_exec hrun hcount hlt with (hanswered | ⟨idx, hheld⟩) | hoverridden
    · obtain ⟨answer, hanswer, heq⟩ := List.mem_map.mp hanswered
      exact absurd heq (hnone answer hanswer)
    · exact .inl ⟨idx, Table.holder_eq_some.mp hheld⟩
    · exact .inr hoverridden

def openNetwork (tsn : UInt8) : HostRequest :=
  { cmd := { version := 0, type := .request, commandId := 0x020b, tsn },
    buffer := [0xFC, 0xFF, 254, 1] }

-- The first request is answered while the app task has claimed a slot for the second.
def twoRequests : List (Label PermitJoiningResp) :=
  [.process (openNetwork 1), .handOver true, .doRequest 0 7, .publish 100,
    .process (openNetwork 2), .reqCb { tsn := 7, status := 254 }]

def zeroArg : PermitJoiningArg := { destAddr := 0, permitDuration := 0, tcSignificance := 0 }

theorem request_lifecycle_twoRequests :
    ∃ s, Run.exec (step permitJoining) (init zeroArg) twoRequests = some s ∧
      s.table.answers =
        [{ request := 0, frame := { cmd := { (openNetwork 1).cmd with type := .response },
                                    data := [STATUS_CATEGORY_ZDO, 0] } }] ∧
      Lifecycle permitJoining zeroArg twoRequests s :=
  ⟨_, rfl, rfl, request_lifecycle permitJoining zeroArg twoRequests _ rfl (by decide)⟩

end EspCoordinator.RequestProcess
