import EspCoordinator.RequestProcess.Outgoing
import EspCoordinator.RequestProcess.Theorems

namespace EspCoordinator.RequestProcess.Outgoing

open Resolver Requests

section Table

variable {Arg : Type} {t next : Table Arg UInt8} {idx : Slot}
  {check : List UInt8 → Bool} {arg : List UInt8 → Arg} {calls : List Nat}

-- Slots whose callback has not run: about to be handed over, or waiting.
def waiting (t : Table Arg UInt8) : List Slot := (t.app.map Prod.fst).toList ++ t.pending

-- A waiting slot belongs to an accepted request that was not passed on yet, and
-- once its callback is scheduled it holds that request's argument.
structure Carries (check : List UInt8 → Bool) (arg : List UInt8 → Arg) (t : Table Arg UInt8)
    (calls : List Nat) : Prop where
  handing : ∀ idx request, t.app = some (idx, request) → check request.buffer = true
  held : ∀ idx ∈ t.pending, ∃ request, t.requests[t.owner idx]? = some request ∧
    check request.buffer = true ∧ (t.slot idx).arg = arg request.buffer
  fresh : ∀ idx ∈ waiting t, t.owner idx ∉ calls
  once : calls.Nodup
  past : ∀ number ∈ calls, number < t.requests.length

theorem mem_callbacks_of_waiting (h : idx ∈ waiting t) : idx ∈ t.callbacks :=
  List.mem_append_left _ h

theorem mem_waiting_of_pending (h : idx ∈ t.pending) : idx ∈ waiting t :=
  List.mem_append_right _ h

-- The slots that go on waiting are left alone.
theorem Carries.mono (h : Carries check arg t calls) (more : List HostRequest)
    (hrequests : next.requests = t.requests ++ more) (happ : next.app = t.app ∨ next.app = none)
    (hpending : ∀ idx ∈ next.pending, idx ∈ t.pending)
    (howner : ∀ idx ∈ t.callbacks, next.owner idx = t.owner idx)
    (harg : ∀ idx ∈ next.pending, (next.slot idx).arg = (t.slot idx).arg) :
    Carries check arg next calls := by
  have hwaiting (idx : Slot) (hmem : idx ∈ waiting next) : idx ∈ waiting t := by
    rcases List.mem_append.mp hmem with hnext | hnext
    · rcases happ with hsame | hnone
      · exact List.mem_append_left _ (hsame ▸ hnext)
      · rw [hnone] at hnext
        cases hnext
    · exact mem_waiting_of_pending (hpending idx hnext)
  constructor
  · intro idx request hidx
    rcases happ with hsame | hnone
    · exact h.handing idx request (hsame ▸ hidx)
    · rw [hnone] at hidx
      cases hidx
  · intro idx hmem
    have hbefore := hpending idx hmem
    obtain ⟨request, hrequest, hcheck, hslot⟩ := h.held idx hbefore
    refine ⟨request, ?_, hcheck, (harg idx hmem).trans hslot⟩
    rw [hrequests, howner idx (mem_callbacks_of_waiting (mem_waiting_of_pending hbefore))]
    exact Table.getElem?_append_of_some hrequest
  · intro idx hmem
    rw [howner idx (mem_callbacks_of_waiting (hwaiting idx hmem))]
    exact h.fresh idx (hwaiting idx hmem)
  · exact h.once
  · intro number hmem
    rw [hrequests, List.length_append]
    exact Nat.lt_add_right _ (h.past number hmem)

-- One slot is written, but not its argument, and nothing starts to wait.
theorem Carries.write (h : Carries check arg t calls) {req : Request Arg}
    (hslot : next.slot = Function.update t.slot idx req) (harg : req.arg = (t.slot idx).arg)
    (hrequests : next.requests = t.requests) (howner : next.owner = t.owner)
    (happ : next.app = t.app) (hpending : next.pending = t.pending) :
    Carries check arg next calls := by
  refine h.mono [] (by rw [hrequests, List.append_nil]) (.inl happ)
    (fun _ hmem => hpending ▸ hmem) (fun _ _ => by rw [howner]) fun other _ => ?_
  rw [hslot]
  by_cases ho : other = idx
  · subst ho
    rw [Function.update_self, harg]
  · rw [Function.update_of_ne ho]

theorem Carries.refuse (h : Carries check arg t calls) (request : HostRequest) (frame : Frame) :
    Carries check arg (t.refuse request frame) calls :=
  h.mono [request] rfl (.inl rfl) (fun _ hmem => hmem) (fun _ _ => rfl) fun _ _ => rfl

-- The slot that start_resolve gives out was not waiting, and its request is a
-- new one.
theorem Carries.claim (h : Carries check arg t calls) (hsound : t.Sound)
    {request : HostRequest} {noSlot : Frame} (hcheck : check request.buffer = true) :
    Carries check arg (t.claim request noSlot) calls := by
  cases hstart : t.resolver.startResolve request.cmd with
  | none =>
      rw [Table.claim_eq_refuse noSlot hstart]
      exact h.refuse request noSlot
  | some found =>
      obtain ⟨idx, r⟩ := found
      have hne (other : Slot) (hmem : other ∈ t.callbacks) : other ≠ idx := by
        rintro rfl
        exact startResolve_ne_allocation hstart ((hsound.mem_iff other).mp hmem)
      have hkept : Carries check arg { t.claim request noSlot with app := none } calls := by
        refine h.mono [request] ?_ (.inr rfl) ?_ ?_ ?_
        · simp only [Table.claim, hstart]
        · simp only [Table.claim, hstart]
          exact fun _ hmem => hmem
        · intro other hmem
          simp only [Table.owner_claim noSlot hstart, Function.update_of_ne (hne other hmem)]
        · intro other hmem
          have hbefore : other ∈ t.pending := by
            simpa only [Table.claim, hstart] using hmem
          have ho := hne other (mem_callbacks_of_waiting (mem_waiting_of_pending hbefore))
          change ((t.claim request noSlot).slot other).arg = _
          rw [Table.slot_claim noSlot hstart, Function.update_of_ne ho]
      have happ : (t.claim request noSlot).app = some (idx, request) := by
        rw [Table.claim, hstart]
      refine ⟨fun other own hother => ?_, hkept.held, fun other hmem => ?_, hkept.once, hkept.past⟩
      · rw [happ] at hother
        cases hother
        exact hcheck
      · rcases List.mem_append.mp hmem with hnew | hold
        · rw [happ] at hnew
          obtain rfl : other = idx := by simpa using hnew
          rw [Table.owner_claim noSlot hstart, Function.update_self]
          exact fun hcalled => Nat.lt_irrefl _ (h.past _ hcalled)
        · exact hkept.fresh other (mem_waiting_of_pending hold)

-- The rest of process stores the argument, and its slot starts to wait.
theorem Carries.handOver (h : Carries check arg t calls) (hsound : t.Sound)
    {request : HostRequest} (happ : t.app = some (idx, request)) (accepted : Bool)
    (rejected : Frame) :
    Carries check arg (t.handOver idx (arg request.buffer) accepted rejected) calls := by
  have hgone : idx ∉ t.pending := by
    have honce := hsound.once
    simp only [Table.callbacks, happ, Option.map_some, Option.toList_some, List.cons_append,
      List.nodup_cons] at honce
    exact fun hmem => honce.1 (List.mem_append_left _ hmem)
  have hpending (other : Slot)
      (hmem : other ∈ (t.handOver idx (arg request.buffer) accepted rejected).pending) :
      other ∈ t.pending ∨ other = idx := by
    cases accepted with
    | true => exact (List.mem_append.mp hmem).imp_right List.mem_singleton.mp
    | false => exact .inl hmem
  have hrequests : (t.handOver idx (arg request.buffer) accepted rejected).requests =
      t.requests := by
    cases accepted <;> rfl
  have hnone : (t.handOver idx (arg request.buffer) accepted rejected).app = none := by
    cases accepted <;> rfl
  constructor
  · intro other own hother
    rw [hnone] at hother
    cases hother
  · intro other hmem
    rw [hrequests, Table.slot_handOver, Table.owner_handOver]
    rcases hpending other hmem with hold | rfl
    · have ho : other ≠ idx := fun heq => hgone (heq ▸ hold)
      rw [Function.update_of_ne ho]
      exact h.held other hold
    · rw [Function.update_self]
      exact ⟨request, hsound.handing other request happ, h.handing other request happ, rfl⟩
  · intro other hmem
    rw [Table.owner_handOver]
    rcases List.mem_append.mp hmem with hnew | hold
    · rw [hnone] at hnew
      cases hnew
    · rcases hpending other hold with hbefore | rfl
      · exact h.fresh other (mem_waiting_of_pending hbefore)
      · exact h.fresh other (by simp [waiting, happ])
  · exact h.once
  · rw [hrequests]
    exact h.past

-- The callback passes its request on. No other slot waits for the same one.
theorem Carries.start (h : Carries check arg t calls) (hsound : t.Sound)
    (hpending : idx ∈ t.pending) (tsn : UInt8) :
    Carries check arg (t.start idx tsn) (calls ++ [t.owner idx]) := by
  have hwaiting (other : Slot) (hmem : other ∈ waiting (t.start idx tsn)) :
      other ∈ waiting t ∧ other ≠ idx := by
    have hparts : (waiting t).Nodup := (List.nodup_append.mp hsound.once).1
    rcases List.mem_append.mp hmem with happ | herase
    · refine ⟨List.mem_append_left _ happ, ?_⟩
      rintro rfl
      exact (List.nodup_append.mp hparts).2.2 other happ other hpending rfl
    · have hnodup := (List.nodup_append.mp hparts).2.1
      obtain ⟨ho, hold⟩ := hnodup.mem_erase_iff.mp herase
      exact ⟨mem_waiting_of_pending hold, ho⟩
  have hbusy (other : Slot) (hmem : other ∈ waiting t) :
      t.book.holder other = some (t.owner other) := by
    have halloc := (hsound.mem_iff other).mp (mem_callbacks_of_waiting hmem)
    exact Table.holder_eq_some.mpr ⟨by simp [halloc], rfl⟩
  constructor
  · exact h.handing
  · exact fun other hmem => h.held other (List.mem_of_mem_erase hmem)
  · intro other hmem
    obtain ⟨hold, ho⟩ := hwaiting other hmem
    rw [Table.owner_start, List.mem_append, List.mem_singleton]
    rintro (hcalled | hsame)
    · exact h.fresh other hold hcalled
    · exact ho (hsound.consistent.held_once other idx _ (hbusy other hold)
        (hsame ▸ hbusy idx (mem_waiting_of_pending hpending)))
  · rw [← List.concat_eq_append]
    exact h.once.concat (h.fresh idx (mem_waiting_of_pending hpending))
  · intro number hmem
    rcases List.mem_append.mp hmem with hcalled | hnew
    · exact h.past number hcalled
    · obtain rfl := List.mem_singleton.mp hnew
      obtain ⟨request, hrequest, -⟩ := h.held idx hpending
      exact (List.getElem?_eq_some_iff.mp hrequest).1

-- A request that is not accepted has got its answer.
def Refused (check : List UInt8 → Bool) (t : Table Arg UInt8) : Prop :=
  ∀ number request, t.requests[number]? = some request → check request.buffer = false →
    { request := number,
      frame := reportFailed STATUS_CATEGORY_ZDO request.cmd GENERIC_INVALID_PARAMETER } ∈ t.answers

theorem Refused.mono (h : Refused check t) (hrequests : next.requests = t.requests)
    (hanswers : t.answers ⊆ next.answers) : Refused check next := by
  intro number request hrequest hcheck
  rw [hrequests] at hrequest
  exact hanswers (h number request hrequest hcheck)

theorem request_of_append {requests : List HostRequest} {request own : HostRequest} {number : Nat}
    (h : (requests ++ [request])[number]? = some own) :
    requests[number]? = some own ∨ number = requests.length ∧ own = request := by
  rw [List.getElem?_append, List.getElem?_singleton] at h
  split_ifs at h with hlt hlast
  · exact .inl h
  · exact .inr ⟨by omega, (Option.some.inj h).symm⟩

theorem requests_claim (t : Table Arg UInt8) (request : HostRequest) (noSlot : Frame) :
    (t.claim request noSlot).requests = t.requests ++ [request] := by
  unfold Table.claim
  split <;> rfl

theorem Refused.claim (h : Refused check t) {request : HostRequest} (noSlot : Frame)
    (hcheck : check request.buffer = true) : Refused check (t.claim request noSlot) := by
  have hanswers : t.answers ⊆ (t.claim request noSlot).answers := by
    unfold Table.claim
    split
    · exact List.subset_append_left _ _
    · exact fun _ hmem => hmem
  intro number own hown hfail
  rw [requests_claim] at hown
  rcases request_of_append hown with hold | ⟨-, rfl⟩
  · exact hanswers (h number own hold hfail)
  · exact absurd (hcheck.symm.trans hfail) (by decide)

theorem Refused.refuse (h : Refused check t) (request : HostRequest) :
    Refused check (t.refuse request
      (reportFailed STATUS_CATEGORY_ZDO request.cmd GENERIC_INVALID_PARAMETER)) := by
  intro number own hown hfail
  rw [Table.answers_refuse, List.mem_append]
  rcases request_of_append hown with hold | ⟨rfl, rfl⟩
  · exact .inl (h number own hold hfail)
  · exact .inr (List.mem_singleton_self _)

end Table

section Run

variable {Resp : Type} {m : Member} {c : Command m.Arg Resp} {t : Traced m} {next : State m.Arg}

structure Faithful (m : Member) (c : Command m.Arg Resp) (t : Traced m) : Prop where
  inv : Inv t.state
  carries : Carries c.checkArgSize c.arg t.state.table (t.calls.map Prod.fst)
  refused : Refused c.checkArgSize t.state.table
  own : ∀ call ∈ t.calls, ∃ request, t.state.table.requests[call.1]? = some request ∧
    c.checkArgSize request.buffer = true ∧ call.2 = m.formatRequest (c.arg request.buffer)

theorem faithful_init (m : Member) (c : Command m.Arg Resp) (zero : m.Arg) :
    Faithful m c { state := init zero, calls := [] } where
  inv := inv_init zero
  carries :=
    { handing := fun _ _ happ => nomatch happ
      held := nofun
      fresh := nofun
      once := List.nodup_nil
      past := nofun }
  refused := nofun
  own := nofun

-- A step without a call
theorem Faithful.quiet (h : Faithful m c t) (more : List HostRequest) (hinv : Inv next)
    (hcarries : Carries c.checkArgSize c.arg next.table (t.calls.map Prod.fst))
    (hrefused : Refused c.checkArgSize next.table)
    (hrequests : next.table.requests = t.state.table.requests ++ more) :
    Faithful m c { state := next, calls := t.calls ++ [] } where
  inv := hinv
  carries := by
    rw [List.append_nil]
    exact hcarries
  refused := hrefused
  own call hcall := by
    rw [List.append_nil] at hcall
    obtain ⟨request, hrequest, hchecked⟩ := h.own call hcall
    refine ⟨request, ?_, hchecked⟩
    change next.table.requests[call.1]? = some request
    rw [hrequests]
    exact Table.getElem?_append_of_some hrequest

-- A step that answers the request of one slot, or none
theorem Faithful.take (h : Faithful m c t) (hinv : Inv next) {tsn : UInt8}
    {frame : Request m.Arg → Frame}
    (htable : next.table = (RequestProcess.take t.state tsn frame).table) :
    Faithful m c { state := next, calls := t.calls ++ [] } := by
  rcases take_cases t.state tsn frame with ⟨htake, -⟩ | ⟨idx, -, -, htake⟩
  · rw [htake] at htable
    exact h.quiet [] hinv (htable ▸ h.carries) (htable ▸ h.refused) (by simp [htable])
  · rw [htake] at htable
    refine h.quiet [] hinv ?_ ?_ (by simp [htable, Table.answer])
    · rw [htable]
      exact h.carries.write (Table.slot_answer idx _) rfl rfl rfl rfl rfl
    · rw [htable]
      exact h.refused.mono rfl (List.subset_append_left _ _)

theorem Faithful.start (h : Faithful m c t) {idx : Slot} {tsn : UInt8} (hinv : Inv next)
    (hpending : idx ∈ t.state.table.pending) (htable : next.table = t.state.table.start idx tsn) :
    Faithful m c
      { state := next
        calls := t.calls ++ [(t.state.table.owner idx,
          m.formatRequest (t.state.table.slot idx).arg)] } where
  inv := hinv
  carries := by
    rw [List.map_append, htable]
    exact h.carries.start h.inv.sound hpending tsn
  refused := by
    rw [htable]
    exact h.refused.mono rfl fun _ hmem => hmem
  own call hcall := by
    have hrequests : next.table.requests = t.state.table.requests := by rw [htable]; rfl
    rw [hrequests]
    rcases List.mem_append.mp hcall with hold | hnew
    · exact h.own call hold
    · obtain rfl := List.mem_singleton.mp hnew
      obtain ⟨request, hrequest, hcheck, harg⟩ := h.carries.held idx hpending
      exact ⟨request, hrequest, hcheck, by rw [harg]⟩

theorem faithful_step (h : Faithful m c t) (label : Label Resp) :
    Faithful m c (step m c t label) := by
  unfold step
  cases hstep : RequestProcess.step c t.state label with
  | none => exact h
  | some next =>
      have hinv := inv_step h.inv hstep
      cases effect_of_step hstep with
      | @refuse request =>
          exact h.quiet [request] hinv (h.carries.refuse request _) (h.refused.refuse request) rfl
      | @claim request happ hcheck =>
          exact h.quiet [request] hinv (h.carries.claim h.inv.sound hcheck)
            (h.refused.claim _ hcheck) (requests_claim _ _ _)
      | @handOver accepted idx request happ =>
          refine h.quiet [] hinv (h.carries.handOver h.inv.sound happ accepted _) ?_ ?_
          · refine h.refused.mono ?_ ?_
            · cases accepted <;> rfl
            · cases accepted with
              | true => exact fun _ hmem => hmem
              | false => exact List.subset_append_left _ _
          · cases accepted <;> exact (List.append_nil _).symm
      | startFailed hpending => exact h.start hinv hpending rfl
      | start hpending => exact h.start hinv hpending rfl
      | @abort tick idx =>
          refine h.quiet [] hinv (h.carries.write (Table.slot_abort idx _) rfl rfl rfl rfl rfl) ?_
            (List.append_nil _).symm
          exact h.refused.mono rfl (List.subset_append_left _ _)
      | @publish tick idx tsn =>
          refine h.quiet [] hinv
            (h.carries.write (Table.slot_publish idx tsn tick) rfl rfl rfl rfl rfl) ?_
            (List.append_nil _).symm
          exact h.refused.mono rfl fun _ hmem => hmem
      | reqCb => exact h.take hinv rfl
      | simpleDescRsp => exact h.take hinv rfl

end Run

-- The stack is called at most once for each request of the family, with what
-- the host has put into that request and nothing of another one or of what lies
-- in memory behind it. A request that is too short is answered and not passed on.
theorem zdo_requests_passed_on {Resp : Type} (sizes : Sizes) (command : Device.Zdo)
    (behind : List UInt8 → List UInt8) (c : Command (grammar sizes command).Arg Resp)
    (zero : (grammar sizes command).Arg) (labels : List (Label Resp)) :
    let g := grammar sizes command
    let t := run g.toMember behind c zero labels
    (t.calls.map Prod.fst).Nodup ∧
      (∀ call ∈ t.calls, ∃ request host extra, t.state.table.requests[call.1]? = some request ∧
        request.buffer = g.wire host ++ extra ∧ call.2 = g.meant host) ∧
      ∀ number request, t.state.table.requests[number]? = some request →
        (¬∃ host extra, request.buffer = g.wire host ++ extra) →
          { request := number,
            frame := reportFailed STATUS_CATEGORY_ZDO request.cmd GENERIC_INVALID_PARAMETER } ∈
              t.state.table.answers := by
  intro g t
  have h : Faithful g.toMember (g.command behind c) t :=
    Run.foldl_history (step g.toMember (g.command behind c)) _
      (fun _ t => Faithful g.toMember (g.command behind c) t) (faithful_init _ _ zero)
      (fun _ _ label h => faithful_step h label) labels
  refine ⟨h.carries.once, fun call hcall => ?_, fun number request hrequest hnone => ?_⟩
  · obtain ⟨request, hrequest, hcheck, hcall⟩ := h.own call hcall
    obtain ⟨host, extra, hbuffer⟩ := (g.check_iff request.buffer).mp hcheck
    refine ⟨request, host, extra, hrequest, hbuffer, hcall.trans ?_⟩
    change g.formatRequest (g.cast (request.buffer ++ behind request.buffer)) = g.meant host
    rw [hbuffer, List.append_assoc, g.format_eq]
  · refine h.refused number request hrequest (Bool.eq_false_iff.mpr fun hcheck => hnone ?_)
    exact (g.check_iff request.buffer).mp hcheck

end EspCoordinator.RequestProcess.Outgoing
