import EspCoordinator.Requests
import EspCoordinator.Resolver.Lemmas

namespace EspCoordinator.Requests.Table

open Resolver

variable {Arg Ret : Type} {t : Table Arg Ret}

@[simp] theorem slot_answer (idx : Slot) (frame : Frame) :
    (t.answer idx frame).slot =
      Function.update t.slot idx { t.slot idx with state := .none } := rfl

@[simp] theorem owner_answer (idx : Slot) (frame : Frame) : (t.answer idx frame).owner = t.owner :=
  rfl

@[simp] theorem answers_answer (idx : Slot) (frame : Frame) :
    (t.answer idx frame).answers = t.answers ++ [{ request := t.owner idx, frame }] := rfl

@[simp] theorem requests_refuse (request : HostRequest) (frame : Frame) :
    (t.refuse request frame).requests = t.requests ++ [request] := rfl

@[simp] theorem answers_refuse (request : HostRequest) (frame : Frame) :
    (t.refuse request frame).answers =
      t.answers ++ [{ request := t.requests.length, frame }] := rfl

@[simp] theorem slot_store (idx : Slot) (arg : Arg) :
    (t.store idx arg).slot =
      Function.update t.slot idx { t.slot idx with arg, state := .allocation } := rfl

@[simp] theorem slot_noteTsn (idx : Slot) (tsn : UInt8) :
    (t.noteTsn idx tsn).slot = Function.update t.slot idx { t.slot idx with tsn } := rfl

@[simp] theorem slot_start (idx : Slot) (ret : Ret) : (t.start idx ret).slot = t.slot := rfl

@[simp] theorem slot_publish (idx : Slot) (tsn : UInt8) (tick : UInt32) :
    (t.publish idx tsn tick).slot =
      Function.update t.slot idx { t.slot idx with tsn, tExec := tick, state := .exec } := rfl

@[simp] theorem owner_start (idx : Slot) (ret : Ret) : (t.start idx ret).owner = t.owner := rfl

@[simp] theorem owner_publish (idx : Slot) (tsn : UInt8) (tick : UInt32) :
    (t.publish idx tsn tick).owner = t.owner := rfl

@[simp] theorem slot_abort (idx : Slot) (frame : Frame) :
    (t.abort idx frame).slot = Function.update t.slot idx { t.slot idx with state := .none } :=
  rfl

@[simp] theorem owner_handOver (idx : Slot) (arg : Arg) (accepted : Bool) (rejected : Frame) :
    (t.handOver idx arg accepted rejected).owner = t.owner := by
  cases accepted <;> rfl

@[simp] theorem running_handOver (idx : Slot) (arg : Arg) (accepted : Bool) (rejected : Frame) :
    (t.handOver idx arg accepted rejected).running = t.running := by
  cases accepted <;> rfl

@[simp] theorem allocations_handOver (idx : Slot) (arg : Arg) (accepted : Bool)
    (rejected : Frame) : (t.handOver idx arg accepted rejected).allocations = t.allocations := by
  cases accepted <;> rfl

theorem allocations_le_claim (request : HostRequest) (noSlot : Frame) :
    t.allocations ≤ (t.claim request noSlot).allocations := by
  unfold claim
  split
  · exact Nat.le_refl _
  · exact Nat.le_succ _

-- The slot is left with its callback or without its request.
theorem slot_handOver (idx : Slot) (arg : Arg) (accepted : Bool) (rejected : Frame) :
    (t.handOver idx arg accepted rejected).slot =
      Function.update t.slot idx { t.slot idx with
        arg, state := if accepted then .allocation else .none } := by
  cases accepted with
  | true => rfl
  | false =>
      funext other
      by_cases ho : other = idx
      · subst ho
        simp [handOver, slot, store, answer]
      · simp [handOver, slot, store, answer, ho]

theorem claim_eq_refuse {request : HostRequest} (noSlot : Frame)
    (h : t.resolver.startResolve request.cmd = none) :
    t.claim request noSlot = t.refuse request noSlot := by
  rw [claim, h]

theorem slot_claim {request : HostRequest} (noSlot : Frame) {idx : Slot} {r : Resolver Arg}
    (h : t.resolver.startResolve request.cmd = some (idx, r)) :
    (t.claim request noSlot).slot = Function.update t.slot idx
      { t.slot idx with
        cmd := request.cmd, old := t.resolver.oldCntr, state := .allocation } := by
  obtain ⟨rfl, -⟩ := startResolve_eq_some h
  rw [claim, h]
  rfl

theorem owner_claim {request : HostRequest} (noSlot : Frame) {idx : Slot} {r : Resolver Arg}
    (h : t.resolver.startResolve request.cmd = some (idx, r)) :
    (t.claim request noSlot).owner = Function.update t.owner idx t.requests.length := by
  rw [claim, h]

@[simp] theorem running_claim (request : HostRequest) (noSlot : Frame) :
    (t.claim request noSlot).running = t.running := by
  unfold claim
  split <;> rfl

-- Every request is booked once, a busy slot carries the header of the request
-- it was claimed for, and so does every frame sent back.
structure Accounts (t : Table Arg Ret) : Prop where
  consistent : Lease.Consistent t.book
  carries : ∀ idx, (t.slot idx).state ≠ .none →
    ∃ request, t.requests[t.owner idx]? = some request ∧ (t.slot idx).cmd = request.cmd
  header : ∀ answer ∈ t.answers, ∃ request, t.requests[answer.request]? = some request ∧
    answer.frame.cmd = request.cmd.reply
  handing : ∀ idx request, t.app = some (idx, request) → t.requests[t.owner idx]? = some request

-- A slot is S_ALLOCATION as long as its callback is owed.
structure Flight (t : Table Arg Ret) : Prop where
  once : t.callbacks.Nodup
  mem_iff : ∀ idx, idx ∈ t.callbacks ↔ (t.slot idx).state = .allocation

-- As long as the allocation counter has not come around, it tells the busy
-- slots apart.
structure Numbered (t : Table Arg Ret) : Prop where
  counted : t.allocations < 2 ^ 32 → t.resolver.Counted t.allocations
  allocations_le : t.allocations ≤ t.requests.length

structure Sound (t : Table Arg Ret) : Prop extends Accounts t, Flight t, Numbered t

theorem holder_eq_some {idx : Slot} {number : Nat} :
    t.book.holder idx = some number ↔ (t.slot idx).state ≠ .none ∧ t.owner idx = number := by
  simp only [book]
  by_cases h : (t.slot idx).state = .none <;> simp [h]

theorem getElem?_append_of_some {requests more : List HostRequest} {number : Nat}
    {request : HostRequest} (h : requests[number]? = some request) :
    (requests ++ more)[number]? = some request := by
  obtain ⟨hlt, -⟩ := List.getElem?_eq_some_iff.mp h
  rw [List.getElem?_append_left hlt, h]

theorem ready_iff {idx : Slot} : t.ready idx = true ↔ idx ∈ t.pending ∧ t.running = none := by
  simp [ready]

theorem book_refuse (request : HostRequest) (frame : Frame) :
    Lease.apply t.book .refuse = some (t.refuse request frame).book := by
  rw [Lease.apply, Option.some.injEq]
  apply Lease.Book.ext
  · simp [book]
  · rfl
  · simp [book]

theorem book_claim {request : HostRequest} (noSlot : Frame) {idx : Slot} {r : Resolver Arg}
    (h : t.resolver.startResolve request.cmd = some (idx, r)) :
    Lease.apply t.book (.lease idx) = some (t.claim request noSlot).book := by
  rw [Lease.apply, Option.some.injEq]
  apply Lease.Book.ext
  · simp [book, claim, h]
  · funext other
    simp only [book, slot_claim noSlot h]
    by_cases ho : other = idx
    · subst ho
      simp [claim, h]
    · simp [claim, h, ho]
  · simp [book, claim, h]

theorem book_answer {idx : Slot} (frame : Frame) (h : (t.slot idx).state ≠ .none) :
    Lease.apply t.book (.answer idx) = some (t.answer idx frame).book := by
  rw [Lease.apply, holder_eq_some.mpr ⟨h, rfl⟩, Option.map_some, Option.some.injEq]
  apply Lease.Book.ext
  · rfl
  · funext other
    by_cases ho : other = idx
    · subst ho
      simp [book]
    · simp [book, ho]
  · simp [book]

theorem book_congr (next : Table Arg Ret) (hrequests : next.requests = t.requests)
    (howner : next.owner = t.owner) (hanswers : next.answers = t.answers)
    (hstate : ∀ idx, (next.slot idx).state = .none ↔ (t.slot idx).state = .none) :
    next.book = t.book := by
  apply Lease.Book.ext
  · simp [book, hrequests]
  · funext idx
    simp [book, howner, hstate idx]
  · simp [book, hanswers]

-- When one slot is written, the states of all slots change as that one does.
theorem state_iff_of_update {next : Table Arg Ret} {idx : Slot} {req : Request Arg}
    (hslot : next.slot = Function.update t.slot idx req) (p : SlotState → Prop)
    (h : p req.state ↔ p (t.slot idx).state) (other : Slot) :
    p (next.slot other).state ↔ p (t.slot other).state := by
  rw [hslot]
  by_cases ho : other = idx
  · subst ho
    rw [Function.update_self, h]
  · rw [Function.update_of_ne ho]

theorem book_store {idx : Slot} (arg : Arg) (h : (t.slot idx).state ≠ .none) :
    (t.store idx arg).book = t.book := by
  refine book_congr (t.store idx arg) rfl rfl rfl ?_
  exact state_iff_of_update (slot_store idx arg) (· = .none) (by simp [h])

theorem book_handOver {idx : Slot} {arg : Arg} {accepted : Bool} {rejected : Frame}
    (h : (t.slot idx).state ≠ .none) :
    (t.handOver idx arg accepted rejected).book = t.book ∨
      Lease.apply t.book (.answer idx) = some (t.handOver idx arg accepted rejected).book := by
  have hstore := book_store arg h
  cases accepted with
  | true => exact .inl hstore
  | false =>
      right
      rw [← hstore]
      exact book_answer (t := { t.store idx arg with app := none }) rejected
        (by simp [slot, Table.store])

theorem book_abort {idx : Slot} (frame : Frame) (h : (t.slot idx).state ≠ .none) :
    Lease.apply t.book (.answer idx) = some (t.abort idx frame).book :=
  book_answer (t := { t with running := none }) frame h

theorem book_publish {idx : Slot} (tsn : UInt8) (tick : UInt32) (h : (t.slot idx).state ≠ .none) :
    (t.publish idx tsn tick).book = t.book := by
  refine book_congr (t.publish idx tsn tick) rfl rfl rfl ?_
  exact state_iff_of_update (slot_publish idx tsn tick) (· = .none) (by simp [h])

-- The slots that stay busy keep their request.
theorem Accounts.of_busy (h : t.Accounts) (next : Table Arg Ret)
    (hrequests : next.requests = t.requests)
    (howner : next.owner = t.owner) (hanswers : next.answers = t.answers)
    (happ : next.app = t.app ∨ next.app = none) (hbusy : ∀ idx, (next.slot idx).state ≠ .none →
      (t.slot idx).state ≠ .none ∧ (next.slot idx).cmd = (t.slot idx).cmd) : next.Accounts := by
  constructor
  · have hbook : next.book = { t.book with holder := next.book.holder } := by
      simp [book, hrequests, hanswers]
    rw [hbook]
    apply h.consistent.shrink
    intro idx number hheld
    obtain ⟨hidx, rfl⟩ := holder_eq_some.mp hheld
    exact holder_eq_some.mpr ⟨(hbusy idx hidx).1, by rw [howner]⟩
  · intro idx hidx
    obtain ⟨hbefore, hcmd⟩ := hbusy idx hidx
    rw [hrequests, howner, hcmd]
    exact h.carries idx hbefore
  · rw [hrequests, hanswers]
    exact h.header
  · intro idx request hidx
    rw [hrequests, howner]
    rcases happ with happ | happ
    · exact h.handing idx request (happ ▸ hidx)
    · simp [happ] at hidx

theorem busy_of_update {next : Table Arg Ret} {idx : Slot} {req : Request Arg}
    (hslot : next.slot = Function.update t.slot idx req) (hbusy : (t.slot idx).state ≠ .none)
    (hcmd : req.cmd = (t.slot idx).cmd) (other : Slot) (hother : (next.slot other).state ≠ .none) :
    (t.slot other).state ≠ .none ∧ (next.slot other).cmd = (t.slot other).cmd := by
  rw [hslot] at hother ⊢
  by_cases ho : other = idx
  · subst ho
    rw [Function.update_self]
    exact ⟨hbusy, hcmd⟩
  · rw [Function.update_of_ne ho] at hother ⊢
    exact ⟨hother, rfl⟩

theorem Accounts.refuse (h : t.Accounts) {request : HostRequest} {frame : Frame}
    (hframe : frame.cmd = request.cmd.reply) : (t.refuse request frame).Accounts := by
  constructor
  · exact h.consistent.apply (book_refuse request frame)
  · intro idx hidx
    obtain ⟨own, hown, hcmd⟩ := h.carries idx hidx
    exact ⟨own, getElem?_append_of_some hown, hcmd⟩
  · intro answer hanswer
    rcases List.mem_append.mp hanswer with hanswer | hanswer
    · obtain ⟨own, hown, hcmd⟩ := h.header answer hanswer
      exact ⟨own, getElem?_append_of_some hown, hcmd⟩
    · obtain rfl := List.mem_singleton.mp hanswer
      exact ⟨request, by simp [Table.refuse], hframe⟩
  · intro idx own hidx
    exact getElem?_append_of_some (h.handing idx own hidx)

theorem Accounts.answer (h : t.Accounts) {idx : Slot} {frame : Frame}
    (hbusy : (t.slot idx).state ≠ .none) (hframe : frame.cmd = (t.slot idx).cmd.reply) :
    (t.answer idx frame).Accounts := by
  constructor
  · exact h.consistent.apply (book_answer frame hbusy)
  · intro other hother
    by_cases ho : other = idx
    · subst ho
      simp [Table.answer, slot] at hother
    · simp only [Table.answer, slot, free_storage, Function.update_of_ne ho] at hother ⊢
      exact h.carries other hother
  · intro answer hanswer
    rcases List.mem_append.mp hanswer with hanswer | hanswer
    · exact h.header answer hanswer
    · obtain rfl := List.mem_singleton.mp hanswer
      obtain ⟨request, hown, hcmd⟩ := h.carries idx hbusy
      exact ⟨request, hown, by rw [hframe, hcmd]⟩
  · exact h.handing

theorem Accounts.claim (h : t.Accounts) {request : HostRequest} {noSlot : Frame}
    (hframe : noSlot.cmd = request.cmd.reply) : (t.claim request noSlot).Accounts := by
  cases hstart : t.resolver.startResolve request.cmd with
  | none =>
      rw [Table.claim, hstart]
      exact h.refuse hframe
  | some found =>
      obtain ⟨idx, r⟩ := found
      have hcons := h.consistent.apply (book_claim noSlot hstart)
      obtain ⟨rfl, -⟩ := startResolve_eq_some hstart
      constructor
      · exact hcons
      · intro other hother
        by_cases ho : other = idx
        · subst ho
          exact ⟨request, by simp [Table.claim, hstart], by simp [Table.claim, hstart, slot]⟩
        · simp only [Table.claim, hstart, slot, claim_storage, Function.update_of_ne ho] at hother ⊢
          obtain ⟨own, hown, hcmd⟩ := h.carries other hother
          exact ⟨own, getElem?_append_of_some hown, hcmd⟩
      · simp only [Table.claim, hstart]
        intro answer hanswer
        obtain ⟨own, hown, hcmd⟩ := h.header answer hanswer
        exact ⟨own, getElem?_append_of_some hown, hcmd⟩
      · simp only [Table.claim, hstart, Option.some.injEq, Prod.mk.injEq]
        rintro other own ⟨rfl, rfl⟩
        simp

theorem answers_le_one (h : t.Accounts) (number : Nat) :
    (t.answers.filter fun answer => answer.request = number).length ≤ 1 := by
  have hcount := List.nodup_iff_count_le_one.mp h.consistent.answered_once number
  rw [← List.countP_eq_length_filter]
  simpa [book, List.count, List.countP_map, Function.comp_def, beq_eq_decide] using hcount

-- A callback moves on, and no slot enters or leaves S_ALLOCATION.
theorem Flight.move (h : t.Flight) (next : Table Arg Ret)
    (hperm : next.callbacks.Perm t.callbacks)
    (hstate : ∀ idx, (next.slot idx).state = .allocation ↔ (t.slot idx).state = .allocation) :
    next.Flight where
  once := hperm.nodup_iff.mpr h.once
  mem_iff idx := by rw [hperm.mem_iff, h.mem_iff, hstate]

theorem Flight.enter (h : t.Flight) (next : Table Arg Ret) (idx : Slot)
    (hperm : next.callbacks.Perm (idx :: t.callbacks))
    (hbefore : (t.slot idx).state ≠ .allocation) (hafter : (next.slot idx).state = .allocation)
    (hothers : ∀ other, other ≠ idx → next.slot other = t.slot other) : next.Flight where
  once := by
    rw [hperm.nodup_iff, List.nodup_cons, h.mem_iff]
    exact ⟨hbefore, h.once⟩
  mem_iff other := by
    rw [hperm.mem_iff, List.mem_cons, h.mem_iff]
    by_cases ho : other = idx
    · subst ho
      simp [hafter]
    · simp [ho, hothers other ho]

theorem Flight.leave (h : t.Flight) (next : Table Arg Ret) (idx : Slot)
    (hperm : t.callbacks.Perm (idx :: next.callbacks))
    (hafter : (next.slot idx).state ≠ .allocation)
    (hothers : ∀ other, other ≠ idx → next.slot other = t.slot other) : next.Flight := by
  have hnodup := hperm.nodup_iff.mp h.once
  obtain ⟨hgone, honce⟩ := List.nodup_cons.mp hnodup
  refine ⟨honce, fun other => ?_⟩
  by_cases ho : other = idx
  · subst ho
    exact ⟨fun hmem => absurd hmem hgone, fun hstate => absurd hstate hafter⟩
  · rw [hothers other ho, ← h.mem_iff, hperm.mem_iff, List.mem_cons]
    simp [ho]

theorem Numbered.set (h : t.Numbered) (next : Table Arg Ret) (idx : Slot) (req : Request Arg)
    (hold : req.old = (t.slot idx).old)
    (hstate : req.state ≠ .none → (t.slot idx).state ≠ .none)
    (hresolver : next.resolver = t.resolver.set idx req)
    (hallocations : next.allocations = t.allocations) (hrequests : next.requests = t.requests) :
    next.Numbered where
  counted hlt := by
    rw [hresolver, hallocations]
    exact (h.counted (hallocations ▸ hlt)).set hold hstate
  allocations_le := by
    rw [hallocations, hrequests]
    exact h.allocations_le

theorem Numbered.answer (h : t.Numbered) (idx : Slot) (frame : Frame) :
    (t.answer idx frame).Numbered :=
  h.set _ idx { t.slot idx with state := .none } rfl (fun hne => absurd rfl hne) rfl rfl rfl

theorem Numbered.refuse (h : t.Numbered) (request : HostRequest) (frame : Frame) :
    (t.refuse request frame).Numbered where
  counted := h.counted
  allocations_le := by
    have := h.allocations_le
    simp only [Table.refuse, List.length_append, List.length_singleton]
    omega

theorem Numbered.claim (h : t.Numbered) (request : HostRequest) (noSlot : Frame) :
    (t.claim request noSlot).Numbered := by
  cases hstart : t.resolver.startResolve request.cmd with
  | none =>
      rw [claim_eq_refuse noSlot hstart]
      exact h.refuse request noSlot
  | some found =>
      obtain ⟨idx, r⟩ := found
      obtain ⟨rfl, -⟩ := startResolve_eq_some hstart
      simp only [Table.claim, hstart]
      refine ⟨fun hlt => ?_, ?_⟩
      · exact (h.counted (Nat.lt_of_succ_lt hlt)).claim hlt idx request.cmd
      · simpa using h.allocations_le

theorem sound_init (zero : Arg) : (init zero : Table Arg Ret).Sound where
  consistent := by
    have hbook : (init zero : Table Arg Ret).book = Lease.empty := by
      simp [book, init, slot, Lease.empty]
    exact hbook ▸ Lease.consistent_empty
  carries idx hidx := absurd (init_state zero idx) hidx
  header := by simp [init]
  handing := by simp [init]
  once := by simp [callbacks, init]
  mem_iff idx := by simp [callbacks, init, slot]
  counted _ := counted_init zero
  allocations_le := Nat.le_refl _

theorem Sound.refuse (h : t.Sound) {request : HostRequest} {frame : Frame}
    (hframe : frame.cmd = request.cmd.reply) : (t.refuse request frame).Sound where
  toAccounts := h.toAccounts.refuse hframe
  toFlight := h.toFlight.move _ (List.Perm.refl _) fun _ => Iff.rfl
  toNumbered := h.toNumbered.refuse request frame

theorem Sound.claim (h : t.Sound) {request : HostRequest} {noSlot : Frame} (happ : t.app = none)
    (hframe : noSlot.cmd = request.cmd.reply) : (t.claim request noSlot).Sound where
  toAccounts := h.toAccounts.claim hframe
  toNumbered := h.toNumbered.claim request noSlot
  toFlight := by
    cases hstart : t.resolver.startResolve request.cmd with
    | none =>
        rw [Table.claim, hstart]
        exact (h.refuse hframe).toFlight
    | some found =>
        obtain ⟨idx, r⟩ := found
        have hbefore := startResolve_ne_allocation hstart
        obtain ⟨rfl, -⟩ := startResolve_eq_some hstart
        apply h.toFlight.enter _ idx
        · simp [callbacks, Table.claim, hstart, happ]
        · exact hbefore
        · simp [Table.claim, hstart, slot]
        · intro other ho
          simp [Table.claim, hstart, slot, ho]

theorem Sound.reply (h : t.Sound) {idx : Slot} {frame : Frame} (hexec : (t.slot idx).state = .exec)
    (hframe : frame.cmd = (t.slot idx).cmd.reply) : (t.answer idx frame).Sound where
  toAccounts := h.toAccounts.answer (by simp [hexec]) hframe
  toNumbered := h.toNumbered.answer idx frame
  toFlight := by
    apply h.toFlight.move (t.answer idx frame) (List.Perm.refl _)
    exact state_iff_of_update (slot_answer idx frame) (· = .allocation) (by simp [hexec])

theorem Sound.allocation_of_app (h : t.Sound) {idx : Slot} {request : HostRequest}
    (happ : t.app = some (idx, request)) : (t.slot idx).state = .allocation :=
  (h.mem_iff idx).mp (by simp [callbacks, happ])

theorem Sound.allocation_of_running (h : t.Sound) {idx : Slot} {ret : Ret}
    (hrunning : t.running = some (idx, ret)) : (t.slot idx).state = .allocation :=
  (h.mem_iff idx).mp (by simp [callbacks, hrunning])

-- The reply to a request whose callback has ended without S_EXEC: `t` is the
-- table with that callback removed.
theorem Sound.answerAllocation {before : Table Arg Ret} (h : before.Sound) {idx : Slot}
    {frame : Frame} (hperm : before.callbacks.Perm (idx :: t.callbacks)) (hacc : t.Accounts)
    (hnum : t.Numbered) (hslot : ∀ other, other ≠ idx → t.slot other = before.slot other)
    (hbusy : (t.slot idx).state ≠ .none) (hframe : frame.cmd = (t.slot idx).cmd.reply) :
    (t.answer idx frame).Sound where
  toAccounts := hacc.answer hbusy hframe
  toNumbered := hnum.answer idx frame
  toFlight := by
    refine h.toFlight.leave (t.answer idx frame) idx hperm (by simp) fun other ho => ?_
    simp [ho, hslot other ho]

theorem Accounts.store (h : t.Accounts) (idx : Slot) (hbusy : (t.slot idx).state ≠ .none)
    (arg : Arg) : (t.store idx arg).Accounts := by
  apply h.of_busy (t.store idx arg) rfl rfl rfl (.inl rfl)
  exact busy_of_update (slot_store idx arg) hbusy rfl

theorem Sound.old_lt (h : t.Sound) (hcount : t.allocations < 2 ^ 32) {idx : Slot}
    (hbusy : (t.slot idx).state ≠ .none) : (t.slot idx).old.toNat < t.allocations :=
  (h.counted hcount).old_lt idx hbusy

-- process reports its failure with the header that the slot got from it.
theorem Sound.cmd_of_app (h : t.Sound) {idx : Slot} {request : HostRequest}
    (happ : t.app = some (idx, request)) : (t.slot idx).cmd = request.cmd := by
  obtain ⟨own, hown, hcmd⟩ := h.carries idx (by simp [h.allocation_of_app happ])
  obtain rfl := Option.some.inj (hown.symm.trans (h.handing idx request happ))
  exact hcmd

theorem Sound.handOver (h : t.Sound) {idx : Slot} {request : HostRequest} {rejected : Frame}
    (happ : t.app = some (idx, request)) (arg : Arg) (accepted : Bool)
    (hframe : rejected.cmd = request.cmd.reply) :
    (t.handOver idx arg accepted rejected).Sound := by
  rw [← h.cmd_of_app happ] at hframe
  have halloc := h.allocation_of_app happ
  have hacc := h.toAccounts.store idx (by simp [halloc]) arg
  have hnum : (t.store idx arg).Numbered :=
    h.toNumbered.set _ idx { t.slot idx with arg, state := .allocation } rfl
      (fun _ => by simp [halloc]) rfl rfl rfl
  cases accepted with
  | true =>
      refine
        { toAccounts :=
            ⟨hacc.consistent, hacc.carries, hacc.header, fun _ _ hnone => nomatch hnone⟩
          toFlight := ?_
          toNumbered := ⟨hnum.counted, hnum.allocations_le⟩ }
      apply h.toFlight.move _
      · simp only [callbacks, Table.handOver, if_true, happ, Table.store]
        simp
      · exact state_iff_of_update (slot_store idx arg) (· = .allocation) (by simp [halloc])
  | false =>
      apply h.answerAllocation (t := { t.store idx arg with app := none })
      · simp [callbacks, happ, Table.store]
      · exact ⟨hacc.consistent, hacc.carries, hacc.header, fun _ _ hnone => nomatch hnone⟩
      · exact ⟨hnum.counted, hnum.allocations_le⟩
      · intro other ho
        simp [slot, Table.store, ho]
      · simp [slot, Table.store]
      · simpa [slot, Table.store] using hframe

theorem Sound.noteTsn (h : t.Sound) (idx : Slot) (tsn : UInt8) : (t.noteTsn idx tsn).Sound := by
  have hslot : ∀ other, ((t.noteTsn idx tsn).slot other).state = (t.slot other).state ∧
      ((t.noteTsn idx tsn).slot other).cmd = (t.slot other).cmd := by
    intro other
    by_cases ho : other = idx
    · subst ho
      simp
    · simp [ho]
  constructor
  · exact h.toAccounts.of_busy (t.noteTsn idx tsn) rfl rfl rfl (.inl rfl)
      fun other hother => ⟨(hslot other).1 ▸ hother, (hslot other).2⟩
  · exact h.toFlight.move (t.noteTsn idx tsn) (List.Perm.refl _)
      fun other => by rw [(hslot other).1]
  · exact h.toNumbered.set _ idx { t.slot idx with tsn } rfl (fun hne => hne) rfl rfl rfl

theorem Sound.start (h : t.Sound) {idx : Slot} (hpending : idx ∈ t.pending)
    (hrunning : t.running = none) (ret : Ret) : (t.start idx ret).Sound where
  toAccounts := ⟨h.consistent, h.carries, h.header, h.handing⟩
  toNumbered := ⟨h.counted, h.allocations_le⟩
  toFlight := by
    refine h.toFlight.move (t.start idx ret) ?_ fun _ => Iff.rfl
    have hperm := (List.perm_cons_erase hpending).symm
    simp only [callbacks, Table.start, hrunning, Option.map_some, Option.map_none,
      Option.toList_some, Option.toList_none, List.append_nil, List.append_assoc]
    exact List.Perm.append_left _ ((List.perm_append_singleton _ _).trans hperm)

theorem Sound.publish (h : t.Sound) {idx : Slot} {ret : Ret}
    (hrunning : t.running = some (idx, ret)) (tsn : UInt8) (tick : UInt32) :
    (t.publish idx tsn tick).Sound where
  toAccounts := by
    apply h.toAccounts.of_busy (t.publish idx tsn tick) rfl rfl rfl (.inl rfl)
    exact busy_of_update (slot_publish idx tsn tick)
      (by simp [h.allocation_of_running hrunning]) rfl
  toNumbered := h.toNumbered.set _ idx { t.slot idx with tsn, tExec := tick, state := .exec } rfl
    (fun _ => by simp [h.allocation_of_running hrunning]) rfl rfl rfl
  toFlight := by
    apply h.toFlight.leave _ idx
    · simp only [callbacks, Table.publish, hrunning, Option.map_some, Option.map_none,
        Option.toList_some, Option.toList_none, List.append_nil]
      exact List.perm_append_singleton idx _
    · simp
    · intro other ho
      simp [ho]

theorem Sound.abort (h : t.Sound) {idx : Slot} {ret : Ret} {frame : Frame}
    (hrunning : t.running = some (idx, ret)) (hframe : frame.cmd = (t.slot idx).cmd.reply) :
    (t.abort idx frame).Sound := by
  apply h.answerAllocation (t := { t with running := none })
  · simp only [callbacks, hrunning, Option.map_some, Option.map_none, Option.toList_some,
      Option.toList_none, List.append_nil]
    exact List.perm_append_singleton idx _
  · exact ⟨h.consistent, h.carries, h.header, h.handing⟩
  · exact ⟨h.counted, h.allocations_le⟩
  · exact fun _ _ => rfl
  · change (t.slot idx).state ≠ .none
    simp [h.allocation_of_running hrunning]
  · exact hframe

theorem slot_reclaim (now timeout : UInt32) (idx : Slot) :
    (t.reclaim now timeout).slot idx =
      if t.resolver.stale now timeout idx then { t.slot idx with state := .none }
      else t.slot idx := rfl

theorem slot_reclaim_busy {now timeout : UInt32} {idx : Slot}
    (hbusy : ((t.reclaim now timeout).slot idx).state ≠ .none) :
    (t.reclaim now timeout).slot idx = t.slot idx :=
  @reclaimStale_busy _ t.resolver now timeout MAX_PARALLEL_REQUESTS idx hbusy

theorem Sound.reclaim (h : t.Sound) (now timeout : UInt32) : (t.reclaim now timeout).Sound where
  toAccounts := by
    refine h.toAccounts.of_busy (t.reclaim now timeout) rfl rfl rfl (.inl rfl)
      fun idx hidx => ?_
    have hsame := slot_reclaim_busy hidx
    rw [hsame] at hidx ⊢
    exact ⟨hidx, rfl⟩
  toNumbered := ⟨fun hlt => (h.counted hlt).reclaimStale now timeout MAX_PARALLEL_REQUESTS,
    h.allocations_le⟩
  toFlight := by
    refine h.toFlight.move (t.reclaim now timeout) (List.Perm.refl _) fun idx => ?_
    rw [slot_reclaim]
    split
    next hstale =>
      have hexec : (t.slot idx).state = .exec := stale_exec hstale
      simp [hexec]
    next => rfl

end EspCoordinator.Requests.Table
