import EspCoordinator.Apsde.Forward.Theorems

namespace EspCoordinator.Apsde.Forward

open Resolver Requests

variable {hz : Nat} {s next : State} {label : Label}

-- A slot whose callback is waiting has the frame of the request it belongs to.
structure Carried (s : State) : Prop where
  handing : ∀ idx request, s.table.app = some (idx, request) → checkFrame request.buffer = true
  waiting : ∀ idx ∈ s.table.pending, ∃ request stale,
    s.table.requests[s.table.owner idx]? = some request ∧ checkFrame request.buffer = true ∧
      (s.table.slot idx).arg = copyArg stale request.buffer

theorem carried_init : Carried init where
  handing _ _ happ := nomatch happ
  waiting _ hmem := nomatch hmem

-- The slots that go on waiting are left alone.
theorem Carried.mono (h : Carried s) (next : State) (more : List HostRequest)
    (hrequests : next.table.requests = s.table.requests ++ more)
    (happ : ∀ idx request, next.table.app = some (idx, request) →
      s.table.app = some (idx, request) ∨ checkFrame request.buffer = true)
    (hwaiting : ∀ idx ∈ next.table.pending, idx ∈ s.table.pending ∧
      next.table.owner idx = s.table.owner idx ∧
      (next.table.slot idx).arg = (s.table.slot idx).arg) : Carried next where
  handing idx request hidx := (happ idx request hidx).elim (h.handing idx request) id
  waiting idx hidx := by
    obtain ⟨hmem, howner, harg⟩ := hwaiting idx hidx
    obtain ⟨request, stale, hrequest, hcheck, hslot⟩ := h.waiting idx hmem
    refine ⟨request, stale, ?_, hcheck, harg.trans hslot⟩
    rw [hrequests, howner]
    exact Table.getElem?_append_of_some hrequest

-- No argument is written, and nothing is added.
theorem Carried.of_args (h : Carried s) (next : State)
    (hrequests : next.table.requests = s.table.requests)
    (howner : next.table.owner = s.table.owner) (happ : next.table.app = s.table.app)
    (hpending : ∀ idx ∈ next.table.pending, idx ∈ s.table.pending)
    (harg : ∀ idx, (next.table.slot idx).arg = (s.table.slot idx).arg) : Carried next := by
  apply h.mono next [] (by rw [hrequests, List.append_nil])
  · exact fun idx request hidx => .inl (happ ▸ hidx)
  · exact fun idx hidx => ⟨hpending idx hidx, by rw [howner], harg idx⟩

theorem arg_of_update {before after : Slot → Request Arg} {idx : Slot} {req : Request Arg}
    (hslot : after = Function.update before idx req) (harg : req.arg = (before idx).arg)
    (other : Slot) : (after other).arg = (before other).arg := by
  rw [hslot]
  by_cases ho : other = idx
  · subst ho
    rw [Function.update_self, harg]
  · rw [Function.update_of_ne ho]

-- A slot with a callback is not the one that process is given.
theorem Carried.claim (h : Carried s) (hinv : Inv s) {request : HostRequest} {noSlot : Frame}
    (hcheck : checkFrame request.buffer = true) :
    Carried { s with table := s.table.claim request noSlot } := by
  cases hstart : s.table.resolver.startResolve request.cmd with
  | none =>
      rw [Table.claim_eq_refuse noSlot hstart]
      exact h.mono _ [request] rfl (fun _ _ hidx => .inl hidx) fun idx hidx => ⟨hidx, rfl, rfl⟩
  | some found =>
      obtain ⟨idx, r⟩ := found
      have happ : (s.table.claim request noSlot).app = some (idx, request) := by
        rw [Table.claim, hstart]
      have hpending : (s.table.claim request noSlot).pending = s.table.pending := by
        rw [Table.claim, hstart]
      have hrequests : (s.table.claim request noSlot).requests = s.table.requests ++ [request] := by
        rw [Table.claim, hstart]
      apply h.mono _ [request] hrequests
      · intro other own hother
        obtain ⟨-, rfl⟩ := Prod.mk.inj (Option.some.inj (happ.symm.trans hother))
        exact .inr hcheck
      · intro other hother
        have hmem : other ∈ s.table.pending := hpending ▸ hother
        have ho : other ≠ idx := by
          rintro rfl
          refine startResolve_ne_allocation hstart ((hinv.sound.mem_iff other).mp ?_)
          simp [Table.callbacks, hmem]
        simp only [Table.slot_claim noSlot hstart, Table.owner_claim noSlot hstart,
          Function.update_of_ne ho]
        exact ⟨hmem, trivial, trivial⟩

-- The rest of process copies the frame, and its slot starts to wait.
theorem Carried.handOver (h : Carried s) (hinv : Inv s) {idx : Slot} {request : HostRequest}
    (happ : s.table.app = some (idx, request)) (accepted : Bool) (rejected : Frame) :
    Carried { s with
      table := s.table.handOver idx (copyArg (s.table.slot idx).arg request.buffer) accepted
        rejected } := by
  have hgone : idx ∉ s.table.pending := by
    have honce := hinv.sound.once
    simp only [Table.callbacks, happ, Option.map_some, Option.toList_some, List.cons_append,
      List.nodup_cons] at honce
    exact fun hmem => honce.1 (List.mem_append_left _ hmem)
  constructor
  · intro other own hother
    cases accepted <;> cases hother
  · intro other hother
    simp only [Table.slot_handOver, Table.owner_handOver]
    have hcases : other ∈ s.table.pending ∨ other = idx := by
      cases accepted with
      | true => exact (List.mem_append.mp hother).imp_right List.mem_singleton.mp
      | false => exact .inl hother
    have hrequests : (s.table.handOver idx (copyArg (s.table.slot idx).arg request.buffer)
        accepted rejected).requests = s.table.requests := by
      cases accepted <;> rfl
    rw [hrequests]
    rcases hcases with hmem | rfl
    · have ho : other ≠ idx := fun heq => hgone (heq ▸ hmem)
      rw [Function.update_of_ne ho]
      exact h.waiting other hmem
    · rw [Function.update_self]
      exact ⟨request, _, hinv.sound.handing other request happ, h.handing other request happ, rfl⟩

theorem Carried.startRequest (h : Carried s) (idx : Slot) (buf : UInt8) (ret : UInt32) :
    Carried (Apsde.startRequest s idx buf ret) := by
  have hstart : Carried { s with table :=
      (s.table.noteTsn idx (zclTsn (s.table.slot idx).arg)).start idx ret } :=
    h.of_args _ rfl rfl rfl (fun _ hmem => List.mem_of_mem_erase hmem)
      (arg_of_update (Table.slot_noteTsn idx _) rfl)
  unfold Apsde.startRequest
  simp only
  split
  · exact ⟨hstart.handing, hstart.waiting⟩
  · exact hstart

theorem Carried.callback (h : Carried s) (param : UInt8) (resp : DataResp) :
    Carried (apsUserPayloadCallback s param resp) := by
  rcases callback_cases s param resp with hsame | ⟨idx, frame, -, -, -, -, -, hanswer⟩
  · exact h.of_args _ (by rw [hsame]) (by rw [hsame]) (by rw [hsame]) (fun _ hmem => hsame ▸ hmem)
      fun _ => by rw [hsame]
  · apply h.of_args _ (by rw [hanswer]; rfl) (by rw [hanswer]; rfl) (by rw [hanswer]; rfl)
    · exact fun _ hmem => by rwa [hanswer] at hmem
    · rw [hanswer]
      exact arg_of_update (Table.slot_answer idx frame) rfl

theorem carried_step (h : Carried s) (hinv : Inv s) (hstep : step hz s label = some next) :
    Carried next := by
  cases effect_of_step hstep with
  | refuse => exact h.mono _ [_] rfl (fun _ _ hidx => .inl hidx) fun idx hidx => ⟨hidx, rfl, rfl⟩
  | claim happ hsampled hcheck => exact h.claim hinv hcheck
  | handOver happ => exact h.handOver hinv happ _ _
  | doRequest => exact h.startRequest _ _ _
  | @abort idx =>
      exact h.of_args _ rfl rfl rfl (fun _ hmem => hmem)
        (arg_of_update (Table.slot_abort idx _) rfl)
  | @publish idx =>
      exact h.of_args _ rfl rfl rfl (fun _ hmem => hmem)
        (arg_of_update (Table.slot_publish idx _ _) rfl)
  | confirm => exact h.callback _ _
  | early => exact h
  | sample => exact ⟨h.handing, h.waiting⟩
  | scan =>
      refine h.of_args _ rfl rfl rfl (fun _ hmem => hmem) fun idx => ?_
      simp only [Table.slot_reclaim]
      split <;> rfl
  | tick => exact ⟨h.handing, h.waiting⟩

theorem carried_of_exec {labels : List Label} (hrun : Run.exec (step hz) init labels = some s) :
    Carried s := by
  refine (Run.exec_invariant (fun s => Inv s ∧ Carried s) ⟨inv_init, carried_init⟩ ?_ hrun).2
  rintro s label next ⟨hinv, hcarried⟩ hstep
  exact ⟨inv_step hinv hstep, carried_step hcarried hinv hstep⟩

-- An APSDE_DATA_REQ is refused with one error and without a slot, or it is in
-- the grammar. What do_request hands over is then what the host has put into
-- the frame, whatever the slot held before.
theorem apsde_data_req_forwarded (hz : Nat) (isBroadcast : UInt16 → Bool) (labels : List Label)
    (s : State) (hrun : Run.exec (step hz) init labels = some s) :
    (∀ request next, step hz s (.process request) = some next →
      ((∃ d : DataRequest, request.buffer = d.bytes) →
        next.table = s.table.claim request (failed request.cmd GENERIC_OUT_OF_RANGE)) ∧
      ((¬∃ d : DataRequest, request.buffer = d.bytes) →
        next.table.resolver = s.table.resolver ∧ next.table.app = none ∧
          next.table.answers = s.table.answers ++
            [{ request := s.table.requests.length,
               frame := failed request.cmd GENERIC_INVALID_PARAMETER }])) ∧
    (∀ idx buf ret next, step hz s (.doRequest idx buf ret) = some next →
      ∃ (request : HostRequest) (d : DataRequest),
        s.table.requests[s.table.owner idx]? = some request ∧ request.buffer = d.bytes ∧
          (doRequest isBroadcast (s.table.slot idx).arg).map Call.delivered =
            if d.TooLong isBroadcast then none else some (d.delivered isBroadcast)) ∧
    ∀ (d : DataRequest) (stale : Arg),
      (doRequest isBroadcast (copyArg stale d.bytes)).map Call.delivered =
        if d.TooLong isBroadcast then none else some (d.delivered isBroadcast) := by
  refine ⟨?_, ?_, doRequest_delivered isBroadcast⟩
  · intro request next hstep
    rw [← checkFrame_iff]
    cases effect_of_step hstep with
    | refuse happ hsampled hcheck =>
        exact ⟨fun hin => absurd (hcheck.symm.trans hin) (by decide), fun _ => ⟨rfl, happ, rfl⟩⟩
    | claim happ hsampled hcheck => exact ⟨fun _ => rfl, fun hout => absurd hcheck hout⟩
  · intro idx buf ret next hstep
    cases effect_of_step hstep with
    | doRequest hpending hrunning =>
        obtain ⟨request, stale, hrequest, hcheck, harg⟩ :=
          (carried_of_exec hrun).waiting idx hpending
        obtain ⟨d, hd⟩ := (checkFrame_iff _).mp hcheck
        refine ⟨request, d, hrequest, hd, ?_⟩
        rw [harg, hd]
        exact doRequest_delivered isBroadcast d stale

-- The addresses from 0xFFF8 on are those of broadcasts.
def broadcast (addr : UInt16) : Bool := addr &&& 0xFFF8 == 0xFFF8

theorem apsde_data_req_forwarded_readAttributes :
    ∃ s next, Run.exec (step 100) init [.process (readAttributes 1), .handOver true] = some s ∧
      step 100 s (.doRequest 0 5 RET_OK) = some next ∧
      ∃ (request : HostRequest) (d : DataRequest),
        s.table.requests[s.table.owner 0]? = some request ∧ request.buffer = d.bytes ∧
          (doRequest broadcast (s.table.slot 0).arg).map Call.delivered =
            if d.TooLong broadcast then none else some (d.delivered broadcast) :=
  ⟨_, _, rfl, rfl,
    (apsde_data_req_forwarded 100 broadcast [.process (readAttributes 1), .handOver true] _ rfl).2.1
      0 5 RET_OK _ rfl⟩

-- A payload of 83 bytes, with the link key, for the device 0x1234.
def longSecured : DataRequest :=
  { base :=
      { addrData := [0x34, 0x12, 0, 0, 0, 0, 0, 0]
        profileId := 0x0104
        clusterId := 0x0006
        dstEndpoint := some 1
        srcEndpoint := 1
        radius := 30
        addrMode := 2
        txOptions := 1
        useAlias := 0
        aliasSrcAddr := 0
        aliasSeqNum := 0 }
    data := List.replicate 83 0
    addr := rfl
    least := by decide
    most := by decide }

theorem not_apsde_data_req_forwarded :
    ¬∀ (isBroadcast : UInt16 → Bool) (d : DataRequest) (stale : Arg),
      checkFrame d.bytes = true →
        (doRequest isBroadcast (copyArg stale d.bytes)).map Call.delivered =
          some (d.delivered isBroadcast) := by
  intro h
  have hlong : longSecured.TooLong broadcast := by decide
  have hnothing := doRequest_delivered broadcast longSecured []
  rw [h broadcast longSecured [] (checkFrame_bytes longSecured), if_pos hlong] at hnothing
  cases hnothing

end EspCoordinator.Apsde.Forward
