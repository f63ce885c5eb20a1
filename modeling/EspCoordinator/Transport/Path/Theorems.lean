import EspCoordinator.Transport.Path

namespace EspCoordinator.Transport.Path

variable {hz : Nat}

def Ctx.inputSize (ctx : Ctx) : Nat := if ctx.event = .input then ctx.size else 0

def queuedInput (queue : List Ctx) : Nat := (queue.map Ctx.inputSize).sum

-- What the pump still has to read for the event it has taken.
def unread : App → Nat
  | .reading size got _ => size - got.length
  | _ => 0

def Sender.unposted : Sender → Nat
  | .committed frame => frame.bytes.length
  | _ => 0

@[simp] theorem Sender.unposted_out : Sender.out.unposted = 0 := rfl

@[simp] theorem Sender.unposted_committed (frame : Frame) :
    (Sender.committed frame).unposted = frame.bytes.length := rfl

@[simp] theorem Sender.holdsSem_out : Sender.out.holdsSem = false := rfl

@[simp] theorem Sender.holdsSem_ready (frame : Frame) : (Sender.ready frame).holdsSem = true := rfl

def inFlight (senders : Task → Sender) : Nat :=
  (senders .app).unposted + (senders .zboss).unposted

def owed (s : State) : Nat := queuedInput s.queue + unread s.app + inFlight s.senders

@[simp] theorem queuedInput_cons (ctx : Ctx) (queue : List Ctx) :
    queuedInput (ctx :: queue) = Ctx.inputSize ctx + queuedInput queue := by
  simp [queuedInput]

theorem queuedInput_sendEventInt (queue : List Ctx) (ctx : Ctx) :
    queuedInput (sendEventInt queue ctx).1 =
      queuedInput queue + if queue.length < EVENT_QUEUE_LEN then Ctx.inputSize ctx else 0 := by
  unfold sendEventInt
  split <;> simp [queuedInput]

theorem inFlight_update (senders : Task → Sender) (task : Task) (sender : Sender) :
    inFlight (Function.update senders task sender) + (senders task).unposted =
      inFlight senders + sender.unposted := by
  cases task <;> simp [inFlight] <;> omega

-- Every event of the NCP-to-host direction fits m_buffer.
def Fits (queue : List Ctx) : Prop :=
  ∀ ctx ∈ queue, ctx.event = .input → ctx.size ≤ BUFFER_SIZE

-- `slack` bytes of the buffer are behind no event. The other fields are what
-- m_input_sem and the sizes of the frames are for.
structure Inv (s : State) (slack : Nat) : Prop where
  bytes : s.inputBuf.length = owed s + slack
  fits : Fits s.queue
  room : ∀ task frame, s.senders task = .ready frame →
    frame.bytes.length ≤ spacesAvailable s.inputBuf
  lock : ¬((s.senders .app).holdsSem = true ∧ (s.senders .zboss).holdsSem = true)

-- The two ways to lose track of bytes: the event finds the queue full, or the
-- pump looks at the clock too late.
def Clean (s : State) : Label → Prop
  | .post _ => s.queue.length < EVENT_QUEUE_LEN
  | .round =>
      match s.app with
      | .reading size got deadline => got.length < size → s.tick < deadline
      | _ => True
  | _ => True

theorem poll_ready {spaces size count : Nat} (h : poll spaces size count = .ready) :
    size ≤ spaces := by
  unfold poll at h
  split_ifs at h
  omega

theorem length_streamBufferSend {inputBuf data : List UInt8}
    (h : data.length ≤ spacesAvailable inputBuf) :
    streamBufferSend inputBuf data = (inputBuf ++ data, data.length) := by
  simp only [streamBufferSend, min_eq_left h, List.take_length]

theorem Fits.sendEventInt {queue : List Ctx} {ctx : Ctx} (hq : Fits queue)
    (hc : ctx.event = .input → ctx.size ≤ BUFFER_SIZE) : Fits (sendEventInt queue ctx).1 := by
  unfold Transport.sendEventInt
  split
  · intro other hm
    rcases List.mem_append.mp hm with hm | hm
    · exact hq other hm
    · obtain rfl := List.mem_singleton.mp hm
      exact hc
  · exact hq

theorem inputRound_read {tick deadline : UInt32} {inputBuf got got' rest : List UInt8} {size : Nat}
    (h : inputRound tick deadline inputBuf size got = .read got' rest) :
    got.length < size ∧ tick < deadline ∧ got' = got ++ inputBuf.take (size - got.length) ∧
      rest = inputBuf.drop (size - got.length) := by
  unfold inputRound at h
  split_ifs at h with hlen htick hempty
  obtain ⟨rfl, rfl⟩ := Round.read.inj h
  exact ⟨hlen, by simpa using htick, rfl, rfl⟩

theorem inputRound_leave {tick deadline : UInt32} {inputBuf got : List UInt8} {size : Nat}
    (h : inputRound tick deadline inputBuf size got = .leave) :
    got.length < size → deadline ≤ tick := by
  intro hlen
  unfold inputRound at h
  split_ifs at h with htick
  exact htick

theorem inputRound_blocked {tick deadline : UInt32} {inputBuf got : List UInt8} {size : Nat}
    (h : inputRound tick deadline inputBuf size got = .blocked) :
    got.length < size ∧ inputBuf = [] := by
  unfold inputRound at h
  split_ifs at h with hlen htick hempty
  exact ⟨hlen, hempty⟩

-- What one step can do.
inductive Effect (hz : Nat) (s : State) : Label → State → Prop where
  | begun {task : Task} {frame : Frame}
      (hfree : (s.senders .app).holdsSem = false ∧ (s.senders .zboss).holdsSem = false)
      (hout : s.senders task = .out) (hbusy : task = .app → s.app = .busy) :
      Effect hz s (.begin task frame) (s.set task (.waiting frame (RINGBUF_TIMEOUT_MS / 10)))
  | retried {task : Task} {frame : Frame} {count left : Nat}
      (hwait : s.senders task = .waiting frame count) :
      Effect hz s (.poll task) (s.set task (.waiting frame left))
  | refused {task : Task} {frame : Frame} {count : Nat}
      (hwait : s.senders task = .waiting frame count) :
      Effect hz s (.poll task) (s.set task .out)
  | seen {task : Task} {frame : Frame} {count : Nat}
      (hwait : s.senders task = .waiting frame count)
      (hroom : frame.bytes.length ≤ spacesAvailable s.inputBuf) :
      Effect hz s (.poll task) (s.set task (.ready frame))
  | committed {task : Task} {frame : Frame} (hready : s.senders task = .ready frame)
      (hall : (streamBufferSend s.inputBuf frame.bytes).2 = frame.bytes.length) :
      Effect hz s (.commit task) { s.set task (.committed frame) with
        inputBuf := (streamBufferSend s.inputBuf frame.bytes).1 }
  | cut {task : Task} {frame : Frame} (hready : s.senders task = .ready frame)
      (hshort : (streamBufferSend s.inputBuf frame.bytes).2 ≠ frame.bytes.length) :
      Effect hz s (.commit task) { s.set task .out with
        inputBuf := (streamBufferSend s.inputBuf frame.bytes).1 }
  | posted {task : Task} {frame : Frame} (hcommitted : s.senders task = .committed frame) :
      Effect hz s (.post task) { s.set task .out with
        queue := (sendEventInt s.queue { event := .input, size := frame.bytes.length }).1 }
  | rxPosted {size : Nat} :
      Effect hz s (.rxPost size)
        { s with queue := (sendEventInt s.queue { event := .output, size }).1 }
  | resetPosted (hbusy : s.app = .busy) :
      Effect hz s .resetPost
        { s with queue := (sendEventInt s.queue { event := .reset, size := 0 }).1 }
  | drained (hidle : s.app = .idle) (hqueue : s.queue = []) (hdraining : s.draining = true) :
      Effect hz s .take { s with app := .restarting }
  | skipped {ctx : Ctx} {queue : List Ctx} (hidle : s.app = .idle) (hqueue : s.queue = ctx :: queue)
      (hbig : ctx.size > BUFFER_SIZE) : Effect hz s .take { s with queue }
  | input {ctx : Ctx} {queue : List Ctx} (hidle : s.app = .idle) (hqueue : s.queue = ctx :: queue)
      (hevent : ctx.event = .input) :
      Effect hz s .take { s with
        queue, app := .reading ctx.size [] (s.tick + pdMS_TO_TICKS hz RINGBUF_TIMEOUT_MS) }
  | output {ctx : Ctx} {queue : List Ctx} (hidle : s.app = .idle) (hqueue : s.queue = ctx :: queue)
      (hevent : ctx.event = .output) : Effect hz s .take { s with queue, app := .busy }
  | reset {ctx : Ctx} {queue : List Ctx} (hidle : s.app = .idle) (hqueue : s.queue = ctx :: queue)
      (hevent : ctx.event = .reset) : Effect hz s .take { s with queue, draining := true }
  | read {size : Nat} {got : List UInt8} {deadline : UInt32}
      (happ : s.app = .reading size got deadline) (hless : got.length < size)
      (htick : s.tick < deadline) :
      Effect hz s .round { s with
        inputBuf := s.inputBuf.drop (size - got.length)
        app := .reading size (got ++ s.inputBuf.take (size - got.length)) deadline }
  | gaveUp {size : Nat} {got : List UInt8} {deadline : UInt32}
      (happ : s.app = .reading size got deadline) (hother : got.length ≠ size)
      (hlate : got.length < size → deadline ≤ s.tick) :
      Effect hz s .round { s with app := .idle }
  | wrote {size : Nat} {got : List UInt8} {deadline : UInt32}
      (happ : s.app = .reading size got deadline) (hfull : got.length = size) :
      Effect hz s .round { s with app := .idle, written := s.written ++ [got] }
  | starved {size : Nat} {got : List UInt8} {deadline : UInt32}
      (happ : s.app = .reading size got deadline) (hless : got.length < size)
      (hempty : s.inputBuf = []) : Effect hz s .roundTimeout { s with app := .idle }
  | woken (hidle : s.app = .idle) (hdraining : s.draining = false) :
      Effect hz s .wake { s with app := .busy }
  | finished (hbusy : s.app = .busy) (hout : s.senders .app = .out) :
      Effect hz s .finish { s with app := .idle }
  | ticked : Effect hz s .tick { s with now := s.now + 1 }

theorem effect_of_poll {s t : State} {task : Task} (h : step hz s (.poll task) = some t) :
    Effect hz s (.poll task) t := by
  simp only [step] at h
  split at h
  · rename_i hwait
    split at h
    · cases h
      exact .retried hwait
    · cases h
      exact .refused hwait
    · rename_i hready
      cases h
      exact .seen hwait (poll_ready hready)
  · cases h

theorem effect_of_take {s t : State} (h : step hz s .take = some t) : Effect hz s .take t := by
  simp only [step] at h
  split at h
  · rename_i hidle
    split at h
    · rename_i hqueue
      split at h
      · rename_i hdraining
        cases h
        exact .drained hidle hqueue hdraining
      · cases h
    · rename_i hqueue
      split at h
      · rename_i hbig
        cases h
        exact .skipped hidle hqueue hbig
      · split at h
        · rename_i hevent
          cases h
          exact .input hidle hqueue hevent
        · rename_i hevent
          cases h
          exact .output hidle hqueue hevent
        · rename_i hevent
          cases h
          exact .reset hidle hqueue hevent
  · cases h

theorem effect_of_round {s t : State} (h : step hz s .round = some t) : Effect hz s .round t := by
  simp only [step] at h
  split at h
  · rename_i happ
    split at h
    · rename_i hround
      obtain ⟨hless, htick, rfl, rfl⟩ := inputRound_read hround
      cases h
      exact .read happ hless htick
    · rename_i hround
      split at h
      · rename_i hother
        cases h
        exact .gaveUp happ hother (inputRound_leave hround)
      · rename_i hfull
        cases h
        exact .wrote happ (not_not.mp hfull)
    · cases h
  · cases h

theorem effect_of_step {s t : State} {label : Label} (h : step hz s label = some t) :
    Effect hz s label t := by
  cases label with
  | begin task frame =>
      simp only [step] at h
      split_ifs at h with hsem hout hbusy
      cases h
      rw [Bool.or_eq_true, not_or, Bool.not_eq_true, Bool.not_eq_true] at hsem
      exact .begun hsem (not_not.mp hout) fun htask => by_contra fun hne => hbusy ⟨htask, hne⟩
  | poll task => exact effect_of_poll h
  | commit task =>
      simp only [step] at h
      split at h
      · rename_i hready
        split at h
        · rename_i hshort
          cases h
          exact .cut hready hshort
        · rename_i hall
          cases h
          exact .committed hready (not_not.mp hall)
      · cases h
  | post task =>
      simp only [step] at h
      split at h
      · rename_i hcommitted
        cases h
        exact .posted hcommitted
      · cases h
  | rxPost size =>
      cases h
      exact .rxPosted
  | resetPost =>
      simp only [step, Option.ite_none_right_eq_some, Option.some.injEq] at h
      obtain ⟨hbusy, rfl⟩ := h
      exact .resetPosted hbusy
  | take => exact effect_of_take h
  | round => exact effect_of_round h
  | roundTimeout =>
      simp only [step] at h
      split at h
      · rename_i happ
        split at h
        · rename_i hround
          obtain ⟨hless, hempty⟩ := inputRound_blocked hround
          cases h
          exact .starved happ hless hempty
        · cases h
      · cases h
  | wake =>
      simp only [step, Option.ite_none_right_eq_some, Option.some.injEq] at h
      obtain ⟨⟨hidle, hdraining⟩, rfl⟩ := h
      exact .woken hidle hdraining
  | finish =>
      simp only [step, Option.ite_none_right_eq_some, Option.some.injEq] at h
      obtain ⟨⟨hbusy, hout⟩, rfl⟩ := h
      exact .finished hbusy hout
  | tick =>
      cases h
      exact .ticked

theorem inv_init : Inv init 0 :=
  ⟨rfl, by simp [init, Fits], by simp [init], by simp [init]⟩

theorem lock_update {senders : Task → Sender} {task : Task} (sender : Sender)
    (h : ¬((senders .app).holdsSem = true ∧ (senders .zboss).holdsSem = true))
    (hsem : sender.holdsSem = true → (senders task).holdsSem = true) :
    ¬((Function.update senders task sender .app).holdsSem = true ∧
      (Function.update senders task sender .zboss).holdsSem = true) := by
  cases task <;> simp <;> grind

-- A step of a sender that touches neither the buffer nor the queue.
theorem Inv.set {s : State} {slack : Nat} {task : Task} {sender : Sender} (h : Inv s slack)
    (hun : sender.unposted = (s.senders task).unposted)
    (hroom : ∀ frame, sender = .ready frame → frame.bytes.length ≤ spacesAvailable s.inputBuf)
    (hlock : ¬((Function.update s.senders task sender .app).holdsSem = true ∧
      (Function.update s.senders task sender .zboss).holdsSem = true)) :
    Inv (s.set task sender) slack := by
  have hflight := inFlight_update s.senders task sender
  refine ⟨?_, h.fits, ?_, hlock⟩
  · have hbytes := h.bytes
    simp only [owed, State.set] at hbytes ⊢
    omega
  · intro other frame heq
    by_cases hother : other = task
    · subst hother
      simp only [State.set, Function.update_self] at heq
      exact hroom frame heq
    · simp only [State.set, Function.update_of_ne hother] at heq
      exact h.room other frame heq

-- What one step does to the bytes that no event stands for.
def Accounted (s t : State) (label : Label) : Prop :=
  ∀ slack, Inv s slack → ∃ lost, Inv t (slack + lost) ∧ (lost = 0 ↔ Clean s label)

theorem accounted_of_inv {s t : State} {label : Label} (hclean : Clean s label)
    (h : ∀ slack, Inv s slack → Inv t slack) : Accounted s t label :=
  fun slack hinv => ⟨0, h slack hinv, by simpa using hclean⟩

theorem Inv.polled {s : State} {slack count : Nat} {task : Task} {frame : Frame} {sender : Sender}
    (h : Inv s slack) (hwait : s.senders task = .waiting frame count) (hun : sender.unposted = 0)
    (hroom : ∀ frame, sender = .ready frame → frame.bytes.length ≤ spacesAvailable s.inputBuf) :
    Inv (s.set task sender) slack := by
  refine h.set ?_ hroom (lock_update sender h.lock fun _ => ?_)
  · rw [hun, hwait]
    rfl
  · rw [hwait]
    rfl

-- m_input_sem keeps the other writers out, so the room seen is still there.
theorem Inv.committed {s : State} {slack : Nat} {task : Task} {frame : Frame} (h : Inv s slack)
    (hready : s.senders task = .ready frame) :
    Inv { s.set task (.committed frame) with inputBuf := s.inputBuf ++ frame.bytes } slack := by
  have hsem : (s.senders task).holdsSem = true := by rw [hready]; rfl
  have hflight := inFlight_update s.senders task (.committed frame)
  have hun : (s.senders task).unposted = 0 := by rw [hready]; rfl
  refine ⟨?_, h.fits, ?_, lock_update _ h.lock fun _ => hsem⟩
  · have hbytes := h.bytes
    simp only [owed, State.set, List.length_append] at hbytes hflight ⊢
    rw [hun, Sender.unposted_committed] at hflight
    omega
  · intro other frame' heq
    have hlock := h.lock
    exfalso
    cases task <;> cases other <;> simp [State.set] at heq <;>
      exact hlock (by simp [hready, heq])

theorem accounted_posted {s : State} {task : Task} {frame : Frame}
    (hcommitted : s.senders task = .committed frame) :
    Accounted s { s.set task .out with
      queue := (sendEventInt s.queue { event := .input, size := frame.bytes.length }).1 }
      (.post task) := by
  intro slack h
  have hlen : 0 < frame.bytes.length := List.length_pos_iff.mpr frame.nonempty
  have hbound : frame.bytes.length ≤ BUFFER_SIZE := frame.fits
  have hflight := inFlight_update s.senders task .out
  have hun : (s.senders task).unposted = frame.bytes.length := by rw [hcommitted]; rfl
  have hroom : ∀ other frame', Function.update s.senders task .out other = .ready frame' →
      frame'.bytes.length ≤ spacesAvailable s.inputBuf := by
    intro other frame' heq
    by_cases hother : other = task
    · subst hother
      simp at heq
    · rw [Function.update_of_ne hother] at heq
      exact h.room other frame' heq
  refine ⟨if s.queue.length < EVENT_QUEUE_LEN then 0 else frame.bytes.length,
    ⟨?_, h.fits.sendEventInt fun _ => hbound, hroom, lock_update _ h.lock (by simp)⟩, ?_⟩
  · have hbytes := h.bytes
    simp only [owed, State.set, queuedInput_sendEventInt, Ctx.inputSize, if_true] at hbytes ⊢
    rw [hun, Sender.unposted_out] at hflight
    split <;> omega
  · simp only [Clean]
    constructor
    · intro hlost
      by_contra hfull
      rw [if_neg hfull] at hlost
      omega
    · exact fun hspace => if_pos hspace

theorem accounted_sendEventInt {s : State} {label : Label} {ctx : Ctx} (hclean : Clean s label)
    (hctx : ctx.event ≠ .input) :
    Accounted s { s with queue := (sendEventInt s.queue ctx).1 } label := by
  refine accounted_of_inv hclean fun slack h => ?_
  refine ⟨?_, h.fits.sendEventInt fun heq => absurd heq hctx, h.room, h.lock⟩
  have hbytes := h.bytes
  simp only [owed, queuedInput_sendEventInt, Ctx.inputSize, if_neg hctx, ite_self] at hbytes ⊢
  omega

-- The pump owes what the event it takes stands for.
theorem Inv.taken {s : State} {slack : Nat} {ctx : Ctx} {queue : List Ctx} {app : App}
    {draining : Bool} (h : Inv s slack) (hidle : s.app = .idle) (hqueue : s.queue = ctx :: queue)
    (happ : unread app = Ctx.inputSize ctx) : Inv { s with queue, app, draining } slack := by
  have hfits := h.fits
  rw [hqueue] at hfits
  refine ⟨?_, fun other hm => hfits other (List.mem_cons_of_mem _ hm), h.room, h.lock⟩
  have hbytes := h.bytes
  simp only [owed, hidle, hqueue, queuedInput_cons, unread] at hbytes
  simp only [owed, happ]
  omega

theorem Inv.event_ne_input {s : State} {slack : Nat} {ctx : Ctx} {queue : List Ctx}
    (h : Inv s slack) (hqueue : s.queue = ctx :: queue) (hbig : ctx.size > BUFFER_SIZE) :
    ctx.event ≠ .input := by
  intro hevent
  have hfits := h.fits ctx (by rw [hqueue]; exact List.mem_cons_self) hevent
  omega

-- The buffer and the queue are as they were, and so is what the pump owes.
theorem Inv.app {s : State} {slack : Nat} {app : App} {written : List (List UInt8)} (h : Inv s slack)
    (happ : unread app = unread s.app) : Inv { s with app, written } slack := by
  refine ⟨?_, h.fits, h.room, h.lock⟩
  have hbytes := h.bytes
  simp only [owed] at hbytes
  simp only [owed, happ]
  omega

-- The bytes of an event are in the buffer before the event is in the queue,
-- so the pump gets all of them in one read, unless the clock stops it.
theorem accounted_read {s : State} {size : Nat} {got : List UInt8} {deadline : UInt32}
    (happ : s.app = .reading size got deadline) (hless : got.length < size)
    (htick : s.tick < deadline) :
    Accounted s { s with
      inputBuf := s.inputBuf.drop (size - got.length)
      app := .reading size (got ++ s.inputBuf.take (size - got.length)) deadline } .round := by
  intro slack h
  have hbytes := h.bytes
  simp only [owed, happ, unread] at hbytes
  refine ⟨0, ⟨?_, h.fits, ?_, h.lock⟩, by simpa [Clean, happ] using fun _ => htick⟩
  · simp only [owed, unread, List.length_append, List.length_take, List.length_drop]
    omega
  · intro task frame heq
    have hroom := h.room task frame heq
    simp only [spacesAvailable, List.length_drop] at hroom ⊢
    omega

theorem accounted_gaveUp {s : State} {size : Nat} {got : List UInt8} {deadline : UInt32}
    (happ : s.app = .reading size got deadline)
    (hlate : got.length < size → deadline ≤ s.tick) :
    Accounted s { s with app := .idle } .round := by
  intro slack h
  have hbytes := h.bytes
  simp only [owed, happ, unread] at hbytes
  refine ⟨size - got.length, ⟨?_, h.fits, h.room, h.lock⟩, ?_⟩
  · simp only [owed, unread]
    omega
  · simp only [Clean, happ]
    constructor
    · intro hzero hless
      omega
    · intro hclean
      by_contra hne
      have hless : got.length < size := by omega
      exact UInt32.not_lt.mpr (hlate hless) (hclean hless)

theorem accounted_step {s t : State} {label : Label} (hstep : step hz s label = some t) :
    Accounted s t label := by
  cases effect_of_step hstep with
  | @begun task frame hfree hout hbusy =>
      refine accounted_of_inv trivial fun slack h => h.set ?_ (by simp) ?_
      · rw [hout]
        rfl
      · cases task <;> simp [hfree]
  | retried hwait | refused hwait =>
      exact accounted_of_inv trivial fun slack h => h.polled hwait rfl (by simp)
  | seen hwait hroom =>
      refine accounted_of_inv trivial fun slack h => h.polled hwait rfl fun other heq => ?_
      obtain rfl := Sender.ready.inj heq
      exact hroom
  | committed hready =>
      refine accounted_of_inv trivial fun slack h => ?_
      rw [length_streamBufferSend (h.room _ _ hready)]
      exact h.committed hready
  | cut hready hshort =>
      refine accounted_of_inv trivial fun slack h => ?_
      rw [length_streamBufferSend (h.room _ _ hready)] at hshort
      exact absurd rfl hshort
  | posted hcommitted => exact accounted_posted hcommitted
  | rxPosted => exact accounted_sendEventInt trivial (by simp)
  | resetPosted => exact accounted_sendEventInt trivial (by simp)
  | drained hidle =>
      exact accounted_of_inv trivial fun slack h => h.app (by rw [hidle]; rfl)
  | skipped hidle hqueue hbig =>
      refine accounted_of_inv trivial fun slack h => h.taken hidle hqueue ?_
      rw [hidle, Ctx.inputSize, if_neg (h.event_ne_input hqueue hbig)]
      rfl
  | input hidle hqueue hevent =>
      exact accounted_of_inv trivial fun slack h => h.taken hidle hqueue (if_pos hevent).symm
  | output hidle hqueue hevent =>
      refine accounted_of_inv trivial fun slack h => h.taken hidle hqueue ?_
      rw [Ctx.inputSize, hevent]
      rfl
  | reset hidle hqueue hevent =>
      refine accounted_of_inv trivial fun slack h => h.taken hidle hqueue ?_
      rw [hidle, Ctx.inputSize, hevent]
      rfl
  | read happ hless htick => exact accounted_read happ hless htick
  | gaveUp happ hother hlate => exact accounted_gaveUp happ hlate
  | wrote happ hfull =>
      refine accounted_of_inv ?_ fun slack h => h.app ?_
      · simp only [Clean, happ]
        exact fun hless => absurd hfull hless.ne
      · rw [happ]
        exact (Nat.sub_eq_zero_of_le hfull.ge).symm
  | starved happ hless hempty =>
      -- the bytes that the pump waits for are in the buffer
      intro slack h
      have hbytes := h.bytes
      simp only [owed, happ, unread, hempty, List.length_nil] at hbytes
      omega
  | woken hidle =>
      exact accounted_of_inv trivial fun slack h => h.app (by rw [hidle]; rfl)
  | finished hbusy =>
      exact accounted_of_inv trivial fun slack h => h.app (by rw [hbusy]; rfl)
  | ticked => exact accounted_of_inv trivial fun slack h => ⟨h.bytes, h.fits, h.room, h.lock⟩

-- In every run the bytes behind no event are those of the steps that were
-- not clean.
theorem exists_slack {s : State} {labels : List Label}
    (hrun : Run.exec (step hz) init labels = some s) :
    ∃ slack, Inv s slack ∧ (slack = 0 ↔ Run.Along (step hz) init Clean labels) :=
  Run.exec_ledger Inv inv_init (fun _ _ _ hstep => accounted_step hstep) hrun

theorem balanced_iff {s : State} {labels : List Label}
    (hrun : Run.exec (step hz) init labels = some s) (hout : ∀ task, s.senders task = .out) :
    queuedInput s.queue + unread s.app = s.inputBuf.length ↔
      Run.Along (step hz) init Clean labels := by
  obtain ⟨slack, hinv, hslack⟩ := exists_slack hrun
  have hbytes := hinv.bytes
  simp only [owed, inFlight, hout, Sender.unposted_out] at hbytes
  rw [← hslack]
  omega

theorem capacityWait_const (spaces size count : Nat) :
    capacityWait (fun _ => spaces) size (count + 1) = true ↔ size ≤ spaces := by
  by_cases hroom : spaces < size
  · have hwait : ∀ rounds, capacityWait (fun _ => spaces) size rounds = false := by
      intro rounds
      induction rounds with
      | zero => simp [capacityWait, poll, hroom]
      | succ rounds ih => simp [capacityWait, poll, hroom, ih]
    rw [hwait]
    simp only [Bool.false_eq_true, false_iff]
    omega
  · simp only [capacityWait, poll, if_neg hroom, Nat.succ_ne_zero, if_false, true_iff]
    omega

-- A call of send_int on its own leaves something behind only when there is
-- room for the bytes and none for the event.
theorem sendInt_atomic_iff (s : Stores) (data : Option (List UInt8)) :
    ((sendInt s data).2 ≠ .ok → (sendInt s data).1 = s) ↔
      ∀ bytes, data = some bytes → bytes ≠ [] →
        bytes.length ≤ spacesAvailable s.inputBuf → s.queue.length < EVENT_QUEUE_LEN := by
  cases data with
  | none => simp [sendInt]
  | some bytes =>
      by_cases hroom : bytes.length ≤ spacesAvailable s.inputBuf
      · have hwait : capacityWait (fun _ => spacesAvailable s.inputBuf) bytes.length
            (RINGBUF_TIMEOUT_MS / 10) = true :=
          (capacityWait_const _ _ _).mpr hroom
        simp only [sendInt, hwait, if_true, length_streamBufferSend hroom, ne_eq,
          not_true_eq_false, if_false, sendEventInt]
        by_cases hqueue : s.queue.length < EVENT_QUEUE_LEN
        · simp [hqueue]
        · have hnot : ¬spacesAvailable s.inputBuf < bytes.length := by omega
          simp [hqueue, hnot, Stores.ext_iff]
      · have hwait : capacityWait (fun _ => spacesAvailable s.inputBuf) bytes.length
            (RINGBUF_TIMEOUT_MS / 10) = false := by
          rw [Bool.eq_false_iff]
          exact fun h => hroom ((capacityWait_const _ _ _).mp h)
        simp [sendInt, hwait, hroom]

-- A refused frame leaves nothing behind exactly when the queue has room for
-- its event. In a run, at any moment when no task is in send_int, no byte is
-- left without its event exactly when every event found room in the queue and
-- the pump was never late.
theorem send_atomic_iff (hz : Nat) :
    (∀ s data, ((sendInt s data).2 ≠ .ok → (sendInt s data).1 = s) ↔
      ∀ bytes, data = some bytes → bytes ≠ [] →
        bytes.length ≤ spacesAvailable s.inputBuf → s.queue.length < EVENT_QUEUE_LEN) ∧
    ∀ labels s, Run.exec (step hz) init labels = some s → (∀ task, s.senders task = .out) →
      (queuedInput s.queue + unread s.app = s.inputBuf.length ↔
        Run.Along (step hz) init Clean labels) :=
  ⟨sendInt_atomic_iff, fun _ _ hrun hout => balanced_iff hrun hout⟩

def bootAck : Frame :=
  { bytes := [0xde, 0xad, 0x05, 0x00, 0x06, 0x01, 0x8f], nonempty := by simp, fits := by decide }

-- The start-up frame is sent and drained.
def bootRun : List Label :=
  [.begin .app bootAck, .poll .app, .commit .app, .post .app, .finish, .take, .round, .round]

theorem send_atomic_iff_boot :
    ∃ s, Run.exec (step 1000) init bootRun = some s ∧ s.written = [bootAck.bytes] ∧
      Run.Along (step 1000) init Clean bootRun := by
  have hrun : (Run.exec (step 1000) init bootRun).map
      (fun s => (s.senders .app, s.senders .zboss)) = some (.out, .out) := by
    decide +kernel
  have hdata : (Run.exec (step 1000) init bootRun).map (fun s =>
      (queuedInput s.queue + unread s.app, s.inputBuf.length, s.written)) =
      some (0, 0, [bootAck.bytes]) := by
    decide +kernel
  obtain ⟨s, hs, hout⟩ := Option.map_eq_some_iff.mp hrun
  rw [hs] at hdata
  simp only [Option.map_some, Option.some.injEq, Prod.mk.injEq] at hout hdata
  refine ⟨s, hs, hdata.2.2, ((send_atomic_iff 1000).2 bootRun s hs fun task => ?_).mp ?_⟩
  · cases task
    · exact hout.1
    · exact hout.2
  · rw [hdata.1, hdata.2.1]

-- The host has sent sixty chunks that the app task has not looked at yet when
-- a frame of the NCP is due.
def fullQueueRun : List Label :=
  List.replicate 60 (.rxPost 1) ++ [.begin .zboss bootAck, .poll .zboss, .commit .zboss,
    .post .zboss]

theorem not_send_atomic_of_full_queue :
    (∃ s, (sendInt s (some bootAck.bytes)).2 = .fail ∧ (sendInt s (some bootAck.bytes)).1 ≠ s) ∧
    ∃ s, Run.exec (step 1000) init fullQueueRun = some s ∧ (∀ task, s.senders task = .out) ∧
      queuedInput s.queue = 0 ∧ unread s.app = 0 ∧ s.inputBuf = bootAck.bytes := by
  refine ⟨⟨{ inputBuf := [], queue := List.replicate 60 { event := .output, size := 1 } },
    by decide +kernel, by decide +kernel⟩, ?_⟩
  have hrun : (Run.exec (step 1000) init fullQueueRun).map (fun s =>
      (s.senders .app, s.senders .zboss, queuedInput s.queue, unread s.app, s.inputBuf)) =
      some (.out, .out, 0, 0, bootAck.bytes) := by
    decide +kernel
  obtain ⟨s, hs, hfinal⟩ := Option.map_eq_some_iff.mp hrun
  simp only [Prod.mk.injEq] at hfinal
  obtain ⟨happ, hzboss, hqueued, hunread, hbuf⟩ := hfinal
  refine ⟨s, hs, fun task => ?_, hqueued, hunread, hbuf⟩
  cases task
  · exact happ
  · exact hzboss

end EspCoordinator.Transport.Path
