import EspCoordinator.Transport.Path.Theorems

namespace EspCoordinator.Transport.Drain

open Transport.Path (Frame Task Sender App Label Clean)

variable {hz : Nat}

-- A state of the path with the frames committed so far, and the last of them
-- that no event stands for yet.
structure State where
  path : Path.State
  committed : List Frame
  unposted : List Frame

def init : State := { path := Path.init, committed := [], unposted := [] }

def State.record (s : State) (path : Path.State) : Label → State
  | .commit task =>
      match path.senders task with
      | .committed frame =>
          { path, committed := s.committed ++ [frame], unposted := s.unposted ++ [frame] }
      | _ => { s with path }
  | .post _ => { s with path, unposted := s.unposted.tail }
  | _ => { s with path }

def step (hz : Nat) (s : State) (label : Label) : Option State :=
  (Path.step hz s.path label).map fun path => s.record path label

-- An event says the length of the oldest frame that has none.
def InOrder (s : State) : Label → Prop
  | .post task =>
      s.unposted.head?.map (·.bytes.length) = some (s.path.senders task).unposted
  | _ => True

theorem record_path (s : State) (path : Path.State) (label : Label) :
    (s.record path label).path = path := by
  cases label with
  | commit task =>
      simp only [State.record]
      split <;> rfl
  | _ => rfl

theorem path_of_step {s t : State} {label : Label} (h : step hz s label = some t) :
    Path.step hz s.path label = some t.path := by
  obtain ⟨path, hpath, rfl⟩ := Option.map_eq_some_iff.mp h
  rw [record_path, hpath]

theorem path_of_exec {s t : State} {labels : List Label}
    (h : Run.exec (step hz) s labels = some t) :
    Run.exec (Path.step hz) s.path labels = some t.path := by
  induction labels generalizing s with
  | nil =>
      obtain rfl : s = t := by simpa using h
      rfl
  | cons label rest ih =>
      obtain ⟨next, hstep, hrest⟩ := Run.exec_cons.mp h
      exact Run.exec_cons.mpr ⟨next.path, path_of_step hstep, ih hrest⟩

-- Keeping the record stops no run.
theorem exists_exec {s : State} {path : Path.State} {labels : List Label}
    (h : Run.exec (Path.step hz) s.path labels = some path) :
    ∃ t, Run.exec (step hz) s labels = some t ∧ t.path = path := by
  induction labels generalizing s with
  | nil => exact ⟨s, rfl, by simpa using h⟩
  | cons label rest ih =>
      obtain ⟨next, hstep, hrest⟩ := Run.exec_cons.mp h
      have hnext : step hz s label = some (s.record next label) := by
        rw [step, hstep, Option.map_some]
      rw [← record_path s next label] at hrest
      obtain ⟨t, ht, hpath⟩ := ih hrest
      exact ⟨t, Run.exec_cons.mpr ⟨_, hnext, ht⟩, hpath⟩

-- What the pump holds of the frame it is working on, and what is still in the buffer.
inductive Pumping : App → List Frame → List UInt8 → Prop where
  | off {app : App} (h : ∀ size got deadline, app ≠ .reading size got deadline) :
      Pumping app [] []
  | on {frame : Frame} {got unread : List UInt8} {deadline : UInt32}
      (h : got ++ unread = frame.bytes) :
      Pumping (.reading frame.bytes.length got deadline) [frame] unread

-- The frames that were committed are written, in the hands of the pump,
-- queued and unposted, in this order.
structure Paired (s : State) (done current queued : List Frame) (unread : List UInt8) : Prop where
  committed : s.committed = done ++ (current ++ (queued ++ s.unposted))
  written : s.path.written = done.map Frame.bytes
  pumping : Pumping s.path.app current unread
  sizes : eventSizes .input s.path.queue = queued.map (·.bytes.length)
  buffer : s.path.inputBuf = unread ++ (queued ++ s.unposted).flatMap Frame.bytes

theorem paired_init : Paired init [] [] [] [] :=
  ⟨rfl, rfl, .off (by simp [init, Path.init]), rfl, rfl⟩

def Ordered (s : State) : Prop := ∃ done current queued unread, Paired s done current queued unread

variable {s : State} {path : Path.State} {done current queued : List Frame} {unread : List UInt8}

theorem Paired.written_prefix (h : Paired s done current queued unread) :
    s.path.written <+: s.committed.map Frame.bytes := by
  rw [h.written, h.committed, List.map_append]
  exact List.prefix_append _ _

-- A step that leaves the buffer and the input events alone.
theorem Paired.quiet (h : Paired s done current queued unread)
    (hwritten : path.written = s.path.written) (happ : Pumping path.app current unread)
    (hqueue : eventSizes .input path.queue = eventSizes .input s.path.queue)
    (hbuf : path.inputBuf = s.path.inputBuf) : Ordered { s with path } :=
  ⟨done, current, queued, unread, h.committed, hwritten.trans h.written, happ,
    hqueue.trans h.sizes, hbuf.trans h.buffer⟩

theorem Pumping.idle {app : App} (h : Pumping app current unread)
    (happ : ∀ size got deadline, app ≠ .reading size got deadline) :
    current = [] ∧ unread = [] := by
  cases h with
  | off => exact ⟨rfl, rfl⟩
  | on => exact absurd rfl (happ _ _ _)

theorem Pumping.reading {size : Nat} {got : List UInt8} {deadline : UInt32}
    (h : Pumping (.reading size got deadline) current unread) :
    ∃ frame, current = [frame] ∧ size = frame.bytes.length ∧ got ++ unread = frame.bytes := by
  cases h with
  | off hoff => exact absurd rfl (hoff size got deadline)
  | on hframe => exact ⟨_, rfl, rfl, hframe⟩

theorem ordered_committed {task : Task} {frame : Frame} (hinv : Path.Inv s.path 0)
    (h : Paired s done current queued unread) (hready : s.path.senders task = .ready frame) :
    Ordered (s.record { s.path.set task (.committed frame) with
      inputBuf := (streamBufferSend s.path.inputBuf frame.bytes).1 } (.commit task)) := by
  rw [Path.length_streamBufferSend (hinv.room task frame hready)]
  simp only [State.record, Path.State.set, Function.update_self]
  refine ⟨done, current, queued, unread, ?_, h.written, h.pumping, h.sizes, ?_⟩
  · simp only [h.committed, List.append_assoc]
  · simp only [h.buffer, List.flatMap_append, List.flatMap_cons, List.flatMap_nil,
      List.append_nil, List.append_assoc]

-- The oldest frame without an event gets the event.
theorem ordered_posted {task : Task} {frame : Frame} (h : Paired s done current queued unread)
    (hroom : s.path.queue.length < EVENT_QUEUE_LEN) (horder : InOrder s (.post task))
    (hcommitted : s.path.senders task = .committed frame) :
    Ordered (s.record { s.path.set task .out with
      queue := (sendEventInt s.path.queue { event := .input, size := frame.bytes.length }).1 }
      (.post task)) := by
  simp only [InOrder, hcommitted, Path.Sender.unposted_committed] at horder
  obtain ⟨oldest, holdest, hlen⟩ := Option.map_eq_some_iff.mp horder
  obtain ⟨younger, hunposted⟩ : ∃ younger, s.unposted = oldest :: younger := by
    cases hlist : s.unposted with
    | nil => simp [hlist] at holdest
    | cons first rest =>
        rw [hlist] at holdest
        cases holdest
        exact ⟨rest, rfl⟩
  have hcommit := h.committed
  have hbuffer := h.buffer
  rw [hunposted] at hcommit hbuffer
  refine ⟨done, current, queued ++ [oldest], unread, ?_, h.written, h.pumping, ?_, ?_⟩
  · simp [State.record, hunposted, hcommit]
  · have hsizes := h.sizes
    simp [State.record, eventSizes_sendEventInt, hroom, Path.State.set, hsizes, hlen]
  · simp [State.record, hunposted, Path.State.set, hbuffer]

theorem ordered_input {ctx : Ctx} {queue : List Ctx} (deadline : UInt32)
    (h : Paired s done [] queued []) (hqueue : s.path.queue = ctx :: queue)
    (hevent : ctx.event = .input) :
    Ordered { s with path := { s.path with queue, app := .reading ctx.size [] deadline } } := by
  have hsizes := h.sizes
  rw [hqueue, eventSizes_cons, if_pos hevent] at hsizes
  obtain ⟨frame, rest, rfl, hsize, hrest⟩ := List.map_eq_cons_iff.mp hsizes.symm
  refine ⟨done, [frame], rest, frame.bytes, ?_, h.written, ?_, hrest.symm, ?_⟩
  · simpa using h.committed
  · simp only [← hsize]
    exact .on (List.nil_append _)
  · simpa using h.buffer

-- What the pump is short of is all there, so one read gets it.
theorem ordered_read {size : Nat} {got : List UInt8} {deadline : UInt32}
    (h : Paired s done current queued unread) (happ : s.path.app = .reading size got deadline) :
    Ordered { s with path := { s.path with
      inputBuf := s.path.inputBuf.drop (size - got.length)
      app := .reading size (got ++ s.path.inputBuf.take (size - got.length)) deadline } } := by
  obtain ⟨frame, rfl, rfl, hframe⟩ := (happ ▸ h.pumping).reading
  have hlen : got.length + unread.length = frame.bytes.length := by
    rw [← hframe, List.length_append]
  have hshort : frame.bytes.length - got.length = unread.length := by omega
  have hbuffer := h.buffer
  refine ⟨done, [frame], queued, [], h.committed, h.written, ?_, h.sizes, ?_⟩
  · simp only [hbuffer, hshort, List.take_left]
    exact .on (by rw [List.append_nil, hframe])
  · simp only [hbuffer, hshort, List.drop_left, List.nil_append]

theorem ordered_wrote {got : List UInt8} {deadline : UInt32}
    (h : Paired s done current queued unread)
    (happ : s.path.app = .reading got.length got deadline) :
    Ordered { s with path := { s.path with
      app := .idle, written := s.path.written ++ [got] } } := by
  obtain ⟨frame, rfl, hsize, hframe⟩ := (happ ▸ h.pumping).reading
  have hlen : got.length + unread.length = frame.bytes.length := by
    rw [← hframe, List.length_append]
  obtain rfl : unread = [] := List.length_eq_zero_iff.mp (by omega)
  rw [List.append_nil] at hframe
  refine ⟨done ++ [frame], [], queued, [], ?_, ?_, .off (by simp), h.sizes, h.buffer⟩
  · simpa using h.committed
  · simp [h.written, hframe]

theorem ordered_step {label : Label} {t : State} (hinv : Path.Inv s.path 0) (h : Ordered s)
    (hclean : Clean s.path label) (horder : InOrder s label)
    (hstep : step hz s label = some t) : Ordered t := by
  obtain ⟨done, current, queued, unread, h⟩ := h
  obtain ⟨path, hpath, rfl⟩ := Option.map_eq_some_iff.mp hstep
  cases Path.effect_of_step hpath with
  | begun | retried | refused | seen | ticked => exact h.quiet rfl h.pumping rfl rfl
  | committed hready => exact ordered_committed hinv h hready
  | cut hready hshort =>
      rw [Path.length_streamBufferSend (hinv.room _ _ hready)] at hshort
      exact absurd rfl hshort
  | posted hcommitted => exact ordered_posted h hclean horder hcommitted
  | rxPosted | resetPosted =>
      exact h.quiet rfl h.pumping (by simp [eventSizes_sendEventInt]) rfl
  | drained hidle | woken hidle =>
      obtain ⟨rfl, rfl⟩ := h.pumping.idle (by simp [hidle])
      exact h.quiet rfl (.off (by simp)) rfl rfl
  | finished hbusy =>
      obtain ⟨rfl, rfl⟩ := h.pumping.idle (by simp [hbusy])
      exact h.quiet rfl (.off (by simp)) rfl rfl
  | skipped hidle hqueue hbig =>
      obtain ⟨rfl, rfl⟩ := h.pumping.idle (by simp [hidle])
      have hevent := hinv.event_ne_input hqueue hbig
      refine h.quiet rfl (.off (by simp [hidle])) ?_ rfl
      simp [eventSizes_cons, hqueue, hevent]
  | input hidle hqueue hevent =>
      obtain ⟨rfl, rfl⟩ := h.pumping.idle (by simp [hidle])
      exact ordered_input _ h hqueue hevent
  | output hidle hqueue hevent =>
      obtain ⟨rfl, rfl⟩ := h.pumping.idle (by simp [hidle])
      refine h.quiet rfl (.off (by simp)) ?_ rfl
      simp [eventSizes_cons, hqueue, hevent]
  | reset hidle hqueue hevent =>
      obtain ⟨rfl, rfl⟩ := h.pumping.idle (by simp [hidle])
      refine h.quiet rfl (.off (by simp [hidle])) ?_ rfl
      simp [eventSizes_cons, hqueue, hevent]
  | read happ => exact ordered_read h happ
  | @gaveUp size got deadline happ hother hlate =>
      -- with a clean clock nothing is missing
      simp only [Clean, happ] at hclean
      obtain ⟨frame, -, rfl, hframe⟩ := (happ ▸ h.pumping).reading
      have hall : ¬got.length < frame.bytes.length := fun hless =>
        UInt32.not_lt.mpr (hlate hless) (hclean hless)
      have hlen : got.length ≤ frame.bytes.length := by
        rw [← hframe, List.length_append]
        exact Nat.le_add_right _ _
      omega
  | wrote happ hfull =>
      subst hfull
      exact ordered_wrote h happ
  | @starved size got deadline happ hless hempty =>
      exfalso
      obtain ⟨frame, -, rfl, hframe⟩ := (happ ▸ h.pumping).reading
      have hunread : unread = [] := by
        have hbuffer := h.buffer
        rw [hempty] at hbuffer
        exact (List.append_eq_nil_iff.mp hbuffer.symm).1
      rw [hunread, List.append_nil] at hframe
      rw [hframe] at hless
      exact Nat.lt_irrefl _ hless

theorem ordered_of_run {labels : List Label} (hrun : Run.exec (step hz) init labels = some s)
    (hclean : Run.Along (Path.step hz) Path.init Clean labels)
    (horder : Run.Along (step hz) init InOrder labels) : Path.Inv s.path 0 ∧ Ordered s := by
  have hboth : Run.Along (step hz) init (fun s label => Clean s.path label ∧ InOrder s label)
      labels :=
    fun past label before hpre hbefore =>
      ⟨hclean past label before.path hpre (path_of_exec hbefore),
        horder past label before hpre hbefore⟩
  refine (Run.exec_along (fun s => Path.Inv s.path 0 ∧ Ordered s) (Q := fun _ _ => True)
    ⟨Path.inv_init, [], [], [], [], paired_init⟩ ?_ hrun hboth).1
  rintro before label next ⟨hinv, hordered⟩ ⟨hlabel, hnext⟩ hstep
  obtain ⟨lost, hinv', hlost⟩ := Path.accounted_step (path_of_step hstep) 0 hinv
  obtain rfl := hlost.mpr hlabel
  exact ⟨⟨hinv', ordered_step hinv hordered hlabel hnext hstep⟩, trivial⟩

-- The calls of write_int get the committed frames one by one, when every event
-- finds room and says the length of the oldest frame, and the pump is not late.
theorem written_in_order (hz : Nat) (labels : List Label) (s : State)
    (hrun : Run.exec (step hz) init labels = some s)
    (hclean : Run.Along (Path.step hz) Path.init Clean labels)
    (horder : Run.Along (step hz) init InOrder labels) :
    s.path.written <+: s.committed.map Frame.bytes := by
  obtain ⟨-, done, current, queued, unread, hpaired⟩ := ordered_of_run hrun hclean horder
  exact hpaired.written_prefix

theorem written_in_order_boot :
    ∃ s, Run.exec (step 1000) init Path.bootRun = some s ∧
      s.path.written = [Path.bootAck.bytes] ∧ s.path.written <+: s.committed.map Frame.bytes := by
  have hfinal : (Run.exec (step 1000) init Path.bootRun).map (fun s =>
      ((s.path.senders .app, s.path.senders .zboss),
        (Path.queuedInput s.path.queue + Path.unread s.path.app, s.path.inputBuf.length),
        s.path.written)) = some ((.out, .out), (0, 0), [Path.bootAck.bytes]) := by
    decide +kernel
  obtain ⟨s, hs, hout⟩ := Option.map_eq_some_iff.mp hfinal
  simp only [Prod.mk.injEq] at hout
  obtain ⟨⟨happ, hzboss⟩, ⟨howed, hbuf⟩, hwritten⟩ := hout
  have hclean : Run.Along (Path.step 1000) Path.init Clean Path.bootRun := by
    refine (Path.balanced_iff (path_of_exec hs) fun task => ?_).mp (howed.trans hbuf.symm)
    cases task
    · exact happ
    · exact hzboss
  have horder : Run.Along (step 1000) init InOrder Path.bootRun := by
    refine Run.along_of_check (fun s label => match label with
      | .post task => s.unposted.head?.map (·.bytes.length) = some (s.path.senders task).unposted
      | _ => true) (fun s label h => ?_) (by decide +kernel)
    cases label <;> simp_all [InOrder]
  exact ⟨s, hs, hwritten, written_in_order 1000 Path.bootRun s hs hclean horder⟩

-- zb_ncp::send_boot_ready_frame
def bootReadyFrame : Frame :=
  { bytes := [0xde, 0xad, 0x0e, 0x00, 0x06, 0xc0, 0x5d, 0x50, 0xd4, 0x00, 0x01, 0x02, 0x00, 0xff,
      0x00, 0x00]
    nonempty := by simp
    fits := by decide }

-- The first ACK of send_ack.
def ackFrame : Frame :=
  { bytes := [0xde, 0xad, 0x05, 0x00, 0x06, 0xc5, 0x9c], nonempty := by simp, fits := by decide }

-- An ACK gets in between the bytes of the boot-ready frame and their event.
def overtakenRun : List Label :=
  [.begin .zboss bootReadyFrame, .poll .zboss, .commit .zboss, .begin .app ackFrame,
    .poll .app, .commit .app, .post .app, .post .zboss, .finish, .take, .round, .round]

theorem not_written_in_order :
    ¬∀ (hz : Nat) (labels : List Label) (s : State), Run.exec (step hz) init labels = some s →
      Run.Along (Path.step hz) Path.init Clean labels →
        s.path.written <+: s.committed.map Frame.bytes := by
  intro h
  have hrun : (Run.exec (step 1000) init overtakenRun).map (fun s =>
      (s.path.senders .app, s.path.senders .zboss,
        Path.queuedInput s.path.queue + Path.unread s.path.app, s.path.inputBuf.length)) =
      some (.out, .out, 16, 16) := by
    decide +kernel
  have hwritten : (Run.exec (step 1000) init overtakenRun).map (fun s =>
      (s.path.written, s.committed)) =
      some ([bootReadyFrame.bytes.take 7], [bootReadyFrame, ackFrame]) := by
    decide +kernel
  obtain ⟨s, hs, hout⟩ := Option.map_eq_some_iff.mp hrun
  rw [hs] at hwritten
  simp only [Option.map_some, Option.some.injEq, Prod.mk.injEq] at hout hwritten
  obtain ⟨happ, hzboss, howed, hbuf⟩ := hout
  have hclean : Run.Along (Path.step 1000) Path.init Clean overtakenRun := by
    refine (Path.balanced_iff (path_of_exec hs) fun task => ?_).mp (howed.trans hbuf.symm)
    cases task
    · exact happ
    · exact hzboss
  have hprefix := h 1000 overtakenRun s hs hclean
  rw [hwritten.1, hwritten.2] at hprefix
  revert hprefix
  decide

-- The senders of the protocol layer hold m_tx_sem over the whole of send_int.
def Exclusive (s : State) : Label → Prop
  | .begin _ _ => ∀ task, s.path.senders task = .out
  | _ => True

def awaiting : Sender → List Frame
  | .committed frame => [frame]
  | _ => []

-- One sender at a time, and only its frame may wait for an event.
def Alone (s : State) : Prop :=
  ∃ task, (∀ other, other ≠ task → s.path.senders other = .out) ∧
    s.unposted = awaiting (s.path.senders task)

theorem Alone.eq_of_busy (h : Alone s) (task : Task) (hbusy : s.path.senders task ≠ .out) :
    (∀ other, other ≠ task → s.path.senders other = .out) ∧
      s.unposted = awaiting (s.path.senders task) := by
  obtain ⟨owner, hothers, hunposted⟩ := h
  obtain rfl : task = owner := by
    by_contra hne
    exact hbusy (hothers task hne)
  exact ⟨hothers, hunposted⟩

theorem alone_set {t : State} {task : Task} {sender : Sender}
    (hothers : ∀ other, other ≠ task → s.path.senders other = .out)
    (hsenders : t.path.senders = Function.update s.path.senders task sender)
    (hunposted : t.unposted = awaiting sender) : Alone t := by
  refine ⟨task, fun other hother => ?_, ?_⟩
  · rw [hsenders, Function.update_of_ne hother]
    exact hothers other hother
  · rw [hsenders, Function.update_self, hunposted]

theorem alone_quiet {path : Path.State} (h : Alone s) (hsenders : path.senders = s.path.senders) :
    Alone { s with path } := by
  obtain ⟨task, hothers, hunposted⟩ := h
  exact ⟨task, hsenders ▸ hothers, hsenders ▸ hunposted⟩

theorem alone_polled {task : Task} {frame : Frame} {count : Nat} {sender : Sender} (h : Alone s)
    (hwait : s.path.senders task = .waiting frame count) (hsender : awaiting sender = []) :
    Alone { s with path := s.path.set task sender } := by
  obtain ⟨hothers, hunposted⟩ := h.eq_of_busy task (by simp [hwait])
  rw [hwait] at hunposted
  exact alone_set hothers rfl (hunposted.trans hsender.symm)

theorem alone_step {label : Label} {t : State} (h : Alone s) (hexclusive : Exclusive s label)
    (hstep : step hz s label = some t) : Alone t := by
  obtain ⟨path, hpath, rfl⟩ := Option.map_eq_some_iff.mp hstep
  cases Path.effect_of_step hpath with
  | begun =>
      obtain ⟨owner, -, hunposted⟩ := h
      rw [hexclusive owner] at hunposted
      exact alone_set (fun other _ => hexclusive other) rfl hunposted
  | retried hwait | refused hwait | seen hwait => exact alone_polled h hwait rfl
  | @committed task frame hready =>
      obtain ⟨hothers, hunposted⟩ := h.eq_of_busy task (by simp [hready])
      rw [hready] at hunposted
      refine alone_set hothers (congrArg Path.State.senders (record_path ..)) ?_
      simp [State.record, Path.State.set, hunposted, awaiting]
  | @cut task frame hready =>
      obtain ⟨hothers, hunposted⟩ := h.eq_of_busy task (by simp [hready])
      rw [hready] at hunposted
      refine alone_set hothers (congrArg Path.State.senders (record_path ..)) ?_
      simp [State.record, Path.State.set, hunposted, awaiting]
  | @posted task frame hcommitted =>
      obtain ⟨hothers, hunposted⟩ := h.eq_of_busy task (by simp [hcommitted])
      rw [hcommitted] at hunposted
      refine alone_set hothers rfl ?_
      simp [State.record, hunposted, awaiting]
  | _ => exact alone_quiet h rfl

theorem inOrder_of_alone {label : Label} {t : State} (h : Alone s)
    (hstep : step hz s label = some t) : InOrder s label := by
  obtain ⟨path, hpath, rfl⟩ := Option.map_eq_some_iff.mp hstep
  cases Path.effect_of_step hpath with
  | @posted task frame hcommitted =>
      obtain ⟨-, hunposted⟩ := h.eq_of_busy task (by simp [hcommitted])
      rw [hcommitted] at hunposted
      simp [InOrder, hunposted, hcommitted, awaiting]
  | _ => trivial

theorem alone_init : Alone init := ⟨.app, fun _ _ => rfl, rfl⟩

-- Were m_tx_sem held for every frame, no event could be overtaken.
theorem inOrder_of_exclusive {labels : List Label} (hrun : Run.exec (step hz) init labels = some s)
    (hexclusive : Run.Along (step hz) init Exclusive labels) :
    Run.Along (step hz) init InOrder labels := by
  refine (Run.exec_along Alone alone_init ?_ hrun hexclusive).2
  intro before label next halone hlabel hstep
  exact ⟨alone_step halone hlabel hstep, inOrder_of_alone halone hstep⟩

end EspCoordinator.Transport.Drain
