import EspCoordinator.Transport.Pump

namespace EspCoordinator.Transport.Pump

open Run (Accounts)

variable {s t : State}

-- What the app task still has to read for the event it has taken.
def App.unread : App → Nat
  | .receiving size => size
  | _ => 0

-- What rx_pump has sent and not yet posted.
def unposted : Option (Iface × Loop) → Nat
  | some (_, .posting sent _ _) => sent
  | _ => 0

def owed (s : State) : Nat := (eventSizes .output s.queue).sum + s.app.unread + unposted s.holder

-- The sizes in the loop of rx_pump.
def Loop.Sized : Loop → Prop
  | .sending rest => rest.length ≤ BUF_SIZE
  | .posting sent rest _ => 0 < sent ∧ sent + rest.length ≤ BUF_SIZE

-- No event stands for the last `lost` bytes of the buffer.
structure Inv (s : State) (lost : Nat) : Prop where
  bytes : s.accepted = s.passed ++ s.outputBuf
  length : s.outputBuf.length = owed s + lost
  fits : ∀ size ∈ eventSizes .output s.queue, size ≤ BUFFER_SIZE
  sized : ∀ iface loop, s.holder = some (iface, loop) → loop.Sized

-- The last try finds room, too.
def Clean (s : State) : Label → Prop
  | .post => ∀ iface sent rest, s.holder = some (iface, .posting sent rest 0) →
      s.queue.length < EVENT_QUEUE_LEN
  | _ => True

theorem inv_init : Inv init 0 :=
  ⟨rfl, rfl, by simp [init, eventSizes], by simp [init]⟩

@[simp] theorem unposted_next (iface : Iface) (rest : List UInt8) :
    unposted (Loop.next iface rest) = 0 := by
  unfold Loop.next
  split <;> rfl

theorem sized_next {iface other : Iface} {rest : List UInt8} {loop : Loop}
    (hrest : rest.length ≤ BUF_SIZE) (h : Loop.next iface rest = some (other, loop)) :
    loop.Sized := by
  unfold Loop.next at h
  split at h
  · cases h
  · obtain ⟨-, rfl⟩ := Prod.mk.inj (Option.some.inj h)
    exact hrest

theorem accounted_lock {iface : Iface} (hstep : step s (.lock iface) = some t) :
    Accounts Inv Clean s (.lock iface) t := by
  refine Accounts.of_inv trivial fun lost h => ?_
  simp only [step] at hstep
  split at hstep
  · rename_i chunk hwaiting hfree
    cases hstep
    refine ⟨h.bytes, ?_, h.fits, fun _ _ => sized_next chunk.fits⟩
    have hlength := h.length
    simp only [owed, hfree, unposted] at hlength
    simp only [owed, unposted_next]
    exact hlength
  · cases hstep

-- What was taken from the chunk is behind the bytes already there.
theorem accounted_send (hstep : step s .send = some t) : Accounts Inv Clean s .send t := by
  refine Accounts.of_inv trivial fun lost h => ?_
  simp only [step] at hstep
  split at hstep
  · rename_i iface rest hholder
    have hlength := h.length
    have hrest : rest.length ≤ BUF_SIZE := h.sized _ _ hholder
    simp only [owed, hholder, unposted] at hlength
    split at hstep
    · cases hstep
      exact ⟨h.bytes, hlength, h.fits, by simp⟩
    · rename_i hsome
      cases hstep
      simp only [streamBufferSend] at hsome ⊢
      refine ⟨?_, ?_, h.fits, ?_⟩
      · rw [h.bytes, List.append_assoc]
      · simp only [owed, unposted, List.length_append, List.length_take]
        omega
      · intro other loop heq
        obtain ⟨-, rfl⟩ := Prod.mk.inj (Option.some.inj heq)
        simp only [Loop.Sized, List.length_drop]
        omega
  · cases hstep

section Posting

variable {iface : Iface} {sent tries : Nat} {rest : List UInt8}

theorem Inv.length_posting {lost : Nat} (h : Inv s lost)
    (hholder : s.holder = some (iface, .posting sent rest tries)) :
    s.outputBuf.length = (eventSizes .output s.queue).sum + s.app.unread + sent + lost := by
  simpa only [owed, hholder, unposted] using h.length

theorem accounted_posted (hholder : s.holder = some (iface, .posting sent rest tries))
    (hroom : s.queue.length < EVENT_QUEUE_LEN) :
    Accounts Inv Clean s .post { s with
      queue := s.queue ++ [{ event := .output, size := sent }], holder := Loop.next iface rest } := by
  intro lost h
  have hlength := h.length_posting hholder
  obtain ⟨hsent, hchunk⟩ := h.sized _ _ hholder
  have hclean : Clean s .post := fun _ _ _ _ => hroom
  have hsizes := eventSizes_sendEventInt .output s.queue { event := .output, size := sent }
  simp only [sendEventInt, hroom, and_self, if_true] at hsizes
  refine ⟨0, ⟨h.bytes, ?_, ?_, fun _ _ => sized_next (by omega)⟩, by simpa using hclean⟩
  · simp only [owed, hsizes, List.sum_append, List.sum_singleton, unposted_next]
    omega
  · simp only [hsizes]
    intro size hsize
    rcases List.mem_append.mp hsize with hold | hnew
    · exact h.fits size hold
    · obtain rfl := List.mem_singleton.mp hnew
      simp only [BUF_SIZE] at hchunk
      simp only [BUFFER_SIZE]
      omega

theorem accounted_retry (left : Nat) (hholder : s.holder = some (iface, .posting sent rest tries))
    (htries : 0 < tries) :
    Accounts Inv Clean s .post { s with holder := some (iface, .posting sent rest left) } := by
  refine Accounts.of_inv ?_ fun lost h => ⟨h.bytes, h.length_posting hholder, h.fits, ?_⟩
  · intro other sent' rest' heq
    rw [hholder] at heq
    obtain ⟨-, hloop⟩ := Prod.mk.inj (Option.some.inj heq)
    obtain ⟨-, -, rfl⟩ := Loop.posting.inj hloop
    exact absurd htries (Nat.lt_irrefl 0)
  · intro other loop heq
    obtain ⟨-, rfl⟩ := Prod.mk.inj (Option.some.inj heq)
    obtain ⟨hsent, hchunk⟩ := h.sized _ _ hholder
    exact ⟨hsent, hchunk⟩

-- The event that is given up leaves its bytes behind.
theorem accounted_givenUp (hholder : s.holder = some (iface, .posting sent rest 0))
    (hfull : ¬s.queue.length < EVENT_QUEUE_LEN) :
    Accounts Inv Clean s .post { s with holder := Loop.next iface rest } := by
  intro lost h
  have hlength := h.length_posting hholder
  obtain ⟨hsent, hchunk⟩ := h.sized _ _ hholder
  refine ⟨sent, ⟨h.bytes, ?_, h.fits, fun _ _ => sized_next (by omega)⟩, ?_⟩
  · simp only [owed, unposted_next]
    omega
  · constructor
    · intro hzero
      omega
    · exact fun hclean => absurd (hclean iface sent rest hholder) hfull

theorem accounted_post (hstep : step s .post = some t) : Accounts Inv Clean s .post t := by
  simp only [step] at hstep
  split at hstep
  · rename_i iface sent rest tries hholder
    by_cases hroom : s.queue.length < EVENT_QUEUE_LEN
    · simp only [sendEventInt, hroom, if_true, Option.some.injEq] at hstep
      obtain rfl := hstep
      exact accounted_posted hholder hroom
    · simp only [sendEventInt, hroom, if_false] at hstep
      split at hstep
      · rename_i htries
        cases hstep
        exact accounted_retry _ hholder htries
      · rename_i htries
        cases hstep
        obtain rfl : tries = 0 := by omega
        exact accounted_givenUp hholder hroom
  · cases hstep

end Posting

theorem accounted_otherPost {ctx : Ctx} (hstep : step s (.otherPost ctx) = some t) :
    Accounts Inv Clean s (.otherPost ctx) t := by
  refine Accounts.of_inv trivial fun lost h => ?_
  simp only [step] at hstep
  split at hstep
  · cases hstep
  · rename_i hevent
    cases hstep
    have hsizes := eventSizes_sendEventInt .output s.queue ctx
    simp only [hevent, false_and, if_false] at hsizes
    refine ⟨h.bytes, ?_, ?_, h.sized⟩
    · simp only [owed, hsizes]
      exact h.length
    · simp only [hsizes]
      exact h.fits

theorem accounted_take (hstep : step s .take = some t) : Accounts Inv Clean s .take t := by
  refine Accounts.of_inv trivial fun lost h => ?_
  have hlength := h.length
  have hfits := h.fits
  simp only [step] at hstep
  split at hstep
  · rename_i hidle
    split at hstep
    · split at hstep
      · cases hstep
        simp only [owed, hidle, App.unread] at hlength
        exact ⟨h.bytes, hlength, h.fits, h.sized⟩
      · cases hstep
    · rename_i ctx queue hqueue
      simp only [owed, hqueue, hidle, eventSizes_cons, App.unread] at hlength hfits
      have hrest : ∀ size ∈ eventSizes .output queue, size ≤ BUFFER_SIZE := by
        intro size hsize
        refine hfits size ?_
        split
        · exact List.mem_cons_of_mem _ hsize
        · exact hsize
      split at hstep
      · rename_i hbig
        cases hstep
        have hevent : ctx.event ≠ .output := by
          intro heq
          have hsmall := hfits ctx.size (by simp [heq])
          omega
        rw [if_neg hevent] at hlength
        exact ⟨h.bytes, by simpa [owed, hidle, App.unread] using hlength, hrest, h.sized⟩
      · split at hstep
        all_goals
          rename_i hevent
          cases hstep
          refine ⟨h.bytes, ?_, hrest, h.sized⟩
          simp only [hevent, reduceCtorEq, if_false, if_true, List.sum_cons] at hlength
          simp only [owed, hidle, App.unread]
          omega
  · cases hstep

-- The bytes of an event are in the buffer before the event is in the queue.
theorem accounted_receive (hstep : step s .receive = some t) : Accounts Inv Clean s .receive t := by
  refine Accounts.of_inv trivial fun lost h => ?_
  have hlength := h.length
  simp only [step] at hstep
  split at hstep
  · rename_i size happ
    simp only [owed, happ, App.unread] at hlength
    have htake : (s.outputBuf.take size).length = size := by
      rw [List.length_take]
      omega
    split at hstep
    · cases hstep
    · rw [if_neg (not_not.mpr htake)] at hstep
      cases hstep
      refine ⟨?_, ?_, h.fits, h.sized⟩
      · rw [h.bytes, List.append_assoc, List.take_append_drop]
      · simp only [owed, App.unread, List.length_drop]
        omega
  · cases hstep

theorem accounted_step {label : Label} (hstep : step s label = some t) :
    Accounts Inv Clean s label t := by
  cases label with
  | call iface chunk =>
      simp only [step, Option.ite_none_right_eq_some, Option.some.injEq] at hstep
      obtain ⟨-, rfl⟩ := hstep
      exact Accounts.of_inv trivial fun lost h => ⟨h.bytes, h.length, h.fits, h.sized⟩
  | lock iface => exact accounted_lock hstep
  | send => exact accounted_send hstep
  | post => exact accounted_post hstep
  | otherPost ctx => exact accounted_otherPost hstep
  | take => exact accounted_take hstep
  | receive => exact accounted_receive hstep
  | receiveTimeout =>
      refine Accounts.of_inv trivial fun lost h => ?_
      have hlength := h.length
      simp only [step] at hstep
      split at hstep
      · rename_i size happ
        split at hstep
        · rename_i hempty
          cases hstep
          simp only [owed, happ, App.unread, hempty, List.length_nil] at hlength
          refine ⟨h.bytes, ?_, h.fits, h.sized⟩
          simp only [owed, App.unread, hempty, List.length_nil]
          omega
        · cases hstep
      · cases hstep
  | wake =>
      simp only [step, Option.ite_none_right_eq_some, Option.some.injEq] at hstep
      obtain ⟨⟨hidle, -⟩, rfl⟩ := hstep
      refine Accounts.of_inv trivial fun lost h => ⟨h.bytes, ?_, h.fits, h.sized⟩
      simpa [owed, hidle, App.unread] using h.length
  | finish =>
      simp only [step, Option.ite_none_right_eq_some, Option.some.injEq] at hstep
      obtain ⟨hbusy, rfl⟩ := hstep
      refine Accounts.of_inv trivial fun lost h => ⟨h.bytes, ?_, h.fits, h.sized⟩
      simpa [owed, hbusy, App.unread] using h.length

-- Both RX tasks are outside rx_pump, and no EVENT_OUTPUT is left to process.
structure Quiet (s : State) : Prop where
  waiting : ∀ iface, s.waiting iface = none
  holder : s.holder = none
  queue : eventSizes .output s.queue = []
  app : ∀ size, s.app ≠ .receiving size

theorem passed_iff (labels : List Label) (s : State) (hrun : Run.exec step init labels = some s)
    (hquiet : Quiet s) : s.passed = s.accepted ↔ Run.Along step init Clean labels := by
  obtain ⟨lost, hinv, hlost⟩ := Run.exec_ledger Inv inv_init
    (fun _ _ _ hstep => accounted_step hstep) hrun
  have hunread : s.app.unread = 0 := by
    cases happ : s.app with
    | receiving size => exact absurd happ (hquiet.app size)
    | _ => rfl
  have hlength := hinv.length
  simp only [owed, hquiet.holder, hquiet.queue, hunread, unposted, List.sum_nil] at hlength
  rw [← hlost, hinv.bytes, List.self_eq_append_right, ← List.length_eq_zero_iff]
  omega

-- Quiet with an app task that is not about to restart, as it can be computed.
def State.calm (s : State) : Bool :=
  (s.waiting .usb).isNone && (s.waiting .uart).isNone && s.holder.isNone &&
    (eventSizes .output s.queue).isEmpty && (s.app = .idle || s.app = .busy)

theorem quiet_of_calm (h : s.calm = true) : Quiet s := by
  simp only [State.calm, Bool.and_eq_true, Bool.or_eq_true, decide_eq_true_eq,
    Option.isNone_iff_eq_none, List.isEmpty_iff] at h
  obtain ⟨⟨⟨⟨husb, huart⟩, hholder⟩, hqueue⟩, happ⟩ := h
  refine ⟨fun iface => ?_, hholder, hqueue, fun size hreceiving => ?_⟩
  · cases iface
    · exact husb
    · exact huart
  · simp [hreceiving] at happ

def hostChunk : Chunk := { data := [0xde, 0xad], nonempty := by decide, fits := by decide }

def pumped : List Label :=
  [.call .usb hostChunk, .lock .usb, .send, .post, .take, .receive, .finish]

theorem passed_iff_pumped :
    ∃ s, Run.exec step init pumped = some s ∧ s.accepted = hostChunk.data ∧
      (s.passed = s.accepted ↔ Run.Along step init Clean pumped) := by
  have hfinal : (Run.exec step init pumped).map (fun s => (s.accepted, s.calm)) =
      some (hostChunk.data, true) := by
    decide +kernel
  obtain ⟨s, hrun, hs⟩ := Option.map_eq_some_iff.mp hfinal
  obtain ⟨haccepted, hquiet⟩ := Prod.mk.inj hs
  exact ⟨s, hrun, haccepted, passed_iff pumped s hrun (quiet_of_calm hquiet)⟩

-- Sixty frames of the NCP are in the queue while the app task is busy, and
-- all six tries to post the event of the chunk fail.
def givenUp : List Label :=
  .wake :: (List.replicate 60 (.otherPost { event := .input, size := 7 }) ++
    [.call .usb hostChunk, .lock .usb, .send, .post, .post, .post, .post, .post, .post])

theorem not_every_byte_passed :
    ¬∀ (labels : List Label) (s : State), Run.exec step init labels = some s → Quiet s →
      s.passed = s.accepted := by
  intro h
  have hfinal : (Run.exec step init givenUp).map (fun s =>
      ((s.passed, s.accepted), s.calm)) = some (([], hostChunk.data), true) := by
    decide +kernel
  obtain ⟨s, hrun, hs⟩ := Option.map_eq_some_iff.mp hfinal
  obtain ⟨hbytes, hquiet⟩ := Prod.mk.inj hs
  obtain ⟨hpassed, haccepted⟩ := Prod.mk.inj hbytes
  have hall := h givenUp s hrun (quiet_of_calm hquiet)
  rw [hpassed, haccepted] at hall
  cases hall

end EspCoordinator.Transport.Pump
