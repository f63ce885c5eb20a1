import EspCoordinator.Protocol.Sequence

namespace EspCoordinator.Protocol.Sequence

open Run (exec)
open Transport (capacityWait RINGBUF_TIMEOUT_MS)
open Transport.Path (Task)

variable {s t : State} {label : Label}

-- m_tx_seq and the packet_seq of a frame after `n` frames.
def txSeqAt (n : Nat) : UInt8 := UInt8.ofNat (1 + n % 3)

def seqAt (n : Nat) : Fin 4 := Fin.ofNat 4 (1 + n % 3)

theorem nextSeq_txSeqAt (n : Nat) : nextSeq (txSeqAt n) = txSeqAt (n + 1) := by
  have hcases : n % 3 = 0 ∧ (n + 1) % 3 = 1 ∨ n % 3 = 1 ∧ (n + 1) % 3 = 2 ∨
      n % 3 = 2 ∧ (n + 1) % 3 = 0 := by
    omega
  unfold txSeqAt
  rcases hcases with ⟨h, h'⟩ | ⟨h, h'⟩ | ⟨h, h'⟩
  all_goals
    rw [h, h']
    decide

theorem packetSeq_txSeqAt (n : Nat) : Fin.ofNat 4 (txSeqAt n).toNat = seqAt n := by
  have hlt : n % 3 < 3 := Nat.mod_lt n (by decide)
  have hsmall : 1 + n % 3 < UInt8.size := by
    change 1 + n % 3 < 256
    omega
  rw [txSeqAt, UInt8.toNat_ofNat_of_lt' hsmall, seqAt]

theorem seqAt_ne_zero (n : Nat) : seqAt n ≠ 0 := by
  intro h
  have hval : (1 + n % 3) % 4 = 0 := congrArg Fin.val h
  omega

theorem seqAt_eq_iff (m n : Nat) : seqAt m = seqAt n ↔ m % 3 = n % 3 := by
  rw [Fin.ext_iff]
  change (1 + m % 3) % 4 = (1 + n % 3) % 4 ↔ _
  omega

-- Every frame is stamped with m_tx_seq as it is.
theorem packetSeq_frame {link : Link} {op : Op} {frame : Frame}
    (h : op.frame link = some frame) : frame.hdr.packetSeq = Fin.ofNat 4 link.txSeq.toNat := by
  cases op with
  | ack hdr | nack hdr =>
      cases h
      rfl
  | data payload =>
      simp only [Op.frame, sendDataInt] at h
      split at h
      · rename_i heq
        split_ifs at heq
        obtain ⟨rfl, -⟩ := SendData.frame.inj heq
        cases h
        rfl
      · cases h
      · cases h

-- What the whole call does to the link.
def Op.link (link : Link) : Op → Link
  | .ack hdr => (sendAck link hdr).1
  | .nack hdr => (sendNack link hdr).1
  | .data payload => (sendDataInt link payload).1

theorem link_of_frame {link : Link} {op : Op} {frame : Frame} (h : op.frame link = some frame) :
    op.link link = { link with txSeq := nextSeq link.txSeq } := by
  cases op with
  | ack hdr | nack hdr => rfl
  | data payload =>
      simp only [Op.frame, sendDataInt] at h
      simp only [Op.link, sendDataInt]
      split_ifs at h ⊢
      rfl

-- A call that no other task interrupts does what the function does.
theorem exec_alone (task : Task) {op : Op} {frame : Frame} (spaces : Nat → Nat)
    (hfree : s.holder = none) (hwaiting : s.waiting = fun _ => none)
    (hframe : op.frame s.link = some frame) :
    exec step s [.call task op, .lock task, .build, .advance, .send spaces] = some { s with
      link := op.link s.link
      sends := s.sends ++ [(frame, capacityWait spaces frame.bytes.length
        (RINGBUF_TIMEOUT_MS / 10))] } := by
  rw [link_of_frame hframe]
  simp [exec, step, hfree, hwaiting, hframe]

-- m_tx_seq while the holder of m_tx_sem is at work.
def State.Stamped (s : State) : Prop :=
  match s.holder with
  | some (_, .built frame) =>
      s.link.txSeq = txSeqAt s.sends.length ∧ frame.hdr.packetSeq = seqAt s.sends.length
  | some (_, .advanced frame) =>
      s.link.txSeq = txSeqAt (s.sends.length + 1) ∧ frame.hdr.packetSeq = seqAt s.sends.length
  | _ => s.link.txSeq = txSeqAt s.sends.length

structure Inv (s : State) : Prop where
  stamped : s.Stamped
  sends : ∀ index frame accepted, s.sends[index]? = some (frame, accepted) →
    frame.hdr.packetSeq = seqAt index

theorem inv_init : Inv init := by
  constructor
  case stamped =>
    change initInt.link.txSeq = txSeqAt 0
    rfl
  case sends => simp [init]

-- A frame that is sent has the number of its place.
theorem numbered_concat {sends : List (Frame × Bool)} {frame : Frame} {accepted : Bool}
    (hsends : ∀ index other taken, sends[index]? = some (other, taken) →
      other.hdr.packetSeq = seqAt index)
    (hframe : frame.hdr.packetSeq = seqAt sends.length) (index : Nat) (other : Frame) (taken : Bool)
    (hget : (sends ++ [(frame, accepted)])[index]? = some (other, taken)) :
    other.hdr.packetSeq = seqAt index := by
  rcases Nat.lt_trichotomy index sends.length with hold | rfl | hpast
  · rw [List.getElem?_append_left hold] at hget
    exact hsends index other taken hget
  · rw [List.getElem?_concat_length] at hget
    obtain ⟨rfl, -⟩ := Prod.mk.inj (Option.some.inj hget)
    exact hframe
  · rw [List.getElem?_eq_none (by rw [List.length_append]; exact hpast)] at hget
    cases hget

theorem inv_step (h : Inv s) (hstep : step s label = some t) : Inv t := by
  obtain ⟨hstamped, hsends⟩ := h
  cases label with
  | call task op =>
      simp only [step] at hstep
      split_ifs at hstep
      split at hstep
      all_goals
        cases hstep
        exact ⟨hstamped, hsends⟩
  | lock task =>
      simp only [step] at hstep
      split at hstep
      · rename_i hfree
        cases hstep
        simp only [State.Stamped, hfree] at hstamped
        exact ⟨hstamped, hsends⟩
      · cases hstep
  | build =>
      simp only [step] at hstep
      split at hstep
      · rename_i hholder
        obtain ⟨frame, hframe, rfl⟩ := Option.map_eq_some_iff.mp hstep
        simp only [State.Stamped, hholder] at hstamped
        have hseq := packetSeq_frame hframe
        rw [hstamped, packetSeq_txSeqAt] at hseq
        exact ⟨⟨hstamped, hseq⟩, hsends⟩
      · cases hstep
  | advance =>
      simp only [step] at hstep
      split at hstep
      · rename_i hholder
        cases hstep
        simp only [State.Stamped, hholder] at hstamped
        have hnext : nextSeq s.link.txSeq = txSeqAt (s.sends.length + 1) := by
          rw [hstamped.1, nextSeq_txSeqAt]
        exact ⟨⟨hnext, hstamped.2⟩, hsends⟩
      · cases hstep
  | send spaces =>
      simp only [step] at hstep
      split at hstep
      · rename_i frame hholder
        cases hstep
        simp only [State.Stamped, hholder] at hstamped
        refine ⟨?_, numbered_concat hsends hstamped.2⟩
        simp only [State.Stamped, List.length_append, List.length_singleton]
        exact hstamped.1
      · cases hstep

-- Two frames that m_input_buf took, with nothing but refused ones between.
def Consecutive (s : State) (first : Frame) (refused : List Frame) (last : Frame) : Prop :=
  ∃ before after, s.sends =
    before ++ (first, true) :: (refused.map (·, false) ++ (last, true) :: after)

-- Frames next to each other in m_input_buf differ in their packet_seq, and it
-- is never 0.
structure Distinct (s : State) : Prop where
  differ : ∀ first refused last, Consecutive s first refused last →
    first.hdr.packetSeq ≠ last.hdr.packetSeq
  nonzero : ∀ frame, (frame, true) ∈ s.sends → frame.hdr.packetSeq ≠ 0

theorem Inv.consecutive (h : Inv s) {first last : Frame} {refused : List Frame}
    (hframes : Consecutive s first refused last) :
    first.hdr.packetSeq = last.hdr.packetSeq ↔ refused.length % 3 = 2 := by
  obtain ⟨before, after, hsends⟩ := hframes
  have hfirst := h.sends before.length first true (by rw [hsends]; simp)
  have hlast := h.sends (before.length + (refused.length + 1)) last true (by
    rw [hsends, List.getElem?_append_right (by omega)]
    simp)
  rw [hfirst, hlast, seqAt_eq_iff]
  omega

theorem distinct_iff (labels : List Label) (hrun : exec step init labels = some s) :
    Distinct s ↔ ∀ first refused last, Consecutive s first refused last →
      refused.length % 3 ≠ 2 := by
  have hinv := Run.exec_invariant Inv inv_init (fun _ _ _ => inv_step) hrun
  constructor
  · rintro ⟨hdiffer, -⟩ first refused last hframes hmod
    exact hdiffer first refused last hframes ((hinv.consecutive hframes).mpr hmod)
  · intro hgaps
    constructor
    case differ =>
      exact fun first refused last hframes heq =>
        hgaps first refused last hframes ((hinv.consecutive hframes).mp heq)
    case nonzero =>
      intro frame hmem
      obtain ⟨index, hget⟩ := List.mem_iff_getElem?.mp hmem
      rw [hinv.sends index frame true hget]
      exact seqAt_ne_zero index

-- One call after the other; every frame meets this much free space.
def calls (ops : List (Task × Op × Nat)) : List Label :=
  ops.flatMap fun (task, op, spaces) =>
    [.call task op, .lock task, .build, .advance, .send fun _ => spaces]

def hostData : NcpHeader := NcpHeader.read [0xde, 0xad, 8, 0, 6, 0xc0, 0]

-- The seq of a frame and whether it was accepted.
def history (s : State) : List (Fin 4 × Bool) :=
  s.sends.map fun (frame, accepted) => (frame.hdr.packetSeq, accepted)

theorem distinct_two :
    ∃ s, exec step init (calls [(.zboss, .data [1, 2], 100), (.app, .ack hostData, 100)]) = some s ∧
      history s = [(1, true), (2, true)] ∧
        (Distinct s ↔ ∀ first refused last, Consecutive s first refused last →
          refused.length % 3 ≠ 2) := by
  have hhistory : (exec step init
      (calls [(.zboss, .data [1, 2], 100), (.app, .ack hostData, 100)])).map history =
        some [(1, true), (2, true)] := by
    decide +kernel
  obtain ⟨s, hrun, hs⟩ := Option.map_eq_some_iff.mp hhistory
  exact ⟨s, hrun, hs, distinct_iff _ hrun⟩

-- With the buffer full for two ACKs, the frames around them have one seq.
theorem not_distinct_refused :
    ¬∀ (labels : List Label) (s : State), exec step init labels = some s → Distinct s := by
  intro h
  have hhistory : (exec step init (calls [(.zboss, .data [1, 2], 11), (.app, .ack hostData, 0),
      (.app, .ack hostData, 0), (.app, .nack hostData, 100)])).map history =
        some [(1, true), (2, false), (3, false), (1, true)] := by
    decide +kernel
  obtain ⟨s, hrun, hs⟩ := Option.map_eq_some_iff.mp hhistory
  simp only [history, List.map_eq_cons_iff, List.map_eq_nil_iff] at hs
  obtain ⟨⟨first, _⟩, _, hsends, hfirst, ⟨ack, _⟩, _, rfl, hack, ⟨ack', _⟩, _, rfl, hack',
    ⟨last, _⟩, _, rfl, hlast, rfl⟩ := hs
  obtain ⟨hseq, rfl⟩ := Prod.mk.inj hfirst
  obtain ⟨-, rfl⟩ := Prod.mk.inj hack
  obtain ⟨-, rfl⟩ := Prod.mk.inj hack'
  obtain ⟨hseq', rfl⟩ := Prod.mk.inj hlast
  have hdiffer := (h _ s hrun).differ first [ack, ack'] last ⟨[], [], hsends⟩
  exact hdiffer (hseq.trans hseq'.symm)

end EspCoordinator.Protocol.Sequence
