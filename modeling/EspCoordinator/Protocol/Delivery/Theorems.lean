import EspCoordinator.Protocol.Delivery
import Mathlib.Data.List.Nodup

namespace EspCoordinator.Protocol.Delivery

def Packet.copy? : Packet → Option (Frame × Bool)
  | .copy frame again => some (frame, again)
  | _ => none

def copies (packets : List Packet) : List (Frame × Bool) := packets.filterMap Packet.copy?

def acks (rsps : List NcpHeader) : List (Fin 4) := rsps.filterMap NcpHeader.ack?

def lastAccepted (link : Link) : Option (Fin 4) :=
  if link.lastRxSeqValid then some link.lastRxSeq else none

def record (frame : Frame) : Option Frame × List UInt8 := (some frame, frame.data)

-- Everything sent is dispatched. Only retransmissions of the last frame are
-- still on their way to the NCP, and the ACKs for it come last.
structure Settled (s : Net) : Prop where
  dispatched : s.dispatched = s.sent.map record
  last : lastAccepted s.ncp = s.sent.getLast?.map Frame.seq
  copies : ∀ copy ∈ copies s.toNcp, some copy.1.seq = lastAccepted s.ncp ∧ copy.2 = true
  acks : ∃ stale fresh, acks s.toHost = stale ++ fresh ∧
    (∀ seq ∈ stale, some seq ≠ lastAccepted s.ncp) ∧
    (∀ seq ∈ fresh, some seq = lastAccepted s.ncp) ∧ (s.waiting = false → stale = [])
  acked : s.acked = if s.waiting then s.sent.dropLast else s.sent

-- The last frame is not dispatched yet. In front of its copies there may be
-- retransmissions of the frame before it, and no ACK can be for it.
structure Pending (s : Net) (frame : Frame) : Prop where
  sent : s.sent = s.acked ++ [frame]
  waiting : s.waiting = true
  dispatched : s.dispatched = s.acked.map record
  last : lastAccepted s.ncp ≠ some frame.seq
  copies : ∃ old new, copies s.toNcp = old ++ new ∧
    (∀ copy ∈ old, some copy.1.seq = lastAccepted s.ncp ∧ copy.2 = true) ∧
    (∀ copy ∈ new, copy.1 = frame) ∧ ∀ copy ∈ new.tail, copy.2 = true
  acks : ∀ seq ∈ acks s.toHost, some seq = lastAccepted s.ncp

-- Steps that at most lose something on the way.
structure Quiet (s t : Net) : Prop where
  sent : t.sent = s.sent
  acked : t.acked = s.acked
  waiting : t.waiting = s.waiting
  dispatched : t.dispatched = s.dispatched
  last : lastAccepted t.ncp = lastAccepted s.ncp
  copies : (copies t.toNcp).Sublist (copies s.toNcp)
  acks : (acks t.toHost).Sublist (acks s.toHost)

theorem quiet_toNcp {s : Net} {packets : List Packet}
    (h : (copies packets).Sublist (copies s.toNcp)) : Quiet s { s with toNcp := packets } :=
  ⟨rfl, rfl, rfl, rfl, rfl, h, List.Sublist.refl _⟩

theorem quiet_toHost {s : Net} {rsps : List NcpHeader}
    (h : (acks rsps).Sublist (acks s.toHost)) : Quiet s { s with toHost := rsps } :=
  ⟨rfl, rfl, rfl, rfl, rfl, List.Sublist.refl _, h⟩

theorem Settled.quiet {s t : Net} (h : Settled s) (hq : Quiet s t) : Settled t := by
  obtain ⟨stale, fresh, hsplit, hstale, hfresh, hwaiting⟩ := h.acks
  obtain ⟨stale', fresh', hsplit', hs, hf⟩ := List.sublist_append_iff.mp (hsplit ▸ hq.acks)
  refine ⟨?_, ?_, ?_, ⟨stale', fresh', hsplit', ?_, ?_, ?_⟩, ?_⟩
  · rw [hq.dispatched, hq.sent, h.dispatched]
  · rw [hq.last, hq.sent, h.last]
  · rw [hq.last]
    exact fun copy hm => h.copies copy (hq.copies.subset hm)
  · rw [hq.last]
    exact fun seq hm => hstale seq (hs.subset hm)
  · rw [hq.last]
    exact fun seq hm => hfresh seq (hf.subset hm)
  · rw [hq.waiting]
    intro hw
    exact List.sublist_nil.mp (hwaiting hw ▸ hs)
  · rw [hq.acked, hq.waiting, hq.sent, h.acked]

theorem Pending.quiet {s t : Net} {frame : Frame} (h : Pending s frame) (hq : Quiet s t) :
    Pending t frame := by
  obtain ⟨old, new, hsplit, hold, hnew, htail⟩ := h.copies
  obtain ⟨old', new', hsplit', ho, hn⟩ := List.sublist_append_iff.mp (hsplit ▸ hq.copies)
  refine ⟨?_, ?_, ?_, ?_, ⟨old', new', hsplit', ?_, ?_, ?_⟩, ?_⟩
  · rw [hq.sent, hq.acked, h.sent]
  · rw [hq.waiting, h.waiting]
  · rw [hq.dispatched, hq.acked, h.dispatched]
  · rw [hq.last]
    exact h.last
  · rw [hq.last]
    exact fun copy hm => hold copy (ho.subset hm)
  · exact fun copy hm => hnew copy (hn.subset hm)
  · exact fun copy hm => htail copy (hn.tail.subset hm)
  · rw [hq.last]
    exact fun seq hm => h.acks seq (hq.acks.subset hm)

theorem copies_modify_damage (packets : List Packet) (index : Nat) :
    (copies (packets.modify index Packet.damage)).Sublist (copies packets) := by
  induction packets generalizing index with
  | nil => simp
  | cons packet rest ih =>
      cases index with
      | zero =>
          rw [List.modify_zero_cons]
          cases packet with
          | copy frame again => exact List.sublist_cons_self _ _
          | damaged hdr => exact List.Sublist.refl _
          | reply hdr => exact List.Sublist.refl _
      | succ index =>
          rw [List.modify_succ_cons]
          cases packet with
          | copy frame again => exact (ih index).cons_cons _
          | damaged hdr => exact ih index
          | reply hdr => exact ih index

theorem sendDataInt_frame {link next : Link} {data sent : List UInt8} {hdr : NcpHeader}
    (h : sendDataInt link data = (next, .frame hdr sent)) :
    lastAccepted next = lastAccepted link ∧ hdr.ack? = none := by
  unfold sendDataInt at h
  split_ifs at h <;> simp only [Prod.mk.injEq, SendData.frame.injEq, reduceCtorEq, and_false] at h
  obtain ⟨rfl, rfl, -⟩ := h
  exact ⟨rfl, rfl⟩

theorem ack_reply (isNack : Bool) (link : Link) (hdr : NcpHeader) :
    acked (reply isNack link hdr).2 = if isNack then [] else [hdr.packetSeq] := by
  cases isNack <;> rfl

theorem dispatched_reply (isNack : Bool) (link : Link) (hdr : NcpHeader) :
    dispatched (reply isNack link hdr).2 = [] := rfl

-- Anything but a copy of a data frame is as good as nothing.
theorem quiet_ncpHandle {s : Net} {packet : Packet} (h : packet.copy? = none) :
    Quiet s (ncpHandle s packet) := by
  cases packet with
  | copy frame again => simp [Packet.copy?] at h
  | damaged hdr =>
      refine ⟨rfl, rfl, rfl, ?_, rfl, List.Sublist.refl _, ?_⟩
      · simp [ncpHandle, Packet.item, handle, sendNack, dispatched_reply]
      · have hack := ack_reply true s.ncp hdr
        simp only [acked] at hack
        simp [ncpHandle, Packet.item, handle, sendNack, acks, hack]
  | reply hdr =>
      have hh : handle s.ncp (Packet.reply hdr).item = (s.ncp, []) := by
        simp [Packet.item, handle, onRxPacket]
      refine ⟨rfl, rfl, rfl, ?_, ?_, List.Sublist.refl _, ?_⟩ <;> simp [ncpHandle, hh]

theorem Frame.wireHdr_isAck (frame : Frame) (again : Bool) :
    (frame.wireHdr again).isAck = false := by
  cases again <;> exact frame.isAck

theorem Frame.wireHdr_packetType (frame : Frame) (again : Bool) :
    (frame.wireHdr again).packetType = ZBOSS_NCP_API_HL := by
  cases again <;> exact frame.packetType

theorem Frame.wireHdr_isNack (frame : Frame) (again : Bool) :
    (frame.wireHdr again).isNack = again := by
  cases again
  · exact frame.isNack
  · rfl

theorem Frame.wireHdr_packetSeq (frame : Frame) (again : Bool) :
    (frame.wireHdr again).packetSeq = frame.seq := by
  cases again <;> rfl

theorem lastAccepted_eq_some {link : Link} {seq : Fin 4} :
    lastAccepted link = some seq ↔ link.lastRxSeqValid = true ∧ link.lastRxSeq = seq := by
  simp only [lastAccepted]
  split <;> simp_all

-- A copy of a data frame is a duplicate only if it is flagged and has the
-- packet_seq accepted last. Otherwise it is taken for a new frame.
theorem handle_copy (link : Link) (frame : Frame) (again : Bool) :
    handle link (Packet.copy frame again).item =
      if again = true ∧ lastAccepted link = some frame.seq then
        sendAck link (frame.wireHdr again)
      else
        ({ (sendAck link (frame.wireHdr again)).1 with
            lastRxSeq := frame.seq, lastRxSeqValid := true },
          (sendAck link (frame.wireHdr again)).2 ++ [.onRxData frame.data]) := by
  have hdup : ((frame.wireHdr again).isNack && link.lastRxSeqValid &&
      frame.seq == link.lastRxSeq) = true ↔
      again = true ∧ lastAccepted link = some frame.seq := by
    rw [frame.wireHdr_isNack, lastAccepted_eq_some, @eq_comm _ link.lastRxSeq]
    simp only [Bool.and_eq_true, beq_iff_eq, and_assoc]
  simp only [Packet.item, handle, onRxPacket, frame.wireHdr_isAck, frame.wireHdr_packetType,
    ne_eq, not_true_eq_false, if_false, Bool.false_eq_true, frame.wireHdr_packetSeq, hdup]

theorem sendAck_eq (link : Link) (hdr : NcpHeader) :
    ∃ rsp, (sendAck link hdr).2 = [.send rsp] ∧ rsp.ack? = some hdr.packetSeq :=
  ⟨_, rfl, rfl⟩

-- A retransmission of the frame accepted last is acknowledged, and no more.
theorem ncpHandle_repeat (s : Net) (frame : Frame) (h : lastAccepted s.ncp = some frame.seq) :
    ∃ link rsp, ncpHandle s (.copy frame true) =
        { s with ncp := link, toHost := s.toHost ++ [rsp] } ∧
      lastAccepted link = lastAccepted s.ncp ∧ rsp.ack? = some frame.seq := by
  obtain ⟨rsp, hsend, hack⟩ := sendAck_eq s.ncp (frame.wireHdr true)
  refine ⟨(sendAck s.ncp (frame.wireHdr true)).1, rsp, ?_, rfl, ?_⟩
  · simp [ncpHandle, handle_copy, h, hsend]
  · rw [hack, frame.wireHdr_packetSeq]

theorem ncpHandle_accept (s : Net) (frame : Frame) (again : Bool)
    (h : lastAccepted s.ncp ≠ some frame.seq) :
    ∃ link rsp, ncpHandle s (.copy frame again) =
        { s with
          ncp := link
          toHost := s.toHost ++ [rsp]
          dispatched := s.dispatched ++ [record frame] } ∧
      lastAccepted link = some frame.seq ∧ rsp.ack? = some frame.seq := by
  obtain ⟨rsp, hsend, hack⟩ := sendAck_eq s.ncp (frame.wireHdr again)
  refine ⟨{ (sendAck s.ncp (frame.wireHdr again)).1 with
    lastRxSeq := frame.seq, lastRxSeqValid := true }, rsp, ?_, rfl, ?_⟩
  · simp [ncpHandle, handle_copy, h, hsend, Packet.frame?, record]
  · rw [hack, frame.wireHdr_packetSeq]

def Inv (s : Net) : Prop := Settled s ∨ ∃ frame, Pending s frame

theorem Inv.quiet {s t : Net} (h : Inv s) (hq : Quiet s t) : Inv t := by
  rcases h with h | ⟨frame, h⟩
  · exact Or.inl (h.quiet hq)
  · exact Or.inr ⟨frame, h.quiet hq⟩

theorem pending_hostSend {s : Net} {frame : Frame} (h : Inv s) (hw : s.waiting = false)
    (hseq : s.sent.getLast?.map Frame.seq ≠ some frame.seq) :
    Pending { s with
      sent := s.sent ++ [frame]
      waiting := true
      toNcp := s.toNcp ++ [.copy frame false] } frame := by
  rcases h with h | ⟨_, h⟩
  · obtain ⟨stale, fresh, hsplit, -, hfresh, hwaiting⟩ := h.acks
    have hacked : s.acked = s.sent := by simpa [hw] using h.acked
    refine ⟨by rw [hacked], rfl, by rw [hacked, h.dispatched], by rw [h.last]; exact hseq,
      ⟨copies s.toNcp, [(frame, false)], by simp [copies, Packet.copy?], h.copies, ?_, ?_⟩, ?_⟩
    · simp
    · simp
    · rw [hsplit, hwaiting hw]
      exact hfresh
  · simp [h.waiting] at hw

theorem inv_hostResend {s : Net} {frame : Frame} (h : Inv s)
    (hlast : s.sent.getLast? = some frame) :
    Inv { s with toNcp := s.toNcp ++ [.copy frame true] } := by
  have happend : copies (s.toNcp ++ [.copy frame true]) = copies s.toNcp ++ [(frame, true)] := by
    simp [copies, Packet.copy?]
  rcases h with h | ⟨current, h⟩
  · refine Or.inl ⟨h.dispatched, h.last, fun copy hm => ?_, h.acks, h.acked⟩
    rw [happend] at hm
    rcases List.mem_append.mp hm with hm | hm
    · exact h.copies copy hm
    · obtain rfl := List.mem_singleton.mp hm
      simp [h.last, hlast]
  · obtain rfl : current = frame := by simpa [h.sent] using hlast
    obtain ⟨old, new, hsplit, hold, hnew, htail⟩ := h.copies
    refine Or.inr ⟨current, h.sent, h.waiting, h.dispatched, h.last,
      ⟨old, new ++ [(current, true)], ?_, hold, ?_, ?_⟩, h.acks⟩
    · rw [happend, hsplit, List.append_assoc]
    · intro copy hm
      rcases List.mem_append.mp hm with hm | hm
      · exact hnew copy hm
      · rw [List.mem_singleton.mp hm]
    · cases new with
      | nil => simp
      | cons first rest =>
          intro copy hm
          rcases List.mem_append.mp hm with hm | hm
          · exact htail copy hm
          · rw [List.mem_singleton.mp hm]

theorem inv_hostRx {s : Net} {rsp : NcpHeader} {rest : List NcpHeader} (h : Inv s)
    (hhost : s.toHost = rsp :: rest) : Inv (hostHandle { s with toHost := rest } rsp) := by
  have hquiet : Quiet s { s with toHost := rest } := by
    apply quiet_toHost
    rw [hhost]
    exact (List.sublist_cons_self _ _).filterMap _
  unfold hostHandle
  split
  · exact h.quiet hquiet
  rename_i frame hlast
  split
  · rename_i hack
    obtain ⟨hw, hack⟩ := hack
    have hacks : acks s.toHost = frame.seq :: acks rest := by
      simp [hhost, acks, hack]
    rcases h with h | ⟨current, h⟩
    · obtain ⟨stale, fresh, hsplit, hstale, hfresh, -⟩ := h.acks
      have hcur : some frame.seq = lastAccepted s.ncp := by rw [h.last, hlast]; rfl
      have hnil : stale = [] := by
        cases stale with
        | nil => rfl
        | cons seq more =>
            have hseq : frame.seq = seq := by simpa [hacks] using congrArg List.head? hsplit
            exact absurd hcur (hseq ▸ hstale seq (by simp))
      have hrest : ∀ seq ∈ acks rest, some seq = lastAccepted s.ncp := by
        intro seq hm
        rw [hnil, List.nil_append, hacks] at hsplit
        exact hfresh seq (hsplit ▸ List.mem_cons_of_mem _ hm)
      have hacked : s.acked ++ [frame] = s.sent := by
        have hw : s.waiting = true := hw
        rw [h.acked, if_pos hw]
        exact List.dropLast_append_getLast? frame hlast
      exact Or.inl ⟨h.dispatched, h.last, h.copies,
        ⟨[], acks rest, rfl, by simp, hrest, fun _ => rfl⟩, by simpa using hacked⟩
    · obtain rfl : current = frame := by simpa [h.sent] using hlast
      exact absurd (h.acks current.seq (by simp [hacks])).symm h.last
  · exact h.quiet hquiet

theorem settled_ncpRx {s : Net} {frame : Frame} {again : Bool} {rest : List Packet}
    (h : Settled s) (hncp : s.toNcp = .copy frame again :: rest) :
    Settled (ncpHandle { s with toNcp := rest } (.copy frame again)) := by
  have hcopies : copies s.toNcp = (frame, again) :: copies rest := by
    simp [hncp, copies, Packet.copy?]
  obtain ⟨hseq, hagain⟩ := h.copies (frame, again) (by simp [hcopies])
  obtain rfl : again = true := hagain
  obtain ⟨link, rsp, heq, hlink, hack⟩ :=
    ncpHandle_repeat { s with toNcp := rest } frame hseq.symm
  have hlink : lastAccepted link = lastAccepted s.ncp := hlink
  obtain ⟨stale, fresh, hsplit, hstale, hfresh, hwaiting⟩ := h.acks
  rw [heq]
  refine ⟨h.dispatched, hlink.trans h.last, ?_, ⟨stale, fresh ++ [frame.seq], ?_, ?_, ?_, hwaiting⟩,
    h.acked⟩ <;> simp only [hlink]
  · exact fun copy hm => h.copies copy (by simp [hcopies, hm])
  · have happend : acks (s.toHost ++ [rsp]) = acks s.toHost ++ [frame.seq] := by
      simp [acks, hack]
    rw [happend, hsplit, List.append_assoc]
  · exact hstale
  · intro seq hm
    rcases List.mem_append.mp hm with hm | hm
    · exact hfresh seq hm
    · rw [List.mem_singleton.mp hm]
      exact hseq

-- An old retransmission changes nothing. The first copy of the frame itself
-- gets it dispatched.
theorem pending_ncpRx {s : Net} {current frame : Frame} {again : Bool} {rest : List Packet}
    (h : Pending s current) (hncp : s.toNcp = .copy frame again :: rest) :
    Inv (ncpHandle { s with toNcp := rest } (.copy frame again)) := by
  have hcopies : copies s.toNcp = (frame, again) :: copies rest := by
    simp [hncp, copies, Packet.copy?]
  obtain ⟨old, new, hsplit, hold, hnew, htail⟩ := h.copies
  cases old with
  | cons first old =>
      obtain ⟨hfirst, hrest⟩ := List.cons.inj (hcopies.symm.trans hsplit)
      obtain ⟨hseq, hagain⟩ := hold first (by simp)
      rw [← hfirst] at hseq hagain
      obtain rfl : again = true := hagain
      obtain ⟨link, rsp, heq, hlink, hack⟩ :=
        ncpHandle_repeat { s with toNcp := rest } frame hseq.symm
      have hlink : lastAccepted link = lastAccepted s.ncp := hlink
      rw [heq]
      refine Or.inr ⟨current, h.sent, h.waiting, h.dispatched, hlink ▸ h.last,
        ⟨old, new, hrest, ?_, hnew, htail⟩, ?_⟩ <;> simp only [hlink]
      · exact fun copy hm => hold copy (by simp [hm])
      · intro seq hm
        simp only [acks, List.filterMap_append, List.filterMap_cons, hack, List.filterMap_nil,
          List.mem_append, List.mem_singleton] at hm
        rcases hm with hm | rfl
        · exact h.acks seq hm
        · exact hseq
  | nil =>
      rw [List.nil_append] at hsplit
      obtain rfl : frame = current := hnew (frame, again) (by simp [← hsplit, hcopies])
      obtain ⟨link, rsp, heq, hlink, hack⟩ :=
        ncpHandle_accept { s with toNcp := rest } frame again h.last
      have hgetLast : s.sent.getLast? = some frame := by simp [h.sent]
      have hdropLast : s.sent.dropLast = s.acked := by simp [h.sent]
      rw [heq]
      refine Or.inl ⟨?_, ?_, ?_, ⟨acks s.toHost, [frame.seq], ?_, ?_, ?_, ?_⟩, ?_⟩ <;>
        simp only [hlink, h.waiting]
      · rw [h.dispatched, h.sent, List.map_append]
        rfl
      · rw [hgetLast]
        rfl
      · intro copy hm
        rw [← hsplit, hcopies] at hnew htail
        rw [hnew copy (by simp [hm])]
        exact ⟨rfl, htail copy hm⟩
      · simp [acks, hack]
      · exact fun seq hm => h.acks seq hm ▸ h.last
      · simp
      · simp
      · simp [hdropLast]

theorem inv_ncpRx {s : Net} {packet : Packet} {rest : List Packet} (h : Inv s)
    (hncp : s.toNcp = packet :: rest) : Inv (ncpHandle { s with toNcp := rest } packet) := by
  cases hcopy : packet.copy? with
  | none =>
      have hquiet : Quiet s { s with toNcp := rest } := by
        apply quiet_toNcp
        rw [hncp]
        exact (List.sublist_cons_self _ _).filterMap _
      exact (h.quiet hquiet).quiet (quiet_ncpHandle hcopy)
  | some copy =>
      obtain ⟨frame, again, rfl⟩ : ∃ frame again, packet = .copy frame again := by
        cases packet <;> simp_all [Packet.copy?]
      rcases h with h | ⟨current, h⟩
      · exact Or.inl (settled_ncpRx h hncp)
      · exact pending_ncpRx h hncp

-- What a step can do, with the guard it has passed.
inductive Effect (s : Net) : Label → Net → Prop where
  | hostSend {frame : Frame} (hwaiting : s.waiting = false)
      (hnumber : frame.number = s.sent.length)
      (hseq : s.sent.getLast?.map Frame.seq ≠ some frame.seq) :
      Effect s (.hostSend frame) { s with
        sent := s.sent ++ [frame]
        waiting := true
        toNcp := s.toNcp ++ [.copy frame false] }
  | hostResend {frame : Frame} (hlast : s.sent.getLast? = some frame)
      (hwaiting : s.waiting = true) :
      Effect s .hostResend { s with toNcp := s.toNcp ++ [.copy frame true] }
  | hostReply {hdr : NcpHeader} (hack : hdr.isAck = true) :
      Effect s (.hostReply hdr) { s with toNcp := s.toNcp ++ [.reply hdr] }
  | hostRx {rsp : NcpHeader} {rest : List NcpHeader} (hhost : s.toHost = rsp :: rest) :
      Effect s .hostRx (hostHandle { s with toHost := rest } rsp)
  | ncpRx {packet : Packet} {rest : List Packet} (hncp : s.toNcp = packet :: rest) :
      Effect s .ncpRx (ncpHandle { s with toNcp := rest } packet)
  | ncpSend {data sent : List UInt8} {link : Link} {hdr : NcpHeader}
      (hsend : sendDataInt s.ncp data = (link, .frame hdr sent)) :
      Effect s (.ncpSend data) { s with ncp := link, toHost := s.toHost ++ [hdr] }
  | ncpRefuse {data : List UInt8}
      (hrefused : ∀ link hdr sent, sendDataInt s.ncp data ≠ (link, .frame hdr sent)) :
      Effect s (.ncpSend data) s
  | loseToNcp {index : Nat} :
      Effect s (.loseToNcp index) { s with toNcp := s.toNcp.eraseIdx index }
  | damageToNcp {index : Nat} :
      Effect s (.damageToNcp index) { s with toNcp := s.toNcp.modify index Packet.damage }
  | loseToHost {index : Nat} :
      Effect s (.loseToHost index) { s with toHost := s.toHost.eraseIdx index }

theorem effect_of_step {s t : Net} {label : Label} (hstep : step s label = some t) :
    Effect s label t := by
  cases label with
  | hostSend frame =>
      simp only [step, Option.ite_none_right_eq_some, Option.some.injEq] at hstep
      obtain ⟨⟨hwaiting, hnumber, hseq⟩, rfl⟩ := hstep
      exact .hostSend hwaiting hnumber hseq
  | hostResend =>
      simp only [step] at hstep
      split at hstep
      next frame hlast =>
        simp only [Option.ite_none_right_eq_some, Option.some.injEq] at hstep
        obtain ⟨hwaiting, rfl⟩ := hstep
        exact .hostResend hlast hwaiting
      next => cases hstep
  | hostReply hdr =>
      simp only [step, Option.ite_none_right_eq_some, Option.some.injEq] at hstep
      obtain ⟨hack, rfl⟩ := hstep
      exact .hostReply hack
  | hostRx =>
      simp only [step] at hstep
      split at hstep
      next hhost =>
        cases hstep
        exact .hostRx hhost
      next => cases hstep
  | ncpRx =>
      simp only [step] at hstep
      split at hstep
      next hncp =>
        cases hstep
        exact .ncpRx hncp
      next => cases hstep
  | ncpSend data =>
      simp only [step] at hstep
      split at hstep
      next hsend =>
        cases hstep
        exact .ncpSend hsend
      next hrefused =>
        cases hstep
        exact .ncpRefuse fun link hdr sent heq => hrefused link hdr sent heq
  | loseToNcp index =>
      cases hstep
      exact .loseToNcp
  | damageToNcp index =>
      cases hstep
      exact .damageToNcp
  | loseToHost index =>
      cases hstep
      exact .loseToHost

theorem inv_ncpSend {s : Net} {data sent : List UInt8} {link : Link} {hdr : NcpHeader} (h : Inv s)
    (hsend : sendDataInt s.ncp data = (link, .frame hdr sent)) :
    Inv { s with ncp := link, toHost := s.toHost ++ [hdr] } := by
  obtain ⟨hlast, hack⟩ := sendDataInt_frame hsend
  have hsame : acks (s.toHost ++ [hdr]) = acks s.toHost := by simp [acks, hack]
  exact h.quiet ⟨rfl, rfl, rfl, rfl, hlast, List.Sublist.refl _, hsame ▸ List.Sublist.refl _⟩

theorem inv_step {s t : Net} {label : Label} (h : Inv s) (hstep : step s label = some t) :
    Inv t := by
  cases effect_of_step hstep with
  | hostSend hwaiting _ hseq => exact Or.inr ⟨_, pending_hostSend h hwaiting hseq⟩
  | hostResend hlast => exact inv_hostResend h hlast
  | @hostReply hdr =>
      have hsame : copies (s.toNcp ++ [.reply hdr]) = copies s.toNcp := by
        simp [copies, Packet.copy?]
      exact h.quiet (quiet_toNcp (hsame ▸ List.Sublist.refl _))
  | hostRx hhost => exact inv_hostRx h hhost
  | ncpRx hncp => exact inv_ncpRx h hncp
  | ncpSend hsend => exact inv_ncpSend h hsend
  | ncpRefuse => exact h
  | loseToNcp => exact h.quiet (quiet_toNcp ((List.eraseIdx_sublist _ _).filterMap _))
  | damageToNcp => exact h.quiet (quiet_toNcp (copies_modify_damage _ _))
  | loseToHost => exact h.quiet (quiet_toHost ((List.eraseIdx_sublist _ _).filterMap _))

theorem inv_init : Inv init :=
  Or.inl ⟨rfl, rfl, by simp [init, copies], ⟨[], [], rfl, by simp, by simp, fun _ => rfl⟩, rfl⟩

theorem sent_hostHandle (s : Net) (rsp : NcpHeader) : (hostHandle s rsp).sent = s.sent := by
  unfold hostHandle
  split
  · rfl
  · split <;> rfl

theorem sent_step {s t : Net} {label : Label} (hstep : step s label = some t) :
    t.sent = s.sent ∨ ∃ frame, frame.number = s.sent.length ∧ t.sent = s.sent ++ [frame] := by
  cases effect_of_step hstep with
  | hostSend _ hnumber => exact Or.inr ⟨_, hnumber, rfl⟩
  | hostRx => exact Or.inl (sent_hostHandle _ _)
  | _ => exact Or.inl rfl

theorem sent_numbers {s : Net} (h : Run.Reachable step init s) :
    s.sent.map Frame.number = List.range s.sent.length := by
  refine h.invariant (fun s => s.sent.map Frame.number = List.range s.sent.length) rfl ?_
  intro s label t hs hstep
  rcases sent_step hstep with heq | ⟨frame, hnumber, heq⟩
  · rw [heq, hs]
  · rw [heq, List.map_append, hs, List.length_append, List.length_singleton, List.range_succ]
    simp [hnumber]

-- In terms of the whole run: the first frames sent are dispatched, and of
-- these the first are acknowledged.
theorem Inv.prefixes {s : Net} (h : Inv s) :
    s.dispatched <+: s.sent.map record ∧ s.acked.map record <+: s.dispatched := by
  rcases h with h | ⟨frame, h⟩
  · refine ⟨h.dispatched ▸ List.prefix_refl _, ?_⟩
    rw [h.dispatched, h.acked]
    split
    · exact (List.dropLast_prefix _).map _
    · exact List.prefix_refl _
  · refine ⟨?_, h.dispatched ▸ List.prefix_refl _⟩
    rw [h.dispatched, h.sent, List.map_append]
    exact List.prefix_append _ _

-- At every moment the dispatched payloads are those of the first frames sent,
-- each of them once, and the frames the host has seen an ACK for are among
-- them.
theorem dispatched_exactly_once {s : Net} (h : Run.Reachable step init s) :
    s.dispatched <+: s.sent.map record ∧ s.dispatched.Nodup ∧
      ∀ frame ∈ s.acked, s.dispatched.count (record frame) = 1 := by
  have hinv : Inv s := h.invariant Inv inv_init fun s label t hs hstep => inv_step hs hstep
  obtain ⟨hdispatched, hacked⟩ := hinv.prefixes
  have hsent : (s.sent.map record).Nodup := by
    have hnumbers : (s.sent.map Frame.number).Nodup := sent_numbers h ▸ List.nodup_range
    refine (List.Nodup.of_map _ hnumbers).map fun first second heq => ?_
    exact Option.some.inj (Prod.mk.inj heq).1
  have hnodup := hsent.sublist hdispatched.sublist
  refine ⟨hdispatched, hnodup, fun frame hm => ?_⟩
  exact List.count_eq_one_of_mem hnodup (hacked.subset (List.mem_map_of_mem hm))

def pingFrame : Frame :=
  { number := 0
    hdr :=
      { packetLen := 8, packetType := ZBOSS_NCP_API_HL, isAck := false, isNack := false
        packetSeq := 1, ackSeq := 0, firstFragment := true, lastFragment := true, headerCrc := 0 }
    data := [7]
    isAck := rfl
    isNack := rfl
    packetType := rfl }

-- The first ACK is lost and the frame sent again.
def lostAckRun : List Label :=
  [.hostSend pingFrame, .ncpRx, .loseToHost 0, .hostResend, .ncpRx, .hostRx]

theorem dispatched_exactly_once_lostAck :
    ∃ s, Run.exec step init lostAckRun = some s ∧ s.acked = [pingFrame] ∧
      s.dispatched.count (record pingFrame) = 1 := by
  have hrun : (Run.exec step init lostAckRun).isSome := by decide +kernel
  obtain ⟨s, hs⟩ := Option.isSome_iff_exists.mp hrun
  have hacked : (Run.exec step init lostAckRun).map Net.acked = some [pingFrame] := by
    decide +kernel
  rw [hs] at hacked
  have hacked : s.acked = [pingFrame] := Option.some.inj hacked
  exact ⟨s, hs, hacked, (dispatched_exactly_once ⟨_, hs⟩).2.2 pingFrame (by simp [hacked])⟩

end EspCoordinator.Protocol.Delivery
