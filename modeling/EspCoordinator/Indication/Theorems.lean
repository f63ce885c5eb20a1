import EspCoordinator.Indication
import EspCoordinator.RequestProcess.Theorems

namespace EspCoordinator.Indication

open Bytes
open Packed (pair iso u8 u16 u64)
open RequestProcess.SimpleDesc (simpleDesc)

theorem exactly_write {α : Type} {p : Packed α} {value : α} {body : List UInt8}
    (h : p.write value = body) : exactly p body = some value := by
  have hread := p.read_write value []
  rw [List.append_nil, h] at hread
  rw [exactly, if_pos (h ▸ p.length_write value), hread]

theorem write_u8 (value : UInt8) : u8.write value = [value] := by
  change toLE 1 value.toNat = [value]
  simp only [toLE, UInt8.ofNat_toNat]

theorem write_u16 (value : UInt16) : u16.write value = toLE 2 value.toNat := rfl

theorem write_u64 (value : UInt64) : u64.write value = toLE 8 value.toNat := rfl

variable {frame : AfFrame} {s : State}

-- The host reads the header that is written in front of the data.
theorem outdata_eq (hlen : frame.data.length ≤ 255) :
    outdata frame.ind frame.data = dataHead.write frame.head ++ frame.data := by
  have hlength : (UInt16.ofNat frame.data.length).toNat = frame.data.length := by
    rw [UInt16.toNat_ofNat']
    omega
  simp only [outdata, dataHead, iso, pair, AfFrame.head, Equiv.symm, Equiv.coe_fn_mk, write_u8,
    write_u16, hlength, List.append_assoc, List.cons_append, List.nil_append]

theorem length_outdata (hlen : frame.data.length ≤ 255) :
    (outdata frame.ind frame.data).length = 24 + frame.data.length ∧
      (outdata frame.ind frame.data).length ≤ OUTDATA_SIZE := by
  have hsize : (outdata frame.ind frame.data).length = dataHead.size + frame.data.length := by
    rw [outdata_eq hlen, List.length_append, dataHead.length_write]
  have hhead : dataHead.size = 24 := rfl
  refine ⟨hhead ▸ hsize, ?_⟩
  rw [hsize, hhead, OUTDATA_SIZE]
  omega

theorem readData_outdata (hlen : frame.data.length ≤ 255) :
    readData (outdata frame.ind frame.data) = some (.data frame.head frame.data) := by
  have hlength : frame.head.dataLength.toNat = frame.data.length := by
    rw [AfFrame.head, UInt16.toNat_ofNat']
    omega
  rw [outdata_eq hlen, readData]
  simp only [dataHead.read_write, List.drop_left' (dataHead.length_write frame.head), hlength,
    dataHead.le_length_append, and_self, if_true]

theorem indication_eq {body : List UInt8} (h : body.length ≤ 508) (id : CommandId) :
    ZbNcp.indication id body =
      some ([0, FrameType.indication.toByte] ++ toLE 2 id.value.toNat ++ body) := by
  rw [ZbNcp.indication, if_neg]
  rw [ZbNcp.INDICATION_BUFFER_SIZE]
  omega

theorem hostDecode_indication (id : CommandId) (body : List UInt8) :
    hostDecode ([0, FrameType.indication.toByte] ++ toLE 2 id.value.toNat ++ body) =
      decodeBody body id := by
  have hid : u16.read ((toLE 2 id.value.toNat) ++ body) = id.value := u16.read_write id.value body
  change (if FrameType.indication.toByte = FrameType.indication.toByte then
    (CommandId.find (u16.read (toLE 2 id.value.toNat ++ body))).bind (decodeBody body) else none) = _
  rw [if_pos rfl, hid, CommandId.find_value]
  rfl

-- What one label puts out: nothing that the host is not to see, and what it is
-- to see in a form that it reads back.
structure Tells (sent : List (List UInt8)) (event : Option Event) : Prop where
  decoded : sent.map hostDecode = event.toList.map some
  short : ∀ payload ∈ sent, payload.length ≤ 283

theorem tells_nothing : Tells [] none where
  decoded := rfl
  short := nofun

theorem tells_indication {id : CommandId} {body : List UInt8} {event : Event}
    (hlen : body.length ≤ 279) (hdecode : decodeBody body id = some event) :
    Tells (ZbNcp.indication id body).toList (some event) := by
  rw [indication_eq (by omega)]
  constructor
  · rw [Option.toList_some, List.map_singleton, hostDecode_indication, hdecode]
    rfl
  · intro payload hmem
    obtain rfl := List.mem_singleton.mp hmem
    simp only [List.length_append, List.length_cons, List.length_nil, length_toLE]
    omega

theorem tells_signal (signal : Signal) : Tells signal.indication.toList signal.event := by
  cases signal with
  | deviceAnnce deviceShortAddr ieeeAddr capability =>
      refine tells_indication (by simp) ?_
      rw [decodeBody, @exactly_write _ _ (deviceShortAddr, ieeeAddr, capability)]
      · rfl
      · simp only [Packed.write_pair, write_u16, write_u64, write_u8, List.append_assoc]
  | leaveIndication shortAddr deviceAddr rejoin =>
      refine tells_indication (by simp) ?_
      rw [decodeBody, @exactly_write _ _ (deviceAddr, rejoin)]
      · rfl
      · simp only [Packed.write_pair, write_u64, write_u8]
  | deviceUpdate longAddr shortAddr status tcAction parentShort =>
      refine tells_indication (by simp) ?_
      rw [decodeBody, @exactly_write _ _ (longAddr, shortAddr, status)]
      · rfl
      · simp only [Packed.write_pair, write_u64, write_u16, write_u8, List.append_assoc]
  | deviceAuthorized longAddr shortAddr authorizationType authorizationStatus =>
      refine tells_indication (by simp) ?_
      rw [decodeBody, @exactly_write _ _ (longAddr, shortAddr, authorizationType,
        authorizationStatus)]
      · rfl
      · simp only [Packed.write_pair, write_u64, write_u16, write_u8, List.append_assoc,
          List.singleton_append]
  | other => exact tells_nothing

theorem tells_frame (happ : frame.ind.srcEndpoint ≠ 0) :
    Tells (if frame.data.length ≤ 255 then
      ZbNcp.indication .apsdeDataInd (outdata frame.ind frame.data) else none).toList
      frame.event := by
  by_cases hlen : frame.data.length ≤ 255
  · rw [if_pos hlen, AfFrame.event, if_pos ⟨happ, hlen⟩]
    apply tells_indication
    · have hbody := (length_outdata hlen).1
      omega
    · rw [decodeBody, readData_outdata hlen]
  · rw [if_neg hlen, AfFrame.event, if_neg fun h => hlen h.2]
    exact tells_nothing

-- The frames of the network, as the host, the stack and the request table see
-- them.
structure Seen (s : State) : Prop where
  refines : ∃ labels, Run.exec (RequestProcess.step simpleDesc) (RequestProcess.init zeroArg)
    labels = some s.table
  decoded : s.sent.map hostDecode = (s.taken.filterMap Label.event).map some
  short : ∀ payload ∈ s.sent, payload.length ≤ 283
  owned : (s.freed ++ s.leftToStack).Perm (s.taken.filterMap Label.buffer)
  left : s.leftToStack.Sublist (s.taken.filterMap Label.zdpBuffer)

theorem seen_init : Seen init where
  refines := ⟨[], rfl⟩
  decoded := rfl
  short := nofun
  owned := .refl []
  left := .refl []

variable {next : State} {label : Label} {more : List (List UInt8)}

theorem filterMap_append_singleton {α β : Type} (f : α → Option β) (past : List α) (last : α) :
    (past ++ [last]).filterMap f = past.filterMap f ++ (f last).toList := by
  rw [List.filterMap_append]
  cases hlast : f last with
  | none => rw [List.filterMap_cons_none hlast, List.filterMap_nil]; rfl
  | some value => rw [List.filterMap_cons_some hlast, List.filterMap_nil]; rfl

-- One label: what it puts out, and who has the buffer afterwards.
theorem Seen.step (h : Seen s) (htaken : next.taken = s.taken ++ [label])
    (hrefines : ∃ labels, Run.exec (RequestProcess.step simpleDesc) s.table labels =
      some next.table)
    (hsent : next.sent = s.sent ++ more) (htells : Tells more label.event)
    (howned : next.freed = s.freed ++ label.buffer.toList ∧ next.leftToStack = s.leftToStack ∨
      next.freed = s.freed ∧ next.leftToStack = s.leftToStack ++ label.buffer.toList ∧
        label.zdpBuffer = label.buffer) : Seen next where
  refines := by
    obtain ⟨past, hpast⟩ := h.refines
    obtain ⟨last, hlast⟩ := hrefines
    exact ⟨past ++ last, Run.exec_append.mpr ⟨s.table, hpast, hlast⟩⟩
  decoded := by
    rw [hsent, htaken, List.map_append, filterMap_append_singleton, List.map_append, h.decoded,
      htells.decoded]
  short payload hmem := by
    rw [hsent] at hmem
    exact (List.mem_append.mp hmem).elim (h.short payload) (htells.short payload)
  owned := by
    rw [htaken, filterMap_append_singleton]
    rcases howned with ⟨hfreed, hleft⟩ | ⟨hfreed, hleft, -⟩
    · rw [hfreed, hleft]
      have hswap : (s.freed ++ label.buffer.toList ++ s.leftToStack).Perm
          (s.freed ++ s.leftToStack ++ label.buffer.toList) := by
        rw [List.append_assoc, List.append_assoc]
        exact List.perm_append_comm.append_left _
      exact hswap.trans (h.owned.append_right _)
    · rw [hfreed, hleft, ← List.append_assoc]
      exact h.owned.append_right _
  left := by
    rw [htaken, filterMap_append_singleton]
    rcases howned with ⟨-, hleft⟩ | ⟨-, hleft, hzdp⟩
    · rw [hleft]
      exact h.left.trans (List.sublist_append_left _ _)
    · rw [hleft, hzdp]
      exact h.left.append_right _

theorem Seen.dataIndication (h : Seen s) (hfree : s.table.table.running = none)
    (frame : AfFrame) : Seen (dataIndication { s with taken := s.taken ++ [.dataIndication frame] }
      frame) := by
  unfold Indication.dataIndication
  by_cases hzdp : frame.ind.srcEndpoint = 0
  · have hquiet : Tells [] (Label.dataIndication frame).event := by
      rw [Label.event, AfFrame.event, if_neg fun hevent => hevent.1 hzdp]
      exact tells_nothing
    rw [if_pos hzdp]
    split_ifs with hhit
    · have hlen : 5 ≤ frame.data.length := by
        simp only [intercepts, Bool.and_eq_true, decide_eq_true_eq] at hhit
        exact hhit.1.2
      refine h.step rfl ⟨[.simpleDescRsp frame.data], ?_⟩ (List.append_nil _).symm hquiet
        (.inl ⟨rfl, rfl⟩)
      rw [Run.exec_cons]
      refine ⟨_, ?_, rfl⟩
      rw [RequestProcess.step, if_pos ⟨rfl, hfree, hlen⟩]
    · exact h.step rfl ⟨[], rfl⟩ (List.append_nil _).symm hquiet
        (.inr ⟨rfl, rfl, by rw [Label.zdpBuffer, if_pos hzdp]; rfl⟩)
  · rw [if_neg hzdp]
    exact h.step rfl ⟨[], rfl⟩ rfl (tells_frame hzdp) (.inl ⟨rfl, rfl⟩)

-- A label that tells the host nothing and brings no buffer.
theorem Seen.quiet (h : Seen s) (hbuffer : label.buffer = none) (hevent : label.event = none)
    (htaken : next.taken = s.taken ++ [label])
    (hrefines : ∃ labels, Run.exec (RequestProcess.step simpleDesc) s.table labels =
      some next.table)
    (hsent : next.sent = s.sent) (hfreed : next.freed = s.freed)
    (hleft : next.leftToStack = s.leftToStack) : Seen next := by
  refine h.step htaken hrefines (hsent.trans (List.append_nil _).symm) (hevent ▸ tells_nothing)
    (.inl ⟨?_, hleft⟩)
  rw [hbuffer, hfreed]
  exact (List.append_nil _).symm

theorem Seen.tableStep (h : Seen s)
    (label : RequestProcess.Label RequestProcess.SimpleDesc.Resp) :
    Seen (Indication.tableStep s label) := by
  unfold Indication.tableStep
  cases hstep : RequestProcess.step simpleDesc s.table label with
  | none => exact h
  | some table => exact h.quiet rfl rfl rfl ⟨[label], by simp [Run.exec, hstep]⟩ rfl rfl rfl

theorem seen_step (h : Seen s) (label : Label) : Seen (Indication.step s label) := by
  cases label with
  | register => exact h.quiet rfl rfl rfl ⟨[], rfl⟩ rfl rfl rfl
  | table label =>
      cases label with
      | simpleDescRsp p => exact h
      | _ => exact h.tableStep _
  | dataIndication frame =>
      rw [Indication.step]
      split_ifs with henabled
      · exact h.dataIndication (Option.isNone_iff_eq_none.mp henabled.2) frame
      · exact h
  | signal param signal =>
      rw [Indication.step]
      split_ifs
      · exact h.step rfl ⟨[], rfl⟩ rfl (tells_signal signal) (.inl ⟨rfl, rfl⟩)
      · exact h

-- The host reads back, in order, every application frame of at most 255 bytes
-- and every signal it is to know of, and nothing else. A buffer of the stack is
-- freed or left to the stack, and only ZDP frames are left to it. The requests
-- for simple descriptors go on as if the intercept were one of their labels.
theorem network_told (labels : List Label) :
    let s := run labels
    s.sent.map hostDecode = (s.taken.filterMap Label.event).map some ∧
      (∀ payload ∈ s.sent, payload.length ≤ 283) ∧
      (s.freed ++ s.leftToStack).Perm (s.taken.filterMap Label.buffer) ∧
      s.leftToStack.Sublist (s.taken.filterMap Label.zdpBuffer) ∧
      ∃ refined, Run.exec (RequestProcess.step simpleDesc) (RequestProcess.init zeroArg) refined =
        some s.table := by
  have h : Seen (run labels) :=
    Run.foldl_history step init (fun _ s => Seen s) seen_init
      (fun _ _ label h => seen_step h label) labels
  exact ⟨h.decoded, h.short, h.owned, h.left, h.refines⟩

end EspCoordinator.Indication
