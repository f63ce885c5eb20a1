import EspCoordinator.Apsde.Lemmas
import EspCoordinator.Commissioning.Theorems
import EspCoordinator.Device
import EspCoordinator.RequestProcess.Theorems

namespace EspCoordinator.Device

open Requests (Frame HostRequest Table Answer)
open Resolver (Request Slot)
open Credit (spent)

theorem responded_reply (cmd : Cmd) (data : List UInt8) :
    responded (cmd.reply.bytes ++ data) = {cmd.reply} := by
  rw [responded, ZbNcp.readCmd_bytes]
  exact if_pos rfl

theorem responded_payload {frame : Frame} {cmd : Cmd} (h : frame.cmd = cmd.reply) :
    responded (payload frame) = {cmd.reply} := by
  rw [payload, h, responded_reply]

theorem responded_statusReply (cmd : Cmd) (status : UInt8) :
    responded (ZbNcp.statusReply cmd status) = {cmd.reply} := responded_reply cmd _

-- An indication is no answer to anything.
theorem spent_indication (id : CommandId) (data : List UInt8) :
    spent responded (ZbNcp.indication id data).toList = 0 := by
  unfold ZbNcp.indication
  split
  · rfl
  · rw [Option.toList_some, Credit.spent_singleton]
    have htype : ZbNcp.frameType FrameType.indication.toByte = some .indication :=
      ZbNcp.frameType_toByte .indication
    simp only [responded, ZbNcp.readCmd, List.cons_append, List.getD_cons_succ,
      List.getD_cons_zero, htype, Option.map_some, reduceCtorEq, if_false]

section Table

variable {Arg Ret : Type} {t next : Table Arg Ret} {idx : Slot} {req : Request Arg}
  {taken lost : Credits}

theorem slotCredit_none (h : req.state = .none) : slotCredit req = 0 := if_pos h

theorem slotCredit_busy (h : req.state ≠ .none) : slotCredit req = {req.cmd.reply} := if_neg h

theorem tableHeld_init (zero : Arg) : tableHeld (Table.init zero : Table Arg Ret) = 0 :=
  Finset.sum_eq_zero fun idx _ => slotCredit_none (Resolver.init_state zero idx)

-- What a step of the table does to the books.
def Moves (t next : Table Arg Ret) (taken lost : Credits) : Prop :=
  taken + tableHeld t = spent responded (sentSince t next) + tableHeld next + lost

theorem sentSince_same (h : next.answers = t.answers) : sentSince t next = [] := by
  rw [sentSince, h, List.drop_length, List.map_nil]

theorem sentSince_append {answer : Answer} (h : next.answers = t.answers ++ [answer]) :
    sentSince t next = [payload answer.frame] := by
  rw [sentSince, h, List.drop_left, List.map_singleton]

theorem tableHeld_update (h : next.slot = Function.update t.slot idx req) :
    tableHeld next + slotCredit (t.slot idx) = tableHeld t + slotCredit req := by
  rw [tableHeld, h]
  exact Credit.sum_update (σ := fun _ => Request Arg) (fun _ => slotCredit) t.slot idx req

-- The slot is written without a change of hands.
theorem moves_write (hslot : next.slot = Function.update t.slot idx req)
    (hcredit : slotCredit req = slotCredit (t.slot idx)) (hanswers : next.answers = t.answers) :
    Moves t next 0 0 := by
  have hheld := tableHeld_update hslot
  rw [hcredit] at hheld
  rw [Moves, sentSince_same hanswers, Credit.spent_nil, add_right_cancel hheld, add_zero]

theorem moves_same (hslot : next.slot = t.slot) (hanswers : next.answers = t.answers) :
    Moves t next 0 0 := by
  rw [Moves, sentSince_same hanswers, Credit.spent_nil, tableHeld, tableHeld, hslot, add_zero]

-- A request leaves its slot with a response.
theorem moves_reply {answer : Answer} (hslot : next.slot = Function.update t.slot idx req)
    (hbusy : (t.slot idx).state ≠ .none) (hnone : req.state = .none)
    (hanswers : next.answers = t.answers ++ [answer])
    (hframe : answer.frame.cmd = (t.slot idx).cmd.reply) : Moves t next 0 0 := by
  have hheld := tableHeld_update hslot
  rw [slotCredit_busy hbusy, slotCredit_none hnone, add_zero] at hheld
  rw [Moves, sentSince_append hanswers, Credit.spent_singleton, responded_payload hframe, ← hheld,
    zero_add, add_zero, add_comm]

theorem moves_refuse {request : HostRequest} {frame : Frame}
    (hframe : frame.cmd = request.cmd.reply) :
    Moves t (t.refuse request frame) {request.cmd.reply} 0 := by
  rw [Moves, sentSince_append (Table.answers_refuse request frame), Credit.spent_singleton,
    responded_payload hframe, add_zero]
  rfl

-- A request gets a slot, and who sat there before is dropped.
theorem moves_claim {request : HostRequest} {noSlot : Frame}
    (hframe : noSlot.cmd = request.cmd.reply) :
    Moves t (t.claim request noSlot) {request.cmd.reply} (overridden t request.cmd) := by
  unfold overridden
  cases hstart : t.resolver.startResolve request.cmd with
  | none =>
      rw [Table.claim_eq_refuse noSlot hstart]
      exact moves_refuse hframe
  | some found =>
      obtain ⟨idx, r⟩ := found
      have hheld := tableHeld_update (Table.slot_claim noSlot hstart)
      have hnew : slotCredit { t.slot idx with
          cmd := request.cmd, old := t.resolver.oldCntr, state := .allocation } =
            {request.cmd.reply} := slotCredit_busy (by simp)
      rw [hnew] at hheld
      have hsame : (t.claim request noSlot).answers = t.answers := by rw [Table.claim, hstart]
      rw [Moves, sentSince_same hsame, Credit.spent_nil, zero_add]
      exact (add_comm _ _).trans hheld.symm

theorem moves_answer {frame : Frame} (hbusy : (t.slot idx).state ≠ .none)
    (hframe : frame.cmd = (t.slot idx).cmd.reply) : Moves t (t.answer idx frame) 0 0 :=
  moves_reply (Table.slot_answer idx frame) hbusy rfl (Table.answers_answer idx frame) hframe

theorem moves_abort {frame : Frame} (hbusy : (t.slot idx).state ≠ .none)
    (hframe : frame.cmd = (t.slot idx).cmd.reply) : Moves t (t.abort idx frame) 0 0 :=
  moves_reply (Table.slot_abort idx frame) hbusy rfl (Table.answers_answer idx frame) hframe

theorem moves_handOver {arg : Arg} {accepted : Bool} {rejected : Frame}
    (hbusy : (t.slot idx).state ≠ .none) (hframe : rejected.cmd = (t.slot idx).cmd.reply) :
    Moves t (t.handOver idx arg accepted rejected) 0 0 := by
  have hslot := t.slot_handOver idx arg accepted rejected
  cases accepted with
  | true =>
      refine moves_write hslot ?_ rfl
      rw [slotCredit_busy hbusy, slotCredit_busy (by simp)]
  | false => exact moves_reply hslot hbusy rfl rfl hframe

theorem moves_publish (hbusy : (t.slot idx).state ≠ .none) (tsn : UInt8) (tick : UInt32) :
    Moves t (t.publish idx tsn tick) 0 0 := by
  refine moves_write (Table.slot_publish idx tsn tick) ?_ rfl
  rw [slotCredit_busy hbusy, slotCredit_busy (by simp)]

-- What the watchdog frees is written off.
theorem moves_reclaim (now timeout : UInt32) :
    Moves t (t.reclaim now timeout) 0
      (∑ idx, if t.resolver.stale now timeout idx then slotCredit (t.slot idx) else 0) := by
  have hslot (idx : Slot) : slotCredit ((t.reclaim now timeout).slot idx) +
      (if t.resolver.stale now timeout idx then slotCredit (t.slot idx) else 0) =
        slotCredit (t.slot idx) := by
    rw [Table.slot_reclaim]
    by_cases hstale : t.resolver.stale now timeout idx = true
    · rw [if_pos hstale, if_pos hstale, slotCredit_none rfl, zero_add]
    · rw [if_neg hstale, if_neg hstale, add_zero]
  have hsame : (t.reclaim now timeout).answers = t.answers := rfl
  rw [Moves, sentSince_same hsame, Credit.spent_nil, zero_add, zero_add, tableHeld, tableHeld,
    ← Finset.sum_add_distrib]
  exact Finset.sum_congr rfl fun idx _ => (hslot idx).symm

end Table

section Zdo

variable {Arg Resp : Type} {s : RequestProcess.State Arg}

theorem moves_take (s : RequestProcess.State Arg) (tsn : UInt8) {frame : Request Arg → Frame}
    (hframe : ∀ req, (frame req).cmd = req.cmd.reply) :
    Moves s.table (RequestProcess.take s tsn frame).table 0 0 := by
  rcases RequestProcess.take_cases s tsn frame with ⟨htake, -⟩ | ⟨idx, hexec, -, htake⟩
  · rw [htake]
    exact moves_same rfl rfl
  · rw [htake]
    exact moves_answer (by simp [hexec]) (hframe _)

theorem moves_zdo (c : ZdoCommand) {s next : RequestProcess.State c.Arg}
    {label : RequestProcess.Label c.Resp} (h : RequestProcess.Inv s)
    (hstep : RequestProcess.step c.command s label = some next) :
    Moves s.table next.table ((zdoPart c).taken label) ((zdoPart c).lost s label) := by
  cases RequestProcess.effect_of_step hstep with
  | @refuse request happ hcheck =>
      simp only [zdoPart, hcheck, Bool.false_eq_true, if_false]
      exact moves_refuse rfl
  | @claim request happ hcheck =>
      simp only [zdoPart, hcheck, if_true]
      exact moves_claim rfl
  | @handOver accepted idx request happ =>
      refine moves_handOver (by simp [h.sound.allocation_of_app happ]) ?_
      rw [h.sound.cmd_of_app happ]
      rfl
  | startFailed => exact moves_same rfl rfl
  | start => exact moves_same rfl rfl
  | abort hrunning =>
      exact moves_abort (by simp [h.sound.allocation_of_running hrunning]) rfl
  | publish hrunning =>
      exact moves_publish (by simp [h.sound.allocation_of_running hrunning]) _ _
  | @reqCb resp => exact moves_take s _ fun req => RequestProcess.reqCbFrame_cmd req resp
  | simpleDescRsp => exact moves_take s _ fun _ => rfl

theorem balanced_zdo (c : ZdoCommand) : (zdoPart c).Balanced responded RequestProcess.Inv := by
  constructor
  · intro s label next out h hstep
    obtain ⟨after, hafter, heq⟩ := Option.map_eq_some_iff.mp hstep
    obtain ⟨rfl, -⟩ := Prod.mk.inj heq
    exact RequestProcess.inv_step h hafter
  · intro s label next out h hstep
    obtain ⟨after, hafter, heq⟩ := Option.map_eq_some_iff.mp hstep
    obtain ⟨rfl, rfl⟩ := Prod.mk.inj heq
    exact moves_zdo c h hafter

end Zdo

section Apsde

variable {hz : Nat} {s next : Apsde.State} {label : Apsde.Label}

theorem moves_startRequest (s : Apsde.State) (idx : Slot) (buf : UInt8) (ret : UInt32) :
    Moves s.table (Apsde.startRequest s idx buf ret).table 0 0 := by
  let noted := (s.table.noteTsn idx (Apsde.zclTsn (s.table.slot idx).arg)).start idx ret
  have htable : (Apsde.startRequest s idx buf ret).table = noted := by
    unfold Apsde.startRequest
    split <;> rfl
  rw [htable]
  exact moves_write (Table.slot_noteTsn idx _) rfl rfl

theorem moves_apsde (h : Apsde.Inv s) (hstep : Apsde.step hz s label = some next) :
    Moves s.table next.table ((apsdePart hz).taken label) ((apsdePart hz).lost s label) := by
  cases Apsde.effect_of_step hstep with
  | refuse happ hsampled hcheck =>
      simp only [apsdePart, hcheck, Bool.false_eq_true, if_false]
      exact moves_refuse rfl
  | claim happ hsampled hcheck =>
      simp only [apsdePart, hcheck, if_true]
      exact moves_claim rfl
  | @handOver accepted idx request happ =>
      refine moves_handOver (by simp [h.sound.allocation_of_app happ]) ?_
      rw [h.sound.cmd_of_app happ]
      rfl
  | doRequest => exact moves_startRequest s _ _ _
  | abort hrunning =>
      exact moves_abort (by simp [h.sound.allocation_of_running hrunning]) rfl
  | publish hrunning =>
      exact moves_publish (by simp [h.sound.allocation_of_running hrunning]) _ _
  | @confirm param resp =>
      rcases Apsde.callback_cases s param resp with
        hsame | ⟨idx, frame, -, -, hexec, -, hframe, hanswer⟩
      · rw [hsame]
        exact moves_same rfl rfl
      · rw [hanswer]
        exact moves_answer (by simp [hexec]) hframe
  | early => exact moves_same rfl rfl
  | sample => exact moves_same rfl rfl
  | scan hsample =>
      simp only [apsdePart, hsample, Option.elim_some]
      exact moves_reclaim _ _
  | tick => exact moves_same rfl rfl

theorem balanced_apsde (hz : Nat) : (apsdePart hz).Balanced responded Apsde.Inv := by
  constructor
  · intro s label next out h hstep
    obtain ⟨after, hafter, heq⟩ := Option.map_eq_some_iff.mp hstep
    obtain ⟨rfl, -⟩ := Prod.mk.inj heq
    exact Apsde.inv_step h hafter
  · intro s label next out h hstep
    obtain ⟨after, hafter, heq⟩ := Option.map_eq_some_iff.mp hstep
    obtain ⟨rfl, rfl⟩ := Prod.mk.inj heq
    exact moves_apsde h hafter

end Apsde

section Commissioning

variable {τ : Type} {z : Commissioning.Stack τ} {s next : Commissioning.State τ}
  {taken : Credits}

-- What a step of the commissioning does to the books.
def Sends (s next : Commissioning.State τ) (taken : Credits) : Prop :=
  ∃ more, next.sent = s.sent ++ more ∧ next.startCmd = s.startCmd ∧
    taken + cmdCredit s.formation.cmd =
      spent responded (more.filterMap Sent.payload) + cmdCredit next.formation.cmd

theorem Sends.quiet (hsent : next.sent = s.sent) (hstart : next.startCmd = s.startCmd)
    (hcmd : next.formation.cmd = s.formation.cmd) : Sends s next 0 :=
  ⟨[], by rw [hsent, List.append_nil], hstart, by rw [hcmd]; rfl⟩

theorem responded_start (cmd : Cmd) (request : Nat) (data : List UInt8) :
    spent responded ([Commissioning.Sent.start
      { request, frame := { cmd := cmd.reply, data } }].filterMap Sent.payload) = {cmd.reply} := by
  change spent responded [_] = _
  rw [Credit.spent_singleton, responded_payload rfl]

theorem responded_formation (cmd : Cmd) (request : Nat) (data : List UInt8) :
    spent responded ([Commissioning.Sent.formation
      { request, frame := { cmd := cmd.reply, data } }].filterMap Sent.payload) = {cmd.reply} := by
  change spent responded [_] = _
  rw [Credit.spent_singleton, responded_payload rfl]

theorem sends_nwkFormation (h : Commissioning.Inv s) (cmd : Cmd) (buffer : List UInt8) :
    Sends s (Commissioning.nwkFormation z s cmd buffer) {cmd.reply} := by
  let process := NwkFormation.process (Commissioning.tracked z.toZboss) s.formation cmd buffer
  refine ⟨(Commissioning.answers s.requests.length process.2).map .formation, rfl, rfl, ?_⟩
  change {cmd.reply} + cmdCredit s.formation.cmd = _ + cmdCredit process.1.cmd
  rcases Commissioning.process_cases (z := z) h.initFlag cmd buffer with
    ⟨-, data, hprocess⟩ | ⟨hnone, f, hprocess, hcmd, -⟩ | ⟨hnone, f, data, hprocess, hcmd, -⟩
  · rw [show process = _ from hprocess]
    exact congrArg (· + _) (responded_formation cmd _ data).symm
  · rw [show process = _ from hprocess, hnone, hcmd]
    rfl
  · rw [show process = _ from hprocess, hnone, hcmd]
    exact congrArg (· + _) (responded_formation cmd _ data).symm

theorem sends_signalFormation (z : Commissioning.Stack τ) (s : Commissioning.State τ)
    (status : Int) : Sends s (Commissioning.signalFormation z s status) 0 := by
  obtain ⟨f, more, hsignal, -, hnone, hmore⟩ := Commissioning.signalFormation_spec z s status
  rw [hsignal]
  refine ⟨more, rfl, rfl, ?_⟩
  rcases hmore with ⟨hfree, rfl⟩ | ⟨held, data, hheld, rfl⟩
  · simp only [hfree, hnone]
    rfl
  · simp only [hheld, hnone]
    rw [responded_formation, zero_add]
    rfl

theorem sends_continueZboss (z : Commissioning.Stack τ) (s : Commissioning.State τ) :
    Sends s (Commissioning.continueZboss z s) 0 := by
  obtain ⟨-, hcmd, -, -, -, -, hstart, -⟩ := Commissioning.continueZboss_spec z s
  rcases hcmd with ⟨hsame, -, hsent⟩ | ⟨held, data, hheld, hnone, hsent⟩
  · exact ⟨_, hsent, hstart, by rw [hsame]; rfl⟩
  · refine ⟨_, hsent.trans (List.append_assoc _ _ _), hstart, ?_⟩
    rw [hheld, hnone, List.filterMap_append, Credit.spent_append, responded_formation, zero_add]
    rfl

theorem sends_step (h : Commissioning.Inv s) (label : Commissioning.Label τ) :
    Sends s (Commissioning.step z s label) ((commissioningPart z).taken label) := by
  cases label with
  | nwkFormation cmd buffer => exact sends_nwkFormation h cmd buffer
  | nwkStartWithoutFormation cmd =>
      rw [Commissioning.step, Commissioning.nwkStartWithoutFormation_spec h.initFlag h.startCmd]
      exact ⟨_, rfl, rfl, congrArg (· + _) (responded_start cmd _ _).symm⟩
  | setChannelMask mask => exact .quiet rfl rfl rfl
  | signal signal status =>
      cases signal with
      | skipStartup => exact .quiet rfl rfl rfl
      | deviceFirstStart =>
          rw [Commissioning.step, Commissioning.signalHandler,
            Commissioning.startResponse_none h.startCmd]
          exact .quiet rfl rfl rfl
      | deviceReboot =>
          rw [Commissioning.step, Commissioning.signalHandler,
            Commissioning.startResponse_none h.startCmd]
          exact .quiet rfl rfl rfl
      | formation => exact sends_signalFormation z s status
      | other => exact .quiet rfl rfl rfl
  | continueZboss =>
      rw [Commissioning.step]
      split_ifs
      · exact .quiet rfl rfl rfl
      · obtain ⟨more, hsent, hstart, hcredit⟩ :=
          sends_continueZboss z { s with scheduled := s.scheduled - 1 }
        exact ⟨more, hsent, hstart, hcredit⟩
  | dataIndication data =>
      rw [Commissioning.step]
      split_ifs
      · refine ⟨_, rfl, rfl, ?_⟩
        have hnone := spent_indication .apsdeDataInd data
        cases hpayload : ZbNcp.indication .apsdeDataInd data with
        | none => rfl
        | some payload =>
            rw [hpayload] at hnone
            exact congrArg (· + _) hnone.symm
      · exact .quiet rfl rfl rfl
  | stack stack => exact .quiet rfl rfl rfl

theorem balanced_commissioning (z : Commissioning.Stack τ) :
    (commissioningPart z).Balanced responded Commissioning.Inv := by
  constructor
  · intro s label next out h hstep
    obtain ⟨rfl, -⟩ := Prod.mk.inj (Option.some.inj hstep)
    exact Commissioning.inv_step h label
  · intro s label next out h hstep
    obtain ⟨rfl, rfl⟩ := Prod.mk.inj (Option.some.inj hstep)
    obtain ⟨more, hsent, hstart, hcredit⟩ := sends_step (z := z) h label
    change (commissioningPart z).taken label + (cmdCredit s.formation.cmd + cmdCredit s.startCmd) =
      spent responded (((Commissioning.step z s label).sent.drop s.sent.length).filterMap
        Sent.payload) + (cmdCredit (Commissioning.step z s label).formation.cmd +
          cmdCredit (Commissioning.step z s label).startCmd) + 0
    rw [hsent, List.drop_left, hstart, add_zero, ← add_assoc, hcredit, add_assoc]

end Commissioning

theorem balanced_atOnce {σ : Type} (service : ZbNcp.Service σ) :
    (atOncePart service).Balanced responded fun _ => True := by
  refine ⟨fun _ _ _ _ _ _ => trivial, ?_⟩
  rintro s ⟨id, cmd, buf⟩ next out - hstep
  obtain ⟨-, rfl⟩ := Prod.mk.inj (Option.some.inj hstep)
  change {cmd.reply} + 0 = spent responded [_] + 0 + 0
  rw [Credit.spent_singleton, responded_reply]
  rfl

theorem balanced_reset : resetPart.Balanced responded fun _ => True := by
  refine ⟨fun _ _ _ _ _ _ => trivial, ?_⟩
  rintro s ⟨cmd, created⟩ next out - hstep
  obtain ⟨-, rfl⟩ := Prod.mk.inj (Option.some.inj hstep)
  cases created with
  | true => rfl
  | false =>
      change {cmd.reply} + 0 = spent responded [_] + 0 + 0
      rw [Credit.spent_singleton, responded_statusReply]
      rfl

theorem balanced_signals : signalPart.Balanced responded fun _ => True := by
  refine ⟨fun _ _ _ _ _ _ => trivial, ?_⟩
  rintro s ⟨id, data⟩ next out - hstep
  obtain ⟨-, rfl⟩ := Prod.mk.inj (Option.some.inj hstep)
  change 0 + 0 = spent responded (ZbNcp.indication id data).toList + 0 + 0
  rw [spent_indication]
  rfl

variable {F : Firmware}

-- What each part keeps to.
def Good (F : Firmware) : ∀ member, (part F member).State → Prop
  | .zdo command => fun s : RequestProcess.State (F.zdo command).Arg => RequestProcess.Inv s
  | .apsde => Apsde.Inv
  | .commissioning => fun s : Commissioning.State F.Zboss => Commissioning.Inv s
  | .atOnce => fun _ => True
  | .reset => fun _ => True
  | .signals => fun _ => True

theorem balanced_part (F : Firmware) (member : Member) :
    (part F member).Balanced responded (Good F member) := by
  cases member with
  | zdo command => exact balanced_zdo (F.zdo command)
  | apsde => exact balanced_apsde F.hz
  | commissioning => exact balanced_commissioning F.stack
  | atOnce => exact balanced_atOnce F.service
  | reset => exact balanced_reset
  | signals => exact balanced_signals

theorem balanced_parts (F : Firmware) :
    (parts F).Balanced responded fun members => ∀ member, Good F member (members member) :=
  Credit.balanced_parallel (balanced_part F)

theorem good_init (world : F.World) (zboss : F.Zboss) (restored : Bool) (member : Member) :
    Good F member (init F world zboss restored member) := by
  cases member with
  | zdo command => exact RequestProcess.inv_init _
  | apsde => exact Apsde.inv_init
  | commissioning => exact Commissioning.inv_init F.stack zboss restored
  | _ => trivial

-- Nothing is in a slot yet.
theorem held_init (world : F.World) (zboss : F.Zboss) (restored : Bool) :
    (parts F).held (init F world zboss restored) = 0 := by
  change ∑ member, (part F member).held (init F world zboss restored member) = 0
  refine Finset.sum_eq_zero fun member _ => ?_
  cases member with
  | zdo command => exact tableHeld_init (F.zdo command).zero
  | apsde => exact tableHeld_init (List.replicate Apsde.MAX_ARG_SIZE 0)
  | _ => rfl

theorem taken_task {label : (parts F).Label} (h : isEntry F label = false) :
    (parts F).taken label = 0 := by
  obtain ⟨member, label⟩ := label
  cases member with
  | zdo command => cases label <;> first | rfl | cases h
  | apsde => cases label <;> first | rfl | cases h
  | commissioning => cases label <;> first | rfl | cases h
  | atOnce => cases h
  | reset => cases h
  | signals => rfl

-- The task that serves the input is free, so the handler can start.
theorem isSome_processZdo {Arg Resp : Type} (c : RequestProcess.Command Arg Resp)
    {s : RequestProcess.State Arg} (happ : s.table.app.isNone = true) (request : HostRequest) :
    (RequestProcess.step c s (.process request)).isSome = true := by
  rw [Option.isNone_iff_eq_none] at happ
  simp only [RequestProcess.step, happ, Option.isSome_none, Bool.false_eq_true, if_false]
  split <;> rfl

theorem isSome_processApsde {hz : Nat} {s : Apsde.State} (happ : s.table.app.isNone = true)
    (hsampled : s.sampled.isNone = true) (request : HostRequest) :
    (Apsde.step hz s (.process request)).isSome = true := by
  rw [Option.isNone_iff_eq_none] at happ hsampled
  simp only [Apsde.step, happ, hsampled, Option.isSome_none, Bool.false_eq_true, or_self, if_false]
  split <;> rfl

theorem isSome_parts {members : (parts F).State} {member : Member}
    {label : (part F member).Label}
    (h : ((part F member).step (members member) label).isSome = true) :
    ((parts F).step members ⟨member, label⟩).isSome = true :=
  (Option.isSome_map).trans h

theorem isSome_enter {members : (parts F).State} (h : Idle members) (created : Bool)
    (id : CommandId) (cmd : Cmd) (buf : List UInt8) :
    ((parts F).step members (enter F created id cmd buf)).isSome = true := by
  obtain ⟨hzdo, happ, hsampled⟩ := h
  unfold enter
  cases Zdo.ofId id with
  | some command =>
      exact isSome_parts (Option.isSome_map.trans
        (isSome_processZdo (F.zdo command).command (hzdo command) { cmd, buffer := buf }))
  | none =>
      have hapsde : ((parts F).step members
          ⟨.apsde, Apsde.Label.process { cmd, buffer := buf }⟩).isSome = true :=
        isSome_parts (Option.isSome_map.trans
          (isSome_processApsde happ hsampled { cmd, buffer := buf }))
      cases id <;> first | exact hapsde | rfl

theorem taken_enter (created : Bool) (id : CommandId) (cmd : Cmd) (buf : List UInt8) :
    (parts F).taken (enter F created id cmd buf) = {cmd.reply} := by
  unfold enter
  cases Zdo.ofId id with
  | some command => rfl
  | none => cases id <;> rfl

-- What on_rx_data does with its data: it drops them, answers them with a
-- status, or calls one handler.
theorem onRxData_cases {σ : Type} (safeMode : Bool) (handlers : ZbNcp.Handlers σ) (s : σ)
    (data : List UInt8) :
    accepted safeMode data = none ∧ ZbNcp.onRxData safeMode handlers s data = (s, []) ∨
    ∃ cmd, accepted safeMode data = some cmd ∧
      ((∃ status, ZbNcp.onRxData safeMode handlers s data = (s, [ZbNcp.statusReply cmd status])) ∨
        ∃ id buf, ZbNcp.onRxData safeMode handlers s data = handlers id s cmd buf) := by
  unfold accepted ZbNcp.onRxData
  by_cases hshort : data.length < CMD_SIZE
  · rw [if_pos hshort, if_pos hshort]
    exact .inl ⟨rfl, rfl⟩
  · rw [if_neg hshort, if_neg hshort]
    cases ZbNcp.readCmd data with
    | none => exact .inl ⟨rfl, rfl⟩
    | some cmd =>
        cases safeMode with
        | true =>
            by_cases htype : cmd.type = .request
            · refine .inr ⟨cmd, by simp [htype], ?_⟩
              simp only [ZbNcp.onRxDataSafe, if_true, htype, ne_eq, not_true_eq_false, if_false]
              split
              · exact .inr ⟨_, _, rfl⟩
              · exact .inr ⟨_, _, rfl⟩
              · exact .inl ⟨_, rfl⟩
            · refine .inl ⟨by simp [htype], ?_⟩
              simp only [ZbNcp.onRxDataSafe, if_true, htype, ne_eq, not_false_eq_true]
        | false =>
            by_cases htype : cmd.type = .request ∨ cmd.type = .response
            · refine .inr ⟨cmd, by simpa using htype, ?_⟩
              have hserved : ¬(cmd.type ≠ .request ∧ cmd.type ≠ .response) := by tauto
              simp only [Bool.false_eq_true, if_false, if_neg hserved]
              split
              · exact .inr ⟨_, _, rfl⟩
              · exact .inl ⟨_, rfl⟩
            · refine .inl ⟨by simpa [not_or] using htype, ?_⟩
              simp only [Bool.false_eq_true, if_false, if_pos (not_or.mp htype)]

-- What has come in is answered, sits in a slot or was written off.
structure Sound (safeMode : Bool) (b : Books F) : Prop where
  good : ∀ member, Good F member (b.state.members member)
  conserved : (b.received.map (requested safeMode)).sum =
    spent responded b.sent + held b + b.state.lost

-- A label that is not enabled must not bring a request in.
theorem good_post {s : State F} (h : ∀ member, Good F member (s.members member))
    (label : (parts F).Label) {taken : Credits}
    (htaken : ((parts F).step s.members label).isSome = true ∧ taken = (parts F).taken label ∨
      taken = 0 ∧ (parts F).taken label = 0) :
    (∀ member, Good F member ((s.post label).1.members member)) ∧
      taken + (parts F).held s.members + s.lost = spent responded (s.post label).2 +
        (parts F).held (s.post label).1.members + (s.post label).1.lost := by
  unfold State.post
  cases hstep : (parts F).step s.members label with
  | none =>
      obtain ⟨hsome, -⟩ | ⟨rfl, -⟩ := htaken
      · rw [hstep] at hsome
        cases hsome
      · exact ⟨h, by simp⟩
  | some result =>
      obtain ⟨next, out⟩ := result
      have hsame : taken = (parts F).taken label := by
        obtain ⟨-, rfl⟩ | ⟨rfl, hzero⟩ := htaken
        · rfl
        · exact hzero.symm
      refine ⟨(balanced_parts F).inv _ _ _ _ h hstep, ?_⟩
      rw [hsame, (balanced_parts F).balance _ _ _ _ h hstep]
      simp only
      ac_rfl

theorem Sound.onRxData {safeMode : Bool} {b : Books F} (h : Sound safeMode b)
    (hidle : Idle b.state.members) (data : List UInt8) (created : Bool) :
    (∀ member, Good F member
        ((ZbNcp.onRxData safeMode (handlers created) b.state data).1.members member)) ∧
      requested safeMode data + held b + b.state.lost =
        spent responded (ZbNcp.onRxData safeMode (handlers created) b.state data).2 +
          (parts F).held (ZbNcp.onRxData safeMode (handlers created) b.state data).1.members +
          (ZbNcp.onRxData safeMode (handlers created) b.state data).1.lost := by
  unfold requested
  rcases onRxData_cases safeMode (handlers created) b.state data with
    ⟨hnone, hdata⟩ | ⟨cmd, haccepted, ⟨status, hdata⟩ | ⟨id, buf, hdata⟩⟩
  · rw [hnone, hdata]
    exact ⟨h.good, rfl⟩
  · rw [haccepted, hdata]
    refine ⟨h.good, ?_⟩
    rw [Credit.spent_singleton, responded_statusReply]
    rfl
  · rw [haccepted, hdata]
    exact good_post h.good _ (.inl ⟨isSome_enter hidle created id cmd buf,
      (taken_enter created id cmd buf).symm⟩)

theorem sound_step {safeMode : Bool} {b : Books F} (h : Sound safeMode b) (label : Label F) :
    Sound safeMode (step safeMode b label) := by
  cases label with
  | onRxData data created =>
      rw [step]
      split_ifs with hidle
      · obtain ⟨hgood, hbalance⟩ := h.onRxData hidle data created
        refine ⟨hgood, ?_⟩
        rw [List.map_append, List.sum_append, List.map_singleton, List.sum_singleton, h.conserved,
          Credit.spent_append]
        calc spent responded b.sent + held b + b.state.lost + requested safeMode data
            = spent responded b.sent + (requested safeMode data + held b + b.state.lost) := by
              ac_rfl
          _ = _ := by
              rw [hbalance]
              simp only [held]
              ac_rfl
      · exact h
  | task label =>
      rw [step]
      split_ifs with hentry
      · exact h
      · have htaken := taken_task (Bool.eq_false_iff.mpr hentry)
        obtain ⟨hgood, hbalance⟩ := good_post h.good label (.inr ⟨rfl, htaken⟩)
        refine ⟨hgood, ?_⟩
        rw [zero_add] at hbalance
        rw [h.conserved, Credit.spent_append, add_assoc, held, hbalance]
        simp only [held]
        ac_rfl

-- Every request that on_rx_data takes up gets one response with its header, is
-- in a slot, or has been written off: overridden in a full table, dropped by the
-- watchdog, or handed to the task of NCP_RESET. Nothing else is ever answered.
theorem every_request_accounted (F : Firmware) (world : F.World) (zboss : F.Zboss)
    (restored safeMode : Bool) (labels : List (Label F)) :
    let b := run F world zboss restored safeMode labels
    (b.received.map (requested safeMode)).sum =
      spent responded b.sent + held b + b.state.lost := by
  have hinit : Sound safeMode
      { state := { members := init F world zboss restored, lost := 0 }
        received := [], sent := [] } := by
    refine ⟨good_init world zboss restored, ?_⟩
    rw [held, held_init]
    rfl
  exact (Run.foldl_history (step safeMode) _ (fun _ b => Sound safeMode b) hinit
    (fun _ _ label h => sound_step h label) labels).conserved

end EspCoordinator.Device
