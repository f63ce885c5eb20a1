import EspCoordinator.Commissioning

namespace EspCoordinator.Commissioning

open NwkFormation (Zboss)
open Requests (Frame Answer)

variable {σ : Type} {z : Stack σ} {s : State σ}

-- For what a signal of the NWK formation carries, if it fits a byte, this is
-- the answer that a failed start gets.
theorem finishDelayed_ofNat (z : Zboss σ) (s : NwkFormation.State σ) (status : UInt8) :
    finishDelayed z s status.toNat = NwkFormation.finishDelayed z s status := by
  have hzero : (status.toNat : Int) = 0 ↔ status = 0 := by
    rw [Int.natCast_eq_zero, ← UInt8.toNat_inj]
    rfl
  have hbyte : statusByte status.toNat = status := by
    have hlt := status.toNat_lt
    rw [statusByte, Int.emod_eq_of_lt (by omega) (by omega), Int.toNat_natCast, UInt8.ofNat_toNat]
  rw [finishDelayed, NwkFormation.finishDelayed, hbyte]
  simp only [hzero]

section Formation

variable {f : NwkFormation.State (Tracked σ)}

theorem foldl_setChannelMask_kept (masks : List UInt32) (f : NwkFormation.State (Tracked σ)) :
    let g := masks.foldl
      (fun f mask => NwkFormation.setChannelMask (tracked z.toZboss) mask f) f
    g.cmd = f.cmd ∧ g.initFlag = f.initFlag ∧ g.zboss.owed = f.zboss.owed := by
  induction masks generalizing f with
  | nil => exact ⟨rfl, rfl, rfl⟩
  | cons mask masks ih =>
      obtain ⟨hcmd, hinit, howed⟩ :=
        ih (NwkFormation.setChannelMask (tracked z.toZboss) mask f)
      exact ⟨hcmd, hinit, howed⟩

theorem owed_commission {z : Zboss σ} {t : Tracked σ}
    (h : ((tracked z).bdbStartTopLevelCommissioning t).1 = true) :
    ((tracked z).bdbStartTopLevelCommissioning t).2.owed = true :=
  Bool.or_eq_true_iff.mpr (.inr h)

-- The stack runs. So a start that is not refused is a formation that the stack
-- has accepted.
theorem startDelayed_spec (hinit : f.initFlag = true) (buffer : List UInt8) :
    (NwkFormation.startDelayed (tracked z.toZboss) f buffer).1.cmd = f.cmd ∧
      (NwkFormation.startDelayed (tracked z.toZboss) f buffer).1.initFlag = true ∧
      ((NwkFormation.startDelayed (tracked z.toZboss) f buffer).2 = 0 →
        (NwkFormation.startDelayed (tracked z.toZboss) f buffer).1.zboss.owed = true) := by
  have hinvalid : Requests.GENERIC_INVALID_PARAMETER ≠ 0 := by decide
  have herror : GENERIC_ERROR ≠ 0 := by decide
  unfold NwkFormation.startDelayed
  cases NwkFormation.indata buffer with
  | nil => exact ⟨rfl, hinit, fun hzero => absurd hzero hinvalid⟩
  | cons len rest =>
      obtain ⟨hcmd, hflag, -⟩ := foldl_setChannelMask_kept (z := z)
        (NwkFormation.leadingMasks len.toNat rest) f
      simp only [NwkFormation.readChannels_eq]
      split_ifs
      · cases hext : NwkFormation.readExtendedPanId (rest.drop (5 * len.toNat)) with
        | none =>
            simp only [hext]
            exact ⟨hcmd, hflag.trans hinit, fun hzero => absurd hzero hinvalid⟩
        | some extendedPanId =>
            simp only [hext, NwkFormation.startZigbeeStack, hflag.trans hinit, if_true,
              Bool.false_eq_true, if_false]
            refine ⟨hcmd, trivial, fun hzero => owed_commission ?_⟩
            by_contra hnot
            rw [if_neg hnot] at hzero
            exact absurd hzero herror
      · exact ⟨hcmd, hflag.trans hinit, fun hzero => absurd hzero hinvalid⟩

-- A request is turned down for being busy, gets the slot with a formation on
-- its way, or is answered at once.
theorem process_cases (hinit : f.initFlag = true) (cmd : Cmd) (buffer : List UInt8) :
    (f.cmd.isSome = true ∧ ∃ data, NwkFormation.process (tracked z.toZboss) f cmd buffer =
      (f, [{ cmd := cmd.reply, data }])) ∨
    (f.cmd = none ∧ ∃ g, NwkFormation.process (tracked z.toZboss) f cmd buffer = (g, []) ∧
      g.cmd = some cmd ∧ g.initFlag = true ∧ g.zboss.owed = true) ∨
    (f.cmd = none ∧ ∃ g data, NwkFormation.process (tracked z.toZboss) f cmd buffer =
      (g, [{ cmd := cmd.reply, data }]) ∧ g.cmd = none ∧ g.initFlag = true) := by
  unfold NwkFormation.process
  cases hcmd : f.cmd with
  | some held => exact .inl ⟨rfl, _, rfl⟩
  | none =>
      obtain ⟨hkept, hflag, howed⟩ :=
        startDelayed_spec (z := z) (f := { f with cmd := some cmd }) hinit buffer
      generalize NwkFormation.startDelayed (tracked z.toZboss) { f with cmd := some cmd } buffer =
        result at hkept hflag howed ⊢
      obtain ⟨g, res⟩ := result
      by_cases hres : res = 0
      · exact .inr (.inl ⟨rfl, g, if_neg (not_not.mpr hres), hkept, hflag, howed hres⟩)
      · refine .inr (.inr ⟨rfl, { g with cmd := none },
          NwkFormation.finishDelayed (tracked z.toZboss) g res, ?_, rfl, hflag⟩)
        simp only [hres, ne_eq, not_false_eq_true, if_true, NwkFormation.response]
        rw [show g.cmd = some cmd from hkept]

end Formation

-- The slot of NWK_FORMATION and what has become of its requests.
structure Slot (requests : List Cmd) (held : Option Cmd) (owner : Nat) (answers : List Answer) :
    Prop where
  consistent : Lease.Consistent (book requests held owner answers)
  accounted : ∀ request < requests.length,
    Lease.Accounted (book requests held owner answers) request
  owner : ∀ cmd, held = some cmd → requests[owner]? = some cmd
  replies : ∀ answer ∈ answers, ∃ cmd, requests[answer.request]? = some cmd ∧
    answer.frame.cmd = cmd.reply

namespace Slot

variable {requests : List Cmd} {held : Option Cmd} {owner other : Nat} {answers : List Answer}
  {cmd : Cmd} {frame : Frame}

theorem init : Slot [] none 0 [] where
  consistent := by constructor <;> simp [book]
  accounted := nofun
  owner := nofun
  replies := nofun

theorem getElem?_append {request : Nat} (h : requests[request]? = some cmd) (more : List Cmd) :
    (requests ++ more)[request]? = some cmd := by
  obtain ⟨hlt, -⟩ := List.getElem?_eq_some_iff.mp h
  rw [List.getElem?_append_left hlt, h]

theorem replies_append {first : Cmd} {request : Nat} (h : Slot requests held owner answers)
    (more : List Cmd) (hrequest : (requests ++ more)[request]? = some first)
    (hframe : frame.cmd = first.reply) :
    ∀ answer ∈ answers ++ [Answer.mk request frame], ∃ cmd,
      (requests ++ more)[answer.request]? = some cmd ∧ answer.frame.cmd = cmd.reply := by
  intro answer hanswer
  rcases List.mem_append.mp hanswer with hold | hnew
  · obtain ⟨cmd, hcmd, hreply⟩ := h.replies answer hold
    exact ⟨cmd, getElem?_append hcmd more, hreply⟩
  · obtain rfl := List.mem_singleton.mp hnew
    exact ⟨first, hrequest, hframe⟩

-- No request is evicted, so what has been accounted for stays so.
theorem accounted_apply {next : Lease.Book Unit} {action : Lease.Action Unit}
    (h : Slot requests held owner answers)
    (happly : Lease.apply (book requests held owner answers) action = some next)
    (hkept : ∀ request, ¬Lease.Evicts (book requests held owner answers) request action) :
    ∀ request < next.next, Lease.Accounted next request := by
  intro request hlt
  have hold (hbefore : request < requests.length) :
      Lease.Accounted (book requests held owner answers) request ∨ False :=
    .inl (h.accounted request hbefore)
  rcases Lease.Accounted.apply happly hlt hold with haccounted | hevicts | hfalse
  · exact haccounted
  · exact absurd hevicts (hkept request)
  · exact hfalse.elim

theorem refuse (h : Slot requests held owner answers) (hsame : held = none ∨ other = owner)
    (hframe : frame.cmd = cmd.reply) :
    Slot (requests ++ [cmd]) held other (answers ++ [{ request := requests.length, frame }]) := by
  have happly : Lease.apply (book requests held owner answers) .refuse =
      some (book (requests ++ [cmd]) held other
        (answers ++ [{ request := requests.length, frame }])) := by
    rcases hsame with rfl | rfl
    · simp [Lease.apply, book]
    · simp [Lease.apply, book]
  refine ⟨h.consistent.apply happly, ?_, fun first hfirst => ?_,
    h.replies_append [cmd] (by simp) hframe⟩
  · simpa [book] using h.accounted_apply happly fun _ => id
  · rcases hsame with rfl | rfl
    · cases hfirst
    · exact getElem?_append (h.owner first hfirst) [cmd]

theorem lease (h : Slot requests none owner answers) :
    Slot (requests ++ [cmd]) (some cmd) requests.length answers := by
  have happly : Lease.apply (book requests none owner answers) (.lease ()) =
      some (book (requests ++ [cmd]) (some cmd) requests.length answers) := by
    simp only [Lease.apply, book, Option.some.injEq, List.length_append, List.length_singleton,
      Option.map_none, Option.map_some]
    congr 1
  refine ⟨h.consistent.apply happly, ?_, fun first hfirst => ?_, fun answer hanswer => ?_⟩
  · simpa [book] using h.accounted_apply happly fun request hevicts => nomatch hevicts
  · simpa using hfirst
  · obtain ⟨old, hold, hreply⟩ := h.replies answer hanswer
    exact ⟨old, getElem?_append hold [cmd], hreply⟩

theorem answer (h : Slot requests (some cmd) owner answers) (hframe : frame.cmd = cmd.reply) :
    Slot requests none owner (answers ++ [{ request := owner, frame }]) := by
  have happly : Lease.apply (book requests (some cmd) owner answers) (.answer ()) =
      some (book requests none owner (answers ++ [{ request := owner, frame }])) := by
    simp only [Lease.apply, book, Option.map_some, Option.some.injEq, List.map_append,
      List.map_singleton, Option.map_none]
    congr 1
  refine ⟨h.consistent.apply happly, ?_, nofun, ?_⟩
  · exact h.accounted_apply happly fun _ => id
  · have hreplies := h.replies_append [] (by simpa using h.owner cmd rfl) hframe
    simpa using hreplies

end Slot

theorem lawful_tracked {z : Zboss σ} (hz : z.Lawful) : (tracked z).Lawful where
  channelMask mask t := hz.channelMask mask t.stack
  primary mask t := hz.primary mask t.stack
  secondary mask t := hz.secondary mask t.stack

theorem settings_setChannelMask (z : Stack σ) (f : NwkFormation.State (Tracked σ))
    (mask : UInt32) : z.settings
      (NwkFormation.setChannelMask (tracked z.toZboss) mask f).zboss.stack =
        { z.settings f.zboss.stack with
          channelMask := z.kept mask
          bdbPrimaryChannelSet := z.kept mask
          bdbSecondaryChannelSet := z.kept mask } :=
  congrArg NwkFormation.Observed.settings
    (NwkFormation.observed_setChannelMask (lawful_tracked z.lawful) mask f)

-- The formation that is called for behind set_channel_mask
theorem masked_commission (z : Stack σ) (f : NwkFormation.State (Tracked σ)) (mask : UInt32) :
    Continued.Masked z
      { channelsMask := mask
        formations := [z.settings
          (NwkFormation.setChannelMask (tracked z.toZboss) mask f).zboss.stack] } := by
  intro settings hsettings
  rw [List.mem_singleton.mp hsettings, settings_setChannelMask]
  exact ⟨rfl, rfl, rfl⟩

-- What continue_zboss leaves behind. With a request in the slot a formation is
-- on its way afterwards, or the request is answered.
structure ContinuedTo (z : Stack σ) (s t : State σ) : Prop where
  initFlag : t.formation.initFlag = s.formation.initFlag
  cmd : t.formation.cmd = s.formation.cmd ∧ (t.formation.cmd.isSome = true →
      t.formation.zboss.owed = true) ∧ t.sent = s.sent ++ [.bootReady] ∨
    ∃ held data, s.formation.cmd = some held ∧ t.formation.cmd = none ∧
      t.sent = s.sent ++ [.bootReady] ++
        [.formation { request := s.owner, frame := { cmd := held.reply, data } }]
  formations : ∃ formations,
    t.formation.zboss.formations = s.formation.zboss.formations ++ formations ∧
      Continued.Masked z { channelsMask := s.formation.channelsMask, formations } ∧
      formations.length =
        if s.formation.cmd.isSome = true ∨ s.restoreApplied = true then 1 else 0
  dataIndication : t.dataIndication = true
  kept : t.requests = s.requests ∧ t.owner = s.owner ∧ t.startCmd = s.startCmd ∧
    t.starts = s.starts ∧ t.restoreApplied = s.restoreApplied ∧ t.scheduled = s.scheduled

theorem response_some {τ : Type} {z : Zboss τ} {f : NwkFormation.State τ} {held : Cmd}
    (hcmd : f.cmd = some held) (status : UInt8) : NwkFormation.response z f status =
      ({ f with cmd := none },
        [{ cmd := held.reply, data := NwkFormation.finishDelayed z f status }]) := by
  rw [NwkFormation.response, hcmd]

theorem continueZboss_spec (z : Stack σ) (s : State σ) : ContinuedTo z s (continueZboss z s) := by
  have hmasked := masked_commission z s.formation s.formation.channelsMask
  unfold continueZboss
  cases hcmd : s.formation.cmd with
  | some held =>
      have hone : 1 = if s.formation.cmd.isSome = true ∨ s.restoreApplied = true then 1 else 0 := by
        simp [hcmd]
      simp only [hcmd, ne_eq, reduceCtorEq, not_false_eq_true, if_true]
      split_ifs with hok
      · exact ⟨rfl, .inl ⟨rfl, fun _ => owed_commission hok, rfl⟩, ⟨_, rfl, hmasked, hone⟩,
          rfl, rfl, rfl, rfl, rfl, rfl, rfl⟩
      · rw [@response_some _ _ _ held]
        · exact ⟨rfl, .inr ⟨held, _, hcmd, rfl, rfl⟩, ⟨_, rfl, hmasked, hone⟩,
            rfl, rfl, rfl, rfl, rfl, rfl, rfl⟩
        · exact hcmd
  | none =>
      have hfree {f : NwkFormation.State (Tracked σ)} (hf : f.cmd = s.formation.cmd) :
          f.cmd.isSome = true → f.zboss.owed = true := by
        rw [hf, hcmd]
        nofun
      simp only [hcmd, ne_eq, not_true_eq_false, if_false]
      split_ifs with hrestore
      · exact ⟨rfl, .inl ⟨rfl, hfree rfl, rfl⟩, ⟨_, rfl, hmasked, by simp [hrestore]⟩,
          rfl, rfl, rfl, rfl, rfl, rfl, rfl⟩
      · exact ⟨rfl, .inl ⟨rfl, hfree rfl, rfl⟩,
          ⟨[], (List.append_nil _).symm, nofun, by simp [hcmd, hrestore]⟩,
          rfl, rfl, rfl, rfl, rfl, rfl, rfl⟩

-- The signal answers the request that has the slot, if there is one.
theorem signalFormation_spec (z : Stack σ) (s : State σ) (status : Int) :
    ∃ f more, signalFormation z s status = { s with formation := f, sent := s.sent ++ more } ∧
      f.initFlag = s.formation.initFlag ∧ f.cmd = none ∧
      (s.formation.cmd = none ∧ more = [] ∨ ∃ held data, s.formation.cmd = some held ∧
        more = [.formation { request := s.owner, frame := { cmd := held.reply, data } }]) := by
  unfold signalFormation formationResponse
  cases hcmd : s.formation.cmd with
  | none => exact ⟨_, _, rfl, rfl, hcmd, .inl ⟨rfl, rfl⟩⟩
  | some held => exact ⟨_, _, rfl, rfl, rfl, .inr ⟨held, _, rfl, rfl⟩⟩

theorem startResponse_none (hfree : s.startCmd = none) (status : UInt8) :
    startResponse s status = s := by
  rw [startResponse, hfree]

-- The stack runs, so the slot is given back before the handler returns.
theorem nwkStartWithoutFormation_spec (hinit : s.formation.initFlag = true)
    (hfree : s.startCmd = none) (cmd : Cmd) :
    nwkStartWithoutFormation s cmd =
      { s with
        starts := s.starts ++ [cmd]
        startOwner := s.starts.length
        sent := s.sent ++ [.start
          { request := s.starts.length
            frame := { cmd := cmd.reply, data := [NwkFormation.STATUS_CATEGORY_NWK, 0] } }] } := by
  simp only [nwkStartWithoutFormation, hfree, NwkFormation.startZigbeeStack, hinit, if_true,
    Bool.false_eq_true, if_false, startResponse]

theorem startReplies_append (starts : List Cmd) (cmd : Cmd) :
    startReplies (starts ++ [cmd]) = startReplies starts ++
      [{ request := starts.length,
         frame := { cmd := cmd.reply, data := [NwkFormation.STATUS_CATEGORY_NWK, 0] } }] := by
  simp [startReplies, List.mapIdx_append]

theorem filterMap_toFormation (answers : List Answer) :
    (answers.map Sent.formation).filterMap Sent.toFormation = answers := by
  rw [List.filterMap_map]
  exact List.filterMap_some

theorem filterMap_toStart (answers : List Answer) :
    (answers.map Sent.formation).filterMap Sent.toStart = [] := by
  rw [List.filterMap_map]
  exact List.filterMap_eq_nil_iff.mpr fun _ _ => rfl

theorem filterMap_append_nil {β : Type} {f : Sent → Option β} {more : List Sent}
    (hnone : more.filterMap f = []) (past : List Sent) :
    (past ++ more).filterMap f = past.filterMap f := by
  rw [List.filterMap_append, hnone, List.append_nil]

structure Inv (s : State σ) : Prop where
  initFlag : s.formation.initFlag = true
  slot : Slot s.requests s.formation.cmd s.owner s.formationAnswers
  owed : s.formation.cmd.isSome = true → s.formation.zboss.owed = true
  startCmd : s.startCmd = none
  starts : s.startAnswers = startReplies s.starts

theorem inv_init (z : Stack σ) (stack : σ) (restoreApplied : Bool) :
    Inv (init z stack restoreApplied) :=
  ⟨rfl, Slot.init, nofun, rfl, rfl⟩

theorem Inv.nwkFormation (h : Inv s) (cmd : Cmd) (buffer : List UInt8) :
    Inv (nwkFormation z s cmd buffer) := by
  have hstarts (frames : List Frame) : (s.sent ++ (answers s.requests.length frames).map
      Sent.formation).filterMap Sent.toStart = startReplies s.starts :=
    (filterMap_append_nil (filterMap_toStart _) _).trans h.starts
  have hanswers (frames : List Frame) : (s.sent ++ (answers s.requests.length frames).map
      Sent.formation).filterMap Sent.toFormation =
        s.formationAnswers ++ answers s.requests.length frames := by
    rw [List.filterMap_append, filterMap_toFormation]
    rfl
  unfold Commissioning.nwkFormation
  rcases process_cases (z := z) h.initFlag cmd buffer with ⟨hsome, data, hprocess⟩ |
      ⟨hnone, f, hprocess, hcmd, hflag, howed⟩ | ⟨hnone, f, data, hprocess, hcmd, hflag⟩
  · have hne : s.formation.cmd ≠ none := Option.isSome_iff_ne_none.mp hsome
    simp only [hprocess, if_neg hne]
    refine ⟨h.initFlag, ?_, h.owed, h.startCmd, hstarts _⟩
    rw [State.formationAnswers, hanswers]
    exact h.slot.refuse (.inr rfl) rfl
  · simp only [hprocess, if_pos hnone]
    refine ⟨hflag, ?_, fun _ => howed, h.startCmd, hstarts _⟩
    rw [State.formationAnswers, hanswers, hcmd, answers, List.map_nil, List.append_nil]
    exact (hnone ▸ h.slot).lease
  · simp only [hprocess, if_pos hnone]
    refine ⟨hflag, ?_, fun hsome => ?_, h.startCmd, hstarts _⟩
    · rw [State.formationAnswers, hanswers, hcmd]
      exact (hnone ▸ h.slot).refuse (.inl rfl) rfl
    · rw [hcmd] at hsome
      cases hsome

theorem Inv.nwkStartWithoutFormation (h : Inv s) (cmd : Cmd) :
    Inv (nwkStartWithoutFormation s cmd) := by
  rw [nwkStartWithoutFormation_spec h.initFlag h.startCmd]
  refine ⟨h.initFlag, ?_, h.owed, h.startCmd, ?_⟩
  · rw [State.formationAnswers, filterMap_append_nil rfl]
    exact h.slot
  · rw [State.startAnswers, List.filterMap_append, startReplies_append, ← h.starts]
    rfl

-- A step that answers at most the request in the slot.
theorem Inv.answered (h : Inv s) {t : State σ} (hflag : t.formation.initFlag = true)
    (hstart : t.startCmd = none) (hstarts : t.startAnswers = startReplies t.starts)
    (hrequests : t.requests = s.requests) (howner : t.owner = s.owner)
    (hcmd : t.formation.cmd = s.formation.cmd ∧ t.formationAnswers = s.formationAnswers ∧
        (t.formation.cmd.isSome = true → t.formation.zboss.owed = true) ∨
      ∃ held data, s.formation.cmd = some held ∧ t.formation.cmd = none ∧
        t.formationAnswers = s.formationAnswers ++
          [{ request := s.owner, frame := { cmd := held.reply, data } }]) : Inv t := by
  refine ⟨hflag, ?_, ?_, hstart, hstarts⟩
  · rw [hrequests, howner]
    rcases hcmd with ⟨hsame, hanswers, -⟩ | ⟨held, data, hheld, hnone, hanswers⟩
    · rw [hsame, hanswers]
      exact h.slot
    · rw [hnone, hanswers]
      exact (hheld ▸ h.slot).answer rfl
  · rcases hcmd with ⟨-, -, howed⟩ | ⟨-, -, -, hnone, -⟩
    · exact howed
    · rw [hnone]
      nofun

theorem Inv.signal (h : Inv s) (status : Int) (signal : Signal) :
    Inv (signalHandler z s status signal) := by
  cases signal with
  | skipStartup => exact ⟨h.initFlag, h.slot, h.owed, h.startCmd, h.starts⟩
  | deviceFirstStart =>
      rw [signalHandler, startResponse_none h.startCmd]
      exact h
  | deviceReboot =>
      rw [signalHandler, startResponse_none h.startCmd]
      exact h
  | other => exact h
  | formation =>
      rw [signalHandler]
      obtain ⟨f, more, hsignal, hflag, hnone, hmore⟩ := signalFormation_spec z s status
      rw [hsignal]
      rcases hmore with ⟨hfree, rfl⟩ | ⟨held, data, hheld, rfl⟩
      · refine h.answered (hflag.trans h.initFlag) h.startCmd ?_ rfl rfl
          (.inl ⟨hnone.trans hfree.symm, ?_, fun hsome => ?_⟩)
        · rw [State.startAnswers, List.append_nil]
          exact h.starts
        · rw [State.formationAnswers, List.append_nil, State.formationAnswers]
        · rw [hnone] at hsome
          cases hsome
      · refine h.answered (hflag.trans h.initFlag) h.startCmd ?_ rfl rfl
          (.inr ⟨held, data, hheld, hnone, ?_⟩)
        · exact (filterMap_append_nil rfl _).trans h.starts
        · rw [State.formationAnswers, List.filterMap_append]
          rfl

theorem Inv.continueZboss (h : Inv s) : Inv (continueZboss z s) := by
  obtain ⟨hflag, hcmd, -, -, hrequests, howner, hstart, hstarts, -⟩ := continueZboss_spec z s
  refine h.answered (hflag.trans h.initFlag) (hstart.trans h.startCmd) ?_ hrequests howner ?_
  · rw [hstarts, State.startAnswers]
    rcases hcmd with ⟨-, -, hsent⟩ | ⟨held, data, -, -, hsent⟩
    · rw [hsent, filterMap_append_nil rfl]
      exact h.starts
    · rw [hsent, filterMap_append_nil rfl, filterMap_append_nil rfl]
      exact h.starts
  · rcases hcmd with ⟨hsame, howed, hsent⟩ | ⟨held, data, hheld, hnone, hsent⟩
    · refine .inl ⟨hsame, ?_, howed⟩
      rw [State.formationAnswers, hsent, filterMap_append_nil rfl]
      rfl
    · refine .inr ⟨held, data, hheld, hnone, ?_⟩
      rw [State.formationAnswers, hsent, List.filterMap_append, filterMap_append_nil rfl]
      rfl

theorem inv_step (h : Inv s) (label : Label σ) : Inv (step z s label) := by
  cases label with
  | nwkFormation cmd buffer => exact h.nwkFormation cmd buffer
  | nwkStartWithoutFormation cmd => exact h.nwkStartWithoutFormation cmd
  | setChannelMask mask => exact ⟨h.initFlag, h.slot, h.owed, h.startCmd, h.starts⟩
  | signal signal status => exact h.signal status signal
  | continueZboss =>
      rw [step]
      split_ifs
      · exact h
      · have hscheduled : Inv { s with scheduled := s.scheduled - 1 } :=
          ⟨h.initFlag, h.slot, h.owed, h.startCmd, h.starts⟩
        have hnext := hscheduled.continueZboss (z := z)
        exact ⟨hnext.initFlag, hnext.slot, hnext.owed, hnext.startCmd, hnext.starts⟩
  | dataIndication data =>
      rw [step]
      split_ifs
      · cases ZbNcp.indication .apsdeDataInd data with
        | none =>
            refine ⟨h.initFlag, ?_, h.owed, h.startCmd, (filterMap_append_nil rfl _).trans h.starts⟩
            rw [State.formationAnswers, filterMap_append_nil rfl]
            exact h.slot
        | some payload =>
            refine ⟨h.initFlag, ?_, h.owed, h.startCmd, (filterMap_append_nil rfl _).trans h.starts⟩
            rw [State.formationAnswers, filterMap_append_nil rfl]
            exact h.slot
      · exact h
  | stack stack => exact ⟨h.initFlag, h.slot, h.owed, h.startCmd, h.starts⟩

-- Every request of NWK_FORMATION is answered once and with its own header. One
-- that has no answer yet has the slot, and the stack owes the end of a formation
-- that it has accepted. NWK_START_WITHOUT_FORMATION never waits for a signal.
theorem delayed_answered_once (z : Stack σ) (stack : σ) (restoreApplied : Bool)
    (labels : List (Label σ)) :
    let s := run z stack restoreApplied labels
    (s.formationAnswers.map Answer.request).Nodup ∧
      (∀ answer ∈ s.formationAnswers, ∃ cmd, s.requests[answer.request]? = some cmd ∧
        answer.frame.cmd = cmd.reply) ∧
      (∀ request < s.requests.length, request ∉ s.formationAnswers.map Answer.request →
        s.owner = request ∧ s.formation.cmd = s.requests[request]? ∧
          s.formation.zboss.owed = true) ∧
      s.startAnswers = startReplies s.starts := by
  have h : Inv (run z stack restoreApplied labels) :=
    Run.foldl_history (step z) (init z stack restoreApplied) (fun _ s => Inv s)
      (inv_init z stack restoreApplied) (fun _ _ label h => inv_step h label) labels
  refine ⟨h.slot.consistent.answered_once, h.slot.replies, fun request hlt hnot => ?_, h.starts⟩
  obtain hanswered | ⟨_, hholds⟩ := h.slot.accounted request hlt
  · exact absurd hanswered hnot
  · obtain ⟨cmd, hcmd, rfl⟩ := Option.map_eq_some_iff.mp hholds
    exact ⟨rfl, hcmd.trans (h.slot.owner cmd hcmd).symm, h.owed (by rw [hcmd]; rfl)⟩

theorem Ordered.append {sent more : List Sent} (h : Ordered sent)
    (hmore : (∀ payload, Sent.indication payload ∉ more) ∨ Sent.bootReady ∈ sent) :
    Ordered (sent ++ more) := by
  intro past payload hpre
  rcases le_or_gt (past.length + 1) sent.length with hshort | hlong
  · exact h past payload
      (List.prefix_of_prefix_length_le hpre (List.prefix_append _ _) (by simpa using hshort))
  · have hpast : sent <+: past := List.prefix_of_prefix_length_le (List.prefix_append _ _)
      ((List.prefix_append _ _).trans hpre) (by omega)
    rcases hmore with hnone | hready
    · obtain ⟨middle, rfl⟩ := hpast
      rw [List.append_assoc, List.prefix_append_right_inj] at hpre
      exact absurd (hpre.subset (by simp)) (hnone payload)
    · exact hpast.subset hready

-- How a boot goes. `skips` is how often the stack has signalled SKIP_STARTUP.
structure Boot (z : Stack σ) (restored : Bool) (skips : Nat) (s : State σ) : Prop where
  restoreApplied : s.restoreApplied = restored
  wakeUp : s.sent.head? = some .wakeUp
  ready : s.dataIndication = true → Sent.bootReady ∈ s.sent
  ordered : Ordered s.sent
  count : s.sent.count .bootReady + s.scheduled = skips
  continued : ∀ k ∈ s.continued, k.Masked z ∧ k.formations.length ≤ 1 ∧
    (restored = true → k.formations.length = 1)
  runs : s.continued.length = s.sent.count .bootReady

section Boot

variable {restored : Bool} {skips : Nat} {t : State σ} {more : List Sent}

theorem boot_init (z : Stack σ) (stack : σ) (restored : Bool) :
    Boot z restored 0 (init z stack restored) := by
  refine ⟨rfl, rfl, nofun, fun past payload hpre => ?_, rfl, nofun, rfl⟩
  have hmem : Sent.indication payload ∈ [Sent.wakeUp] := hpre.subset (by simp)
  simp at hmem

-- A step that sends something and is not continue_zboss.
theorem Boot.send (h : Boot z restored skips s) (hsent : t.sent = s.sent ++ more)
    (hready : Sent.bootReady ∉ more)
    (hmore : (∀ payload, Sent.indication payload ∉ more) ∨ Sent.bootReady ∈ s.sent)
    (hrestore : t.restoreApplied = s.restoreApplied) (hscheduled : t.scheduled = s.scheduled)
    (hdata : t.dataIndication = s.dataIndication) (hcontinued : t.continued = s.continued) :
    Boot z restored skips t where
  restoreApplied := hrestore.trans h.restoreApplied
  wakeUp := by
    rw [hsent, List.head?_append, h.wakeUp]
    rfl
  ready hset := by
    rw [hsent]
    exact List.mem_append_left _ (h.ready (hdata ▸ hset))
  ordered := by
    rw [hsent]
    exact h.ordered.append hmore
  count := by
    rw [hsent, List.count_append, List.count_eq_zero_of_not_mem hready, hscheduled]
    exact h.count
  continued := by
    rw [hcontinued]
    exact h.continued
  runs := by
    rw [hcontinued, hsent, List.count_append, List.count_eq_zero_of_not_mem hready]
    exact h.runs

theorem not_mem_formation (answers : List Answer) {sent : Sent}
    (h : sent.toFormation = none) : sent ∉ answers.map Sent.formation := by
  intro hmem
  obtain ⟨answer, -, rfl⟩ := List.mem_map.mp hmem
  cases h

theorem Boot.continueZboss (h : Boot z restored skips s) (hscheduled : s.scheduled ≠ 0) :
    Boot z restored skips (step z s .continueZboss) := by
  rw [step, if_neg hscheduled]
  have hspec := continueZboss_spec z { s with scheduled := s.scheduled - 1 }
  generalize Commissioning.continueZboss z { s with scheduled := s.scheduled - 1 } = t at hspec ⊢
  obtain ⟨-, hcmd, ⟨formations, hadded, hmasked, hlength⟩, hdata, -, -, -, -, hrestore,
    hleft⟩ := hspec
  obtain ⟨more, hsent, hmore⟩ : ∃ answers : List Answer,
      t.sent = s.sent ++ [.bootReady] ++ answers.map Sent.formation ∧ answers.length ≤ 1 := by
    rcases hcmd with ⟨-, -, hsent⟩ | ⟨held, data, -, -, hsent⟩
    · exact ⟨[], by rw [hsent, List.map_nil, List.append_nil], Nat.zero_le _⟩
    · exact ⟨[_], hsent, Nat.le_refl _⟩
  have hbetween : Continued.between s t =
      { channelsMask := s.formation.channelsMask, formations } := by
    rw [Continued.between, hadded, List.drop_left]
  have hquiet (payload : List UInt8) : Sent.indication payload ∉ [Sent.bootReady] := by simp
  have hready : t.sent.count .bootReady = s.sent.count .bootReady + 1 := by
    rw [hsent, List.count_append, List.count_append,
      List.count_eq_zero_of_not_mem (not_mem_formation more rfl), List.count_singleton_self]
  refine ⟨hrestore.trans h.restoreApplied, ?_, fun _ => ?_, ?_, ?_, fun other hother => ?_, ?_⟩
  · change t.sent.head? = _
    rw [hsent, List.append_assoc, List.head?_append, h.wakeUp]
    rfl
  · change Sent.bootReady ∈ t.sent
    rw [hsent]
    simp
  · change Ordered t.sent
    rw [hsent]
    exact (h.ordered.append (.inl hquiet)).append
      (.inl fun payload => not_mem_formation more rfl)
  · have hcount := h.count
    change t.sent.count .bootReady + t.scheduled = skips
    rw [hready, hleft]
    simp only
    omega
  · rcases List.mem_append.mp hother with hold | hnew
    · exact h.continued other hold
    · rw [List.mem_singleton.mp hnew, hbetween]
      refine ⟨hmasked, ?_, fun hset => ?_⟩
      · rw [hlength]
        split <;> omega
      · rw [hlength, if_pos (.inr (h.restoreApplied.trans hset))]
  · change (s.continued ++ [_]).length = t.sent.count .bootReady
    rw [hready, List.length_append, List.length_singleton, h.runs]

theorem Boot.signal (hinv : Inv s) (h : Boot z restored skips s) (status : Int)
    (signal : Signal) : Boot z restored
      (skips + if signal == .skipStartup then 1 else 0) (signalHandler z s status signal) := by
  cases signal with
  | skipStartup =>
      refine ⟨h.restoreApplied, h.wakeUp, h.ready, h.ordered, ?_, h.continued, h.runs⟩
      rw [if_pos (beq_self_eq_true _), ← h.count, Nat.add_assoc]
      rfl
  | deviceFirstStart =>
      rw [signalHandler, startResponse_none hinv.startCmd]
      exact h
  | deviceReboot =>
      rw [signalHandler, startResponse_none hinv.startCmd]
      exact h
  | other => exact h
  | formation =>
      obtain ⟨f, more, hsignal, -, -, hmore⟩ := signalFormation_spec z s status
      have hanswers : ∃ answers : List Answer, more = answers.map Sent.formation := by
        rcases hmore with ⟨-, rfl⟩ | ⟨held, data, -, rfl⟩
        · exact ⟨[], rfl⟩
        · exact ⟨[_], rfl⟩
      obtain ⟨answers, rfl⟩ := hanswers
      rw [signalHandler, hsignal]
      exact h.send rfl (not_mem_formation _ rfl) (.inl fun _ => not_mem_formation _ rfl) rfl rfl rfl
        rfl

theorem boot_step (hinv : Inv s) (h : Boot z restored skips s) (label : Label σ) :
    Boot z restored (skips + if label.isSkipStartup then 1 else 0) (step z s label) := by
  cases label with
  | nwkFormation cmd buffer =>
      exact h.send rfl (not_mem_formation _ rfl) (.inl fun _ => not_mem_formation _ rfl) rfl rfl rfl
        rfl
  | nwkStartWithoutFormation cmd =>
      rw [step, nwkStartWithoutFormation_spec hinv.initFlag hinv.startCmd]
      exact h.send rfl (by simp) (.inl (by simp)) rfl rfl rfl rfl
  | setChannelMask mask =>
      exact ⟨h.restoreApplied, h.wakeUp, h.ready, h.ordered, h.count, h.continued, h.runs⟩
  | signal signal status => exact h.signal hinv status signal
  | continueZboss =>
      by_cases hzero : s.scheduled = 0
      · rw [step, if_pos hzero]
        exact h
      · exact h.continueZboss hzero
  | dataIndication data =>
      change Boot z restored skips (if s.dataIndication = true then _ else s)
      by_cases hset : s.dataIndication = true
      · rw [if_pos hset]
        exact h.send rfl (by simp) (.inr (h.ready hset)) rfl rfl rfl rfl
      · rw [if_neg hset]
        exact h
  | stack stack =>
      exact ⟨h.restoreApplied, h.wakeUp, h.ready, h.ordered, h.count, h.continued, h.runs⟩

end Boot

-- The wake-up ACK comes first, the boot-ready frame once for each SKIP_STARTUP,
-- and no data of the network before it. A formation that follows has the channel
-- mask of the NCP in all three places, and after a restore it always follows.
theorem boot_ready_first (z : Stack σ) (stack : σ) (restored : Bool) (labels : List (Label σ)) :
    let s := run z stack restored labels
    s.sent.head? = some .wakeUp ∧ Ordered s.sent ∧
      s.sent.count .bootReady + s.scheduled = labels.countP Label.isSkipStartup ∧
      s.continued.length = s.sent.count .bootReady ∧
      (∀ k ∈ s.continued, k.Masked z ∧ k.formations.length ≤ 1 ∧
        (restored = true → k.formations.length = 1)) := by
  have h := Run.foldl_history (step z) (init z stack restored)
    (fun labels s => Inv s ∧ Boot z restored (labels.countP Label.isSkipStartup) s)
    ⟨inv_init z stack restored, boot_init z stack restored⟩
    (fun past s label h => by
      rw [List.countP_append, List.countP_singleton]
      exact ⟨inv_step h.1 label, boot_step h.1 h.2 label⟩) labels
  exact ⟨h.2.wakeUp, h.2.ordered, h.2.count, h.2.runs, h.2.continued⟩

end EspCoordinator.Commissioning
