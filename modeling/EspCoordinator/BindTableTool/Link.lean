import EspCoordinator.BindTableTool.Cleanup
import EspCoordinator.BindTableTool.Txn.Theorems
import EspCoordinator.Immediate.Service

-- The tool over the bytes of the port, and over whole requests
namespace EspCoordinator.BindTableTool

open Bytes
open Protocol (HEADER_SIZE Link NcpHeader RX_BUFFER_SIZE)
open RequestProcess.ListResponse (handleResponse mgmtBind mgmtBind_truncates)
open RequestProcess.Outgoing (Member)
open Requests (STATUS_CATEGORY_ZDO reportFailed)
open Restore (Layout)

variable {L : Layout}

section Responses

variable (net : Network L) (cmd : Cmd)

-- send_data takes it.
def Fits (payload : List UInt8) : Prop := payload.length ≤ 2039

theorem fits_failed (status : UInt8) :
    Fits (Device.payload (reportFailed STATUS_CATEGORY_ZDO cmd status)) :=
  Nat.le_of_ble_eq_true rfl

theorem fits_payload {resp : Response} (hframe : Fits resp.frame) : Fits (resp.payload cmd) := by
  unfold Response.payload
  split
  · exact hframe
  · exact fits_failed cmd _

theorem fits_listTable (seed : Nat) (tables : Tables) (req : RequestProcess.Outgoing.IndexParam) :
    Fits (listTable net cmd seed tables req).frame := by
  let resp := (net.node req.dstAddr).listing seed (tables req.dstAddr) req.startIndex
  by_contra hlong
  obtain ⟨hdr, haccepted⟩ := (mgmtBind_truncates resp).accepted cmd net.outdata
    Protocol.initInt.link
  have hrefused := ZbossSerial.sendDataInt_tooLong Protocol.initInt.link (Nat.lt_of_not_le hlong)
  have htoo : (Protocol.sendDataInt Protocol.initInt.link
      ((handleResponse cmd (mgmtBind resp)).frame net.outdata)).2 = .tooLong :=
    congrArg Prod.snd hrefused
  rw [haccepted] at htoo
  cases htoo

theorem fits_ieeeAddr (seed : Nat) (tables : Tables) (req : UInt16 × UInt16 × UInt8 × UInt8) :
    Fits (ieeeAddr net cmd seed tables req).frame := by
  obtain ⟨destNwk, nwk, requestType, startIndex⟩ := req
  simp only [Fits, ieeeAddr, Reply.frame, Memory.length_read]
  unfold RequestProcess.AddrResponse.handleResponse RequestProcess.AddrResponse.respond
  dsimp only
  split <;> exact Nat.le_of_ble_eq_true rfl

theorem fits_changeTable (act : Table → Entry → Table × UInt8) (seed : Nat) (tables : Tables)
    (req : RequestProcess.Outgoing.BindReqParam) :
    Fits (changeTable net cmd act seed tables req).frame := by
  unfold changeTable
  dsimp only
  split <;>
    (simp only [Fits, Reply.frame, Memory.length_read]; exact Nat.le_of_ble_eq_true rfl)

theorem fits_zdo {m : Member} {device : Tables → m.Req → Response}
    (hdevice : ∀ tables req, Fits (device tables req).frame) (course : Course) (tables : Tables)
    (payload : List UInt8) : Fits (zdo m cmd course tables device payload).2 := by
  unfold zdo
  dsimp only
  split
  · cases course with
    | refused refusal => exact fits_failed cmd _
    | carriedOut => exact fits_payload cmd (hdevice _ _)
    | timedOut => exact fits_failed cmd _
  · exact fits_failed cmd _

theorem fits_immediate (payload : List UInt8) : Fits (immediate net cmd payload) := by
  cases hprocess : Immediate.process net.world cmd payload with
  | none => simp [Fits, immediate, hprocess]
  | some handled =>
      have hframe : (immediate net cmd payload).length = handled.reply.outlen := by
        rw [immediate, hprocess, Option.map_some, Option.getD_some, Reply.frame,
          Memory.length_read]
      rw [Immediate.process, Option.bind_eq_some_iff] at hprocess
      obtain ⟨id, -, hhandled⟩ := hprocess
      obtain ⟨handler, himmediate, rfl⟩ := Option.map_eq_some_iff.mp hhandled
      have hlen := Immediate.outlen_le himmediate net.world payload
      have hadded : ((handler net.world payload).reply.respond cmd).outlen =
          5 + (handler net.world payload).reply.outlen := rfl
      dsimp only at hframe
      rw [Fits]
      omega

theorem fits_process (course : Course) (seed : Nat) (tables : Tables) (req : Request) :
    Fits (process net course seed tables req).2 := by
  unfold process
  dsimp only
  split
  · exact fits_zdo _ (fun _ _ => fits_changeTable _ _ _ _ _ _) _ _ _
  · exact fits_zdo _ (fun _ _ => fits_changeTable _ _ _ _ _ _) _ _ _
  · exact fits_zdo _ (fun _ _ => fits_listTable _ _ _ _ _) _ _ _
  · exact fits_zdo _ (fun _ _ => fits_ieeeAddr _ _ _ _ _) _ _ _
  · exact fits_immediate _ _ _

-- All that has been sent so far
def AllFit (s : State) : Prop := ∀ payload ∈ s.sent, Fits payload

variable {s : State}

theorem AllFit.carryOut (h : AllFit s) (course : Course) (req : Request) :
    AllFit (s.carryOut net course req) := by
  intro payload hpayload
  rcases List.mem_append.mp hpayload with hold | hnew
  · exact h payload hold
  · rw [List.mem_singleton.mp hnew]
    exact fits_process net _ _ _ _

theorem AllFit.catchUp (h : AllFit s) (overdue : List (Nat × Course)) :
    AllFit (s.catchUp net overdue) := by
  unfold State.catchUp
  induction overdue generalizing s with
  | nil => exact h
  | cons first rest ih =>
      obtain ⟨number, course⟩ := first
      rw [List.foldl_cons]
      refine ih ?_
      dsimp only
      split
      · exact h.carryOut net course _
      · exact h

theorem AllFit.late (h : AllFit s) (stale : List Nat) : ∀ payload ∈ s.late stale, Fits payload := by
  intro payload hpayload
  obtain ⟨number, -, hnumber⟩ := List.mem_filterMap.mp hpayload
  exact h payload (List.mem_of_getElem? hnumber)

theorem AllFit.respond (h : AllFit s) (fate : Fate) (req : Request) :
    AllFit (respond net fate s req).1 ∧ ∀ payload ∈ (respond net fate s req).2, Fits payload := by
  have hasked : AllFit { s with asked := s.asked ++ [req] } := h
  unfold BindTableTool.respond
  dsimp only
  split
  · have hafter := hasked.carryOut net fate.course req
    exact ⟨hafter, fun payload hpayload => hafter payload (List.mem_of_mem_drop hpayload)⟩
  · exact ⟨hasked, nofun⟩

end Responses

-- The requests that the link carries. The command of a response is all that
-- txn looks for, so it must not be one of the indications.
structure Carried (req : Request) : Prop where
  fits : 14 + req.payload.length ≤ RX_BUFFER_SIZE
  known : ∃ id, CommandId.find req.cmdId = some id
  asked : ∀ cmd ∈ ZbNcp.indications, cmd.value ≠ req.cmdId

section Exchange

variable {net : Network L} {req : Request}

theorem mem_payloads {inds : List Ind} {data : List UInt8} (h : data ∈ payloads inds) :
    ∃ ind : Ind, ZbNcp.indication ind.cmd ind.data = some data := by
  obtain ⟨ind, -, hind⟩ := List.mem_filterMap.mp h
  exact ⟨ind, hind⟩

theorem fits_payloads {inds : List Ind} {data : List UInt8} (h : data ∈ payloads inds) :
    Fits data := by
  obtain ⟨ind, hind⟩ := mem_payloads h
  exact (ZbNcp.length_indication hind).trans (by decide)

-- No indication is taken for a response.
theorem readAnswer_payloads (hreq : Carried req) (inds : List Ind) :
    (payloads inds).findSome? (readAnswer req.cmdId) = none := by
  rw [List.findSome?_eq_none_iff]
  intro data hdata
  obtain ⟨ind, hind⟩ := mem_payloads hdata
  rw [ZbNcp.indication] at hind
  split at hind
  · cases hind
  · cases hind
    have hword : parseWord ([0, FrameType.indication.toByte] ++ toLE 2 ind.cmd.value.toNat ++
        ind.data) 2 = some ind.cmd.value.toNat :=
      RequestProcess.ListResponse.parseWord_eq rfl
    have hother : ind.cmd.value.toNat ≠ req.cmdId.toNat :=
      fun heq => hreq.asked ind.cmd ind.known (UInt16.toNat_inj.mp heq)
    rw [readAnswer, if_pos]
    right
    rw [hword]
    exact fun heq => hother (Option.some.inj heq)

theorem shows_payloads (hreq : Carried req) (link : Link) (inds : List Ind) :
    Shows req.cmdId (Session.sendAll link (payloads inds)).2 none := by
  rw [← readAnswer_payloads hreq inds]
  exact shows_sendAll link fun _ h => fits_payloads h

section Late

variable (time : Timing)

theorem shows_stragglers (hreq : Carried req) (stragglers : List Straggler) :
    Shows req.cmdId (stragglers.flatMap Straggler.bytes) none := by
  induction stragglers with
  | nil => exact shows_nil
  | cons first stragglers ih =>
      rw [List.flatMap_cons]
      cases first with
      | ack rsp hpacket hack => exact (shows_ack hpacket hack).append ih
      | indication link ind => exact (shows_payloads hreq link [ind]).append ih

-- Of the late frames it is the responses that count.
theorem shows_late (hreq : Carried req) {late : List (List UInt8)}
    (hlate : ∀ payload ∈ late, Fits payload) (number : Nat) :
    Shows req.cmdId (time.late number late) (late.findSome? (readAnswer req.cmdId)) := by
  induction late generalizing number with
  | nil => exact shows_stragglers hreq _
  | cons payload late ih =>
      have hfirst : Shows req.cmdId _ (readAnswer req.cmdId payload) :=
        shows_sendData (time.sentFrom number) (hlate payload List.mem_cons_self)
      have hrest := ih (fun other hother => hlate other (List.mem_cons_of_mem payload hother))
        (number + 1)
      rw [Timing.late]
      exact ((shows_stragglers hreq _).append hfirst).cons hrest

end Late

theorem respond_own (s : State) (fate : Fate) :
    (respond net fate s req).2 = [] ∨
      ∃ payload, (respond net fate s req).2 = [payload] ∧ Fits payload := by
  unfold respond
  dsimp only
  split
  · refine .inr ⟨_, List.drop_left, fits_process net _ _ _ _⟩
  · exact .inl rfl

-- The response is the last frame, if there is one.
theorem framed_respond (link : Link) (s : State) (fate : Fate) :
    (Session.sendAll link (respond net fate s req).2).2 = [] ∨
      Framed (Session.sendAll link (respond net fate s req).2).2 := by
  rcases respond_own s fate with hnone | ⟨payload, hown, hfits⟩
  · rw [hnone]
    exact .inl rfl
  · have hone : (Session.sendAll link [payload]).2 = (Session.sendData link payload).2 :=
      List.append_nil _
    rw [hown, hone]
    rcases sendData_sent link hfits with ⟨-, hnone⟩ | ⟨hf, -⟩
    · exact .inl hnone
    · exact .inr (framed_dataFrame hf)

theorem seen_ending (time : Timing) {front response more : List UInt8} {answer : Option Answer}
    (hfront : Shows req.cmdId front none) (hframed : response = [] ∨ Framed response)
    (hresponse : Shows req.cmdId response answer) (hmore : Shows req.cmdId more none)
    (answered : Bool) :
    seen req.cmdId (time.ending answered (front ++ response) more) =
      (if answered then answer else none).map .ok := by
  rw [Timing.ending]
  cases answered with
  | true =>
      simp only [if_true]
      rw [((hfront.append hresponse).append hmore).seen_eq, Option.none_or, Option.or_none]
  | false =>
      simp only [Bool.false_eq_true, if_false]
      cases time.begun with
      | some begun => exact seen_incomplete begun.framed begun.short
      | none =>
          -- what is seen early is seen in all that arrives, and there is nothing in it
          refine seen_of_append ((front ++ response).dropLast.drop time.arrived) ?_
          rw [List.take_append_drop]
          exact seen_dropLast hfront hframed

theorem opens_ending (time : Timing) {own more : List UInt8} (hown : Opens own) (hmore : Opens more)
    (answered : Bool) : Opens (time.ending answered own more) := by
  rw [Timing.ending]
  split
  · exact hown.append hmore
  · split
    · next begun _ => exact begun.framed.opens.take _
    · rw [List.dropLast_eq_take]
      exact (hown.take _).take _

-- The stream is the torn frame, whole frames, and what comes in of the exchange
-- itself.
theorem exists_stream (hreq : Carried req) (time : Timing) (fate : Fate)
    {late : List (List UInt8)} (hlate : ∀ payload ∈ late, Fits payload) {rsp : NcpHeader}
    (hpacket : rsp.packetLen = 5) (hack : rsp.isAck = true) {inds : List UInt8}
    (hinds : Shows req.cmdId inds none) (response more : List UInt8) :
    ∃ whole front, time.stream fate late (rsp.withCrc.bytes ++ (inds ++ response)) more =
        time.torn ++ (whole ++ time.ending fate.answered (front ++ response) more) ∧
      Shows req.cmdId whole (late.findSome? (readAnswer req.cmdId)) ∧
        Shows req.cmdId front none := by
  let ack := rsp.withCrc.bytes
  have hshown : Shows req.cmdId ack none := shows_ack hpacket hack
  by_cases hearly : time.early < late.length
  · have hfront : ∀ payload ∈ late.take time.early, Fits payload := fun payload hpayload =>
      hlate payload (List.mem_of_mem_take hpayload)
    have hback : ∀ payload ∈ late.drop time.early, Fits payload := fun payload hpayload =>
      hlate payload (List.mem_of_mem_drop hpayload)
    have htake : (ack ++ (inds ++ response)).take HEADER_SIZE = ack :=
      List.take_left' (NcpHeader.length_bytes _)
    have hdrop : (ack ++ (inds ++ response)).drop HEADER_SIZE = inds ++ response :=
      List.drop_left' (NcpHeader.length_bytes _)
    refine ⟨time.late 0 (late.take time.early) ++ ack ++
      time.late (time.early + 1) (late.drop time.early), inds, ?_, ?_, hinds⟩
    · simp only [Timing.stream, if_pos hearly, htake, hdrop, List.append_assoc, ack]
    · have hwhole := ((shows_late time hreq hfront 0).append hshown).append
        (shows_late time hreq hback (time.early + 1))
      rwa [Option.or_none, ← List.findSome?_append, List.take_append_drop] at hwhole
  · have hall : late.take time.early = late := List.take_of_length_le (Nat.le_of_not_lt hearly)
    have hnone : late.drop time.early = [] := List.drop_of_length_le (Nat.le_of_not_lt hearly)
    refine ⟨time.late 0 late ++ time.late (time.early + 1) [], ack ++ inds, ?_, ?_,
      hshown.append hinds⟩
    · simp only [Timing.stream, if_neg hearly, hall, hnone, List.take_zero, List.drop_zero,
        List.append_nil, List.append_assoc, ack]
    · have hwhole := (shows_late time hreq hlate 0).append
        (shows_late time hreq (List.forall_mem_nil _) (time.early + 1))
      rwa [List.findSome?_nil, Option.or_none] at hwhole

-- What the tool gets to see of one exchange
theorem seen_stream (hreq : Carried req) (time : Timing) (fate : Fate)
    (htorn : ¬[0xDE, 0xAD] <:+: time.torn) {late : List (List UInt8)}
    (hlate : ∀ payload ∈ late, Fits payload) {rsp : NcpHeader} (hpacket : rsp.packetLen = 5)
    (hack : rsp.isAck = true) {inds response more : List UInt8} {answer : Option Answer}
    (hinds : Shows req.cmdId inds none) (hframed : response = [] ∨ Framed response)
    (hresponse : Shows req.cmdId response answer) (hmore : Shows req.cmdId more none) :
    seen req.cmdId (time.stream fate late (rsp.withCrc.bytes ++ (inds ++ response)) more) =
      ((late.findSome? (readAnswer req.cmdId)).or
        (if fate.answered then answer else none)).map .ok := by
  obtain ⟨whole, front, hstream, hwhole, hfront⟩ :=
    exists_stream hreq time fate hlate hpacket hack hinds response more
  have hopens := hwhole.opens.append
    (opens_ending time (hfront.append hresponse).opens hmore.opens fate.answered)
  rw [hstream, seen_torn htorn hopens, hwhole.seen_append,
    seen_ending time hfront hframed hresponse hmore]
  cases late.findSome? (readAnswer req.cmdId) <;> rfl

-- The device between two exchanges
structure Idle (d : Session.Device State) : Prop where
  rxBuffer : d.protocol.rxBuffer = []
  fit : AllFit d.app

-- One exchange is one call of `serve`.
theorem exchange_serve (net : Network L) {timing : Nat → Timing}
    (htorn : ∀ time, ¬[0xDE, 0xAD] <:+: (timing time).torn) {d : Session.Device State}
    (hidle : Idle d) {req : Request} (hreq : Carried req) :
    ∃ d', exchange net timing d req = (d', .ok (serve net d.app req).2) ∧ Idle d' ∧
      d'.app = (serve net d.app req).1 := by
  obtain ⟨id, hid⟩ := hreq.known
  let fate := net.fate d.app.asked.length
  let time := timing d.app.asked.length
  let ready := catchUp net fate d
  obtain ⟨link, rsp, hreceive, hpacket, hack⟩ := receive_request
    (handlers net fate time.before) (show ready.protocol.rxBuffer = [] from hidle.rxBuffer) hid
    hreq.fits time.toDevice
  have hfit : AllFit ready.app := hidle.fit.catchUp net fate.overdue
  let own := (respond net fate ready.app req).2
  let inds := payloads time.before
  let middle := (Session.sendAll link inds).1
  let next := (Session.sendAll link (inds ++ own)).1
  let more := (Session.sendAll next (payloads time.after)).2
  have hbytes : (Session.sendAll link (inds ++ own)).2 =
      (Session.sendAll link inds).2 ++ (Session.sendAll middle own).2 :=
    sendAll_append link inds own
  let late := ready.app.late fate.stale
  let bytes := rsp.withCrc.bytes ++ (Session.sendAll link (inds ++ own)).2
  have hexchange : exchange net timing d req =
      ({ protocol := { rxBuffer := [], link := (Session.sendAll next (payloads time.after)).1 }
         app := (respond net fate ready.app req).1 },
        awaitAnswer req.cmdId [] (chunks time.toTool (time.stream fate late bytes more))) := by
    rw [exchange, hreceive]
    rfl
  have hown : ∀ payload ∈ own, Fits payload := (hfit.respond net fate req).2
  have hseen : seen req.cmdId (time.stream fate late bytes more) =
      ((late ++ if fate.answered then own else []).findSome? (readAnswer req.cmdId)).map .ok := by
    have hstream := seen_stream hreq time fate (htorn _) (hfit.late fate.stale) hpacket hack
      (shows_payloads hreq link time.before) (framed_respond middle ready.app fate)
      (shows_sendAll middle hown) (shows_payloads hreq next time.after)
    rw [← hbytes] at hstream
    rw [show seen req.cmdId (time.stream fate late bytes more) = _ from hstream,
      List.findSome?_append]
    cases fate.answered <;> rfl
  refine ⟨_, hexchange.trans (congrArg (Prod.mk _) ?_), ⟨rfl, (hfit.respond net fate req).1⟩, rfl⟩
  rw [awaitAnswer_eq req.cmdId Scanner.cut_nil_items, List.nil_append, flatten_chunks, hseen]
  change outcome (Option.map _ (serve net d.app req).2) = _
  cases (serve net d.app req).2 <;> rfl

end Exchange

section Requests

-- The commands of the tool
def asked : List UInt16 := [0x0001, 0x000B, 0x0202, 0x0208, 0x0209, 0x020F]

theorem carried_asked {cmdId : UInt16} (hcmd : cmdId ∈ asked) {payload : List UInt8}
    (hlen : payload.length ≤ 1010) (tsn : UInt8) : Carried { cmdId, payload, tsn } := by
  have hknown : asked.all (fun cmdId => (CommandId.find cmdId).isSome) = true := by decide
  have hother : asked.all (fun cmdId =>
      ZbNcp.indications.all fun cmd => cmd.value != cmdId) = true := by decide
  rw [List.all_eq_true] at hknown hother
  have hind := List.all_eq_true.mp (hother cmdId hcmd)
  refine ⟨?_, Option.isSome_iff_exists.mp (hknown cmdId hcmd), fun cmd hcmd => ?_⟩
  · rw [RX_BUFFER_SIZE]
    exact Nat.add_le_add_left hlen 14
  · exact bne_iff_ne.mp (hind cmd hcmd)

theorem carried_change {cmdId : UInt16} (hcmd : cmdId ∈ [0x0208, 0x0209]) {srcIeee dst : List UInt8}
    (hsrc : srcIeee.length ≤ 995) (hdst : dst.length ≤ 8) (nwk cluster : UInt16)
    (srcEp dstEp tsn : UInt8) :
    Carried { cmdId, payload := bindPayload nwk srcIeee srcEp cluster dst dstEp, tsn } := by
  have hasked : cmdId ∈ asked := by
    simp only [List.mem_cons, List.not_mem_nil, or_false] at hcmd
    rcases hcmd with rfl | rfl <;> decide
  refine carried_asked hasked ?_ tsn
  simp only [bindPayload, List.length_append, length_toLE, List.length_singleton]
  omega

-- What the link carries, and whatever comes back
def linkTerms : Terms where
  allowed := Carried
  legit _ _ := True
  fails _ := True

theorem permits_linkTerms (fuel : Nat) {args : Args}
    (hsrc : (args.srcIeee.getD []).length ≤ 995) :
    Permits linkTerms fuel args (fun ieeeTrue => ieeeTrue.length ≤ 8)
      fun srcIeee => srcIeee.length ≤ 995 where
  version := carried_asked (by decide) (by decide)
  localIeee := carried_asked (by decide) (by decide)
  ieeeAddr := carried_asked (by decide) (by simp)
  list start := carried_asked (by decide) (by simp)
  identified {version r _ _} _ _ _ _ := by
    rw [trueIeee]
    split <;> simp
  given srcIeee hgiven := by
    rw [hgiven] at hsrc
    exact hsrc
  resolved _ {r _} _ _ _ := (List.length_take_le 8 r.body).trans (by decide)
  phantom _ ieeeTrue hmine rec hformed _ dstEp :=
    carried_change (by decide) (hformed.src.le.trans (by decide))
      (List.length_reverse.trans_le hmine) _ _ _ _
  probe _ ieeeTrue hmine srcIeee hsource dst hdst cmdId hcmd := by
    refine carried_change hcmd hsource ?_ _ _ _ _
    simp only [List.mem_cons, List.not_mem_nil, or_false] at hdst
    rcases hdst with rfl | rfl | rfl
    · exact hmine
    · exact Nat.le_refl 8
    · exact List.length_reverse.trans_le hmine
  purge _ _ ieeeTrue hmine srcIeee hsource combo _ :=
    carried_change (by decide) hsource (List.length_reverse.trans_le hmine) _ _ _ _
  verify _ _ srcIeee hsource combo _ cmdId hcmd :=
    carried_change hcmd hsource (show NEUTRAL_IEEE_LE.length ≤ 8 from Nat.le_refl 8) _ _ _ _
  fails _ _ _ := trivial
  ends := .inl trivial

end Requests

-- A run of the tool over the bytes of the port, in whatever chunks they come,
-- with indications and frames of earlier txns between those that are waited for,
-- and with requests that all carry the same sequence number, is a run over whole
-- requests. No txn may start inside of what looks like the start of a frame.
theorem main_over_link (net : Network L) (timing : Nat → Timing)
    (htorn : ∀ time, ¬[0xDE, 0xAD] <:+: (timing time).torn) (fuel : Nat) (args : Args)
    (hsrc : (args.srcIeee.getD []).length ≤ 995) (link : Link) (tables : Tables) :
    ∃ d : Session.Device State,
      (main fuel args).execute (exchange net timing)
          { protocol := { rxBuffer := [], link }, app := State.start tables } =
        (d, ((main fuel args).run (serve net) (State.start tables)).2) ∧
      d.protocol.rxBuffer = [] ∧
      d.app = ((main fuel args).run (serve net) (State.start tables)).1 := by
  let start : Session.Device State :=
    { protocol := { rxBuffer := [], link }, app := State.start tables }
  have hstep (d : Session.Device State) (req : Request) (hidle : Idle d)
      (hreq : linkTerms.allowed req) := exchange_serve net htorn hidle hreq
  have hstart : Idle start := ⟨rfl, nofun⟩
  obtain ⟨d, hexecute, hidle, happ⟩ := (permits_linkTerms fuel hsrc).asks_main.refines hstep
    (fun _ _ _ _ => trivial) hstart
  exact ⟨d, hexecute, hidle.rxBuffer, happ⟩

-- The first look at the table is answered in the second, and too late.
def sluggish : Network Restore.smallLayout :=
  { calm with
    fate := fun time =>
      { overdue := if time = 3 then [(2, .timedOut)] else []
        arrives := time != 2
        course := .carriedOut
        stale := if time = 3 then [2] else []
        answered := true } }

-- A slow link, an announcement in front of every response and one behind it
def slow : Timing where
  toDevice := [1, 4, 2]
  toTool := [5, 9]
  torn := [0xAD, 0x07]
  stragglers := fun _ => [.indication Protocol.initInt.link
    { cmd := .nwkLeaveInd, known := by decide, data := [] }]
  sentFrom := fun _ => Protocol.initInt.link
  early := 0
  before := [{ cmd := .zdoDevAnnceInd, known := by decide, data := [1, 2, 3] }]
  after := [{ cmd := .nwkLeaveInd, known := by decide, data := [] }]
  begun := none
  arrived := 20

theorem main_over_link_default :
    (∀ time : Nat, ¬[0xDE, 0xAD] <:+: ((fun _ => slow) time).torn) ∧
      ((Args.default 0x4711).srcIeee.getD []).length ≤ 995 ∧
        ∃ d : Session.Device State,
          (main 300 (Args.default 0x4711)).execute (exchange sluggish fun _ => slow)
              { protocol := Protocol.initInt, app := State.start crowded } =
            (d, ((main 300 (Args.default 0x4711)).run (serve sluggish)
              (State.start crowded)).2) ∧
          d.protocol.rxBuffer = [] ∧
          d.app = ((main 300 (Args.default 0x4711)).run (serve sluggish)
            (State.start crowded)).1 :=
  ⟨fun _ => show ¬[0xDE, 0xAD] <:+: slow.torn by decide, by decide,
    main_over_link sluggish (fun _ => slow) (fun _ => show ¬[0xDE, 0xAD] <:+: slow.torn by decide)
    300 (Args.default 0x4711) (by decide) Protocol.initInt.link crowded⟩

end EspCoordinator.BindTableTool
