import EspCoordinator.Lib.Channel
import EspCoordinator.Lib.Run
import EspCoordinator.Session

namespace EspCoordinator.Session

open Bytes
open Scanner (Among Carries Encodes)
open ZbNcp (Service)

variable {σ : Type*} {S : Service σ} {safeMode : Bool}

theorem replay_append (app : σ) (first second : List Call) :
    replay S safeMode app (first ++ second) =
      ((replay S safeMode (replay S safeMode app first).1 second).1,
        (replay S safeMode app first).2 ++
          (replay S safeMode (replay S safeMode app first).1 second).2) := by
  induction first generalizing app with
  | nil => rfl
  | cons call rest ih => simp only [List.cons_append, replay, ih]

theorem replay_calls (S : Service σ) (safeMode : Bool) (app : σ) (calls : List Call) :
    (replay S safeMode app calls).2.map Prod.fst = calls := by
  induction calls generalizing app with
  | nil => rfl
  | cons call rest ih => simp only [replay, List.map_cons, ih]

-- The first answers are those to the first calls.
theorem replay_split {app : σ} {calls : List Call} {front back : List Answer}
    (h : (replay S safeMode app calls).2 = front ++ back) :
    ∃ first second, calls = first ++ second ∧ (replay S safeMode app first).2 = front ∧
      (replay S safeMode (replay S safeMode app first).1 second).2 = back := by
  have hcalls := replay_calls S safeMode app calls
  rw [h, List.map_append] at hcalls
  refine ⟨front.map Prod.fst, back.map Prod.fst, hcalls.symm, ?_⟩
  rw [← hcalls, replay_append] at h
  refine List.append_inj h ?_
  rw [← List.length_map Prod.fst, replay_calls, List.length_map]

-- The header of a request.
def Call.cmd (call : Call) : Cmd :=
  { version := 0, type := .request, commandId := call.cmdId, tsn := call.tsn }

-- Items in which the device finds nothing to do.
def Quiet (it : Protocol.Item) : Prop := ∀ link, Protocol.handle link it = (link, [])

structure Requests (S : Service σ) (safeMode : Bool) (call : Call) (it : Protocol.Item) : Prop where
  served : S.served safeMode call.cmdId = true
  packet : ∃ hdr, it = .packet hdr (call.cmd.bytes ++ call.payload) ∧ hdr.isAck = false ∧
    hdr.isNack = false ∧ hdr.packetType = Protocol.ZBOSS_NCP_API_HL

def indicated (cmdId : UInt16) : Bool := (ZbNcp.indications.map CommandId.value).contains cmdId

def acknowledge (acks : List (Fin 4)) : List ZbossSerial.Action :=
  acks.map fun seq => .write (ZbossSerial.sendAck seq)

-- Items that the page acknowledges at most, unless it waits for an indication.
def Ignored (it : ZbossSerial.Item) : Prop :=
  ∀ page : ZbossSerial.State,
    (∀ tsn cmdId, page.pendingRequests tsn = some cmdId → indicated cmdId = false) →
    ∃ recvSeq acks, ZbossSerial.handle page it = ({ page with recvSeq }, acknowledge acks)

def clear (page : ZbossSerial.State) (tsn : UInt8) : UInt8 → Option UInt16 :=
  fun other => if other = tsn then none else page.pendingRequests other

def Answers (answer : Answer) (it : ZbossSerial.Item) : Prop :=
  ∀ page : ZbossSerial.State, page.pendingRequests answer.1.tsn = some answer.1.cmdId →
    ∃ seq, ZbossSerial.handle page it =
      ({ page with recvSeq := some seq, pendingRequests := clear page answer.1.tsn },
        [.write (ZbossSerial.sendAck seq), .resolve answer.1.tsn answer.2])

-- What is written on one side is read on the other.

theorem encodes_toDevice {bytes : List UInt8} {it : Protocol.Item}
    (h : Protocol.scan bytes = .item it []) : Protocol.scanner.Encodes bytes [it] :=
  Protocol.incremental_scanner.encodes_item h

theorem encodes_toPage {bytes : List UInt8} {it : ZbossSerial.Item}
    (h : ZbossSerial.scan bytes = .item it []) : ZbossSerial.scanner.Encodes bytes [it] :=
  ZbossSerial.incremental_scanner.encodes_item h

theorem scan_sendAck (seq : Fin 4) :
    Protocol.scan (ZbossSerial.sendAck seq) =
        .item (.empty (Protocol.NcpHeader.read (ZbossSerial.sendAck seq))) [] ∧
      (Protocol.NcpHeader.read (ZbossSerial.sendAck seq)).isAck = true := by
  revert seq
  decide +kernel

theorem quiet_ack {hdr : Protocol.NcpHeader} (h : hdr.isAck = true) : Quiet (.empty hdr) := by
  intro link
  rw [Protocol.handle, Protocol.onRxPacket, if_pos h]

theorem encodes_acks (S : Service σ) (safeMode : Bool) (acks : List (Fin 4)) :
    ∃ items, Protocol.scanner.Encodes (acks.flatMap ZbossSerial.sendAck) items ∧
      Among Quiet (Requests S safeMode) [] items := by
  induction acks with
  | nil => exact ⟨[], Scanner.encodes_nil, .nil⟩
  | cons seq acks ih =>
      obtain ⟨items, hitems, hquiet⟩ := ih
      obtain ⟨hscan, hack⟩ := scan_sendAck seq
      exact ⟨_, (encodes_toDevice hscan).append hitems,
        .idle (quiet_ack hack) hquiet⟩

theorem getUint16_header (first second : UInt8) (value : UInt16) (rest : List UInt8) :
    UInt16.ofNat (ZbossSerial.getUint16 ([first, second] ++ toLE 2 value.toNat ++ rest) 2) =
      value := by
  have hbytes : (([first, second] ++ toLE 2 value.toNat ++ rest).drop 2).take 2 =
      toLE 2 value.toNat := by
    simp [toLE]
  rw [ZbossSerial.getUint16, hbytes, ofLE_toLE _ _ value.toNat_lt, UInt16.ofNat_toNat]

theorem deliver_reply {page : ZbossSerial.State} {cmd : Cmd}
    (h : page.pendingRequests cmd.tsn = some cmd.commandId) (data : List UInt8) :
    ZbossSerial.deliver page (cmd.bytes ++ data) =
      ({ page with pendingRequests := clear page cmd.tsn }, [.resolve cmd.tsn data]) := by
  have hid : UInt16.ofNat (ZbossSerial.getUint16 (cmd.bytes ++ data) 2) = cmd.commandId := by
    rw [Cmd.bytes, List.append_assoc]
    exact getUint16_header cmd.version cmd.type.toByte cmd.commandId ([cmd.tsn] ++ data)
  have htsn : (cmd.bytes ++ data)[4]? = some cmd.tsn := rfl
  have hdrop : (cmd.bytes ++ data).drop 5 = data := rfl
  simp only [ZbossSerial.deliver, htsn, hdrop]
  rw [if_pos (h.trans (congrArg some hid.symm))]
  rfl

theorem deliver_other {page : ZbossSerial.State} {payload : List UInt8}
    (h : ∀ tsn, page.pendingRequests tsn ≠
      some (UInt16.ofNat (ZbossSerial.getUint16 payload 2))) :
    ZbossSerial.deliver page payload = (page, []) := by
  rw [ZbossSerial.deliver]
  split
  · rfl
  · rw [if_neg (h _)]

theorem ignored_ack {rsp : Protocol.NcpHeader} {seq ackSeq : Fin 4}
    (hflags : ZbossSerial.flags (rsp.bytes.getD 5 0) =
      { isACK := true, isNACK := false, sequence := seq, ackSeq := ackSeq }) :
    Ignored (.frame 5 rsp.bytes) := by
  intro page _
  refine ⟨some seq, [], ?_⟩
  rw [ZbossSerial.handle, ZbossSerial.onFrame, hflags]
  simp [acknowledge]

-- A frame of send_data, as the page cuts it out and handles it.
theorem sendData_frame (link : Protocol.Link) {data : List UInt8} (hne : data ≠ [])
    (hlen : data.length ≤ 2039) :
    ∃ it seq, ZbossSerial.scanner.Encodes (sendData link data).2 [it] ∧
      ∀ page, ZbossSerial.handle page it =
        ((ZbossSerial.deliver { page with recvSeq := some seq } data).1,
          .write (ZbossSerial.sendAck seq) ::
            (ZbossSerial.deliver { page with recvSeq := some seq } data).2) := by
  obtain ⟨frame, hsent, hf, hpayload, -⟩ := ZbossSerial.isDataFrame_sendDataInt link hne hlen
  have hbytes : (sendData link data).2 = frame := by
    simp only [sendData, hsent]
    rfl
  rw [hbytes]
  refine ⟨_, Protocol.frameSeq frame, encodes_toPage (ZbossSerial.scan_dataFrame hf),
    fun page => ?_⟩
  have hframe := ZbossSerial.onFrame_dataFrame hf page
  rw [hpayload] at hframe
  exact hframe

theorem sendData_reply (link : Protocol.Link) (call : Call) {data : List UInt8}
    (hlen : data.length ≤ 2034) :
    ∃ it, ZbossSerial.scanner.Encodes (sendData link (call.cmd.reply.bytes ++ data)).2 [it] ∧
      Answers (call, data) it := by
  have hsize : (call.cmd.reply.bytes ++ data).length ≤ 2039 := by
    rw [List.length_append, Cmd.length_bytes, CMD_SIZE]
    omega
  obtain ⟨it, seq, hencodes, hhandle⟩ := sendData_frame link (by simp [Cmd.bytes]) hsize
  refine ⟨it, hencodes, fun page hpending => ⟨seq, ?_⟩⟩
  have hnext : { page with recvSeq := some seq }.pendingRequests call.cmd.reply.tsn =
      some call.cmd.reply.commandId := hpending
  rw [hhandle, deliver_reply hnext]
  rfl

theorem sendData_indication (link : Protocol.Link) {cmd : CommandId}
    (hcmd : ZbNcp.indications.contains cmd = true) {data payload : List UInt8}
    (hpayload : ZbNcp.indication cmd data = some payload) :
    ∃ it, ZbossSerial.scanner.Encodes (sendData link payload).2 [it] ∧ Ignored it := by
  have hlen := ZbNcp.length_indication hpayload
  obtain ⟨hne, hid⟩ : payload ≠ [] ∧
      UInt16.ofNat (ZbossSerial.getUint16 payload 2) = cmd.value := by
    rw [ZbNcp.indication] at hpayload
    split at hpayload
    · cases hpayload
    · cases hpayload
      exact ⟨by simp, getUint16_header _ _ cmd.value data⟩
  have hindicated : indicated cmd.value = true := by
    rw [indicated, List.contains_iff_mem]
    exact List.mem_map_of_mem (List.contains_iff_mem.mp hcmd)
  obtain ⟨it, seq, hencodes, hhandle⟩ := sendData_frame link hne
    (hlen.trans (by decide))
  refine ⟨it, hencodes, ?_⟩
  intro page hpage
  have hother (tsn : UInt8) : { page with recvSeq := some seq }.pendingRequests tsn ≠
      some (UInt16.ofNat (ZbossSerial.getUint16 payload 2)) := by
    intro heq
    have hnot := hpage tsn _ heq
    rw [hid, hindicated] at hnot
    cases hnot
  refine ⟨some seq, [seq], ?_⟩
  rw [hhandle, deliver_other hother]
  rfl

-- The device acknowledges a request and answers it.
theorem handleAll_request {call : Call} {it : Protocol.Item} (h : Requests S safeMode call it)
    (link : Protocol.Link) (app : σ) :
    ∃ next bytes up,
      handleAll safeMode S.handlers link app [it] =
          (next, (S.call safeMode app call.cmdId call.payload).1, bytes) ∧
        ZbossSerial.scanner.Encodes bytes up ∧
        Among Ignored Answers [(call, (S.call safeMode app call.cmdId call.payload).2)] up := by
  obtain ⟨hdr, rfl, hack, hnack, htype⟩ := h.packet
  obtain ⟨rsp, hsend, hscan, hflags⟩ := ZbossSerial.sendAck_decoded link hdr
  have hhandle : ∃ acked, Protocol.handle link (.packet hdr (call.cmd.bytes ++ call.payload)) =
      (acked, [.send rsp, .onRxData (call.cmd.bytes ++ call.payload)]) := by
    simp only [Protocol.handle, Protocol.onRxPacket, hack, hnack, htype, hsend]
    exact ⟨_, rfl⟩
  obtain ⟨acked, hhandle⟩ := hhandle
  obtain ⟨it, hencodes, hanswers⟩ := sendData_reply acked call
    (ZbNcp.Service.length_call h.served app call.payload)
  have hserve := ZbNcp.Service.onRxData_request call.cmd rfl h.served app call.payload
  let data := (S.call safeMode app call.cmdId call.payload).2
  refine ⟨(sendData acked (call.cmd.reply.bytes ++ data)).1, _, _, ?_,
    (encodes_toPage hscan).append hencodes, .idle (ignored_ack hflags) (.means hanswers .nil)⟩
  simp only [handleAll, hhandle, perform, hserve, sendAll, List.append_nil]
  rfl

theorem handleAll_cons (link : Protocol.Link) (app : σ) (it : Protocol.Item)
    (items : List Protocol.Item) :
    handleAll safeMode S.handlers link app (it :: items) =
      let first := handleAll safeMode S.handlers link app [it]
      let behind := handleAll safeMode S.handlers first.1 first.2.1 items
      (behind.1, behind.2.1, first.2.2 ++ behind.2.2) := by
  simp only [handleAll, List.append_nil]

theorem handleAll_requests {calls : List Call} {items : List Protocol.Item}
    (h : Among Quiet (Requests S safeMode) calls items) (link : Protocol.Link) (app : σ) :
    ∃ next bytes up,
      handleAll safeMode S.handlers link app items =
          (next, (replay S safeMode app calls).1, bytes) ∧
        ZbossSerial.scanner.Encodes bytes up ∧
        Among Ignored Answers (replay S safeMode app calls).2 up := by
  induction h generalizing link app with
  | nil => exact ⟨link, [], [], rfl, Scanner.encodes_nil, .nil⟩
  | @idle it calls items hquiet _ ih =>
      obtain ⟨next, bytes, up, hrest, hencodes, hup⟩ := ih link app
      refine ⟨next, bytes, up, ?_, hencodes, hup⟩
      simp only [handleAll, hquiet link, perform, hrest, List.nil_append]
  | @means call it calls items hcall _ ih =>
      obtain ⟨middle, bytes, up, hfirst, hencodes, hup⟩ := handleAll_request hcall link app
      obtain ⟨next, more, others, hrest, hmore, hothers⟩ := ih middle
        (S.call safeMode app call.cmdId call.payload).1
      refine ⟨next, bytes ++ more, up ++ others, ?_, hencodes.append hmore, hup.append hothers⟩
      rw [handleAll_cons, hfirst]
      simp only [hrest]
      rfl

-- The slots of the page for these calls.
structure Pending (page : ZbossSerial.State) (calls : List Call) : Prop where
  slots : ∀ tsn, page.pendingRequests tsn =
    (calls.find? fun call => call.tsn == tsn).map Call.cmdId
  nodup : (calls.map Call.tsn).Nodup
  requested : ∀ call ∈ calls, indicated call.cmdId = false

namespace Pending

variable {page : ZbossSerial.State} {call : Call} {calls : List Call}

theorem congr (h : Pending page calls) {other : ZbossSerial.State}
    (hsame : other.pendingRequests = page.pendingRequests) : Pending other calls :=
  ⟨fun tsn => (congrFun hsame tsn).trans (h.slots tsn), h.nodup, h.requested⟩

theorem not_indicated (h : Pending page calls) {tsn : UInt8} {cmdId : UInt16}
    (hslot : page.pendingRequests tsn = some cmdId) : indicated cmdId = false := by
  rw [h.slots] at hslot
  obtain ⟨call, hfind, rfl⟩ := Option.map_eq_some_iff.mp hslot
  exact h.requested call (List.mem_of_find?_eq_some hfind)

theorem head (h : Pending page (call :: calls)) :
    page.pendingRequests call.tsn = some call.cmdId := by
  rw [h.slots, List.find?_cons_of_pos (by simp)]
  rfl

theorem resolve (h : Pending page (call :: calls)) {other : ZbossSerial.State}
    (hclear : other.pendingRequests = clear page call.tsn) : Pending other calls := by
  obtain ⟨hfresh, hnodup⟩ := List.nodup_cons.mp h.nodup
  refine ⟨fun tsn => ?_, hnodup, fun other hother => h.requested other (List.mem_cons_of_mem _ hother)⟩
  rw [hclear, clear]
  by_cases htsn : tsn = call.tsn
  · have hnone : calls.find? (fun other => other.tsn == call.tsn) = none := by
      rw [List.find?_eq_none]
      intro other hother heq
      exact hfresh (List.mem_map.mpr ⟨other, hother, by simpa using heq⟩)
    rw [if_pos htsn, htsn, hnone]
    rfl
  · have hskip : (call.tsn == tsn) = false := by simpa using Ne.symm htsn
    rw [if_neg htsn, h.slots, List.find?_cons, hskip]

theorem ask (h : Pending page calls) (hfree : page.pendingRequests page.nextTsn = none)
    {cmdId : UInt16} (hcmd : indicated cmdId = false) (payload : List UInt8) :
    Pending (ZbossSerial.sendCommand page cmdId payload).1
      (calls ++ [{ cmdId, payload, tsn := page.nextTsn }]) := by
  have hnone : calls.find? (fun call => call.tsn == page.nextTsn) = none := by
    rw [h.slots] at hfree
    exact Option.map_eq_none_iff.mp hfree
  refine ⟨fun tsn => ?_, ?_, ?_⟩
  · rw [List.find?_append]
    simp only [ZbossSerial.sendCommand]
    by_cases htsn : tsn = page.nextTsn
    · rw [if_pos htsn, htsn, hnone]
      simp
    · have hskip : (page.nextTsn == tsn) = false := by simpa using Ne.symm htsn
      rw [if_neg htsn, h.slots, List.find?_cons, hskip, List.find?_nil, Option.or_none]
  · rw [List.map_append, List.map_singleton, List.nodup_append]
    refine ⟨h.nodup, List.nodup_singleton _, fun tsn htsn other hother => ?_⟩
    obtain rfl := List.mem_singleton.mp hother
    obtain ⟨call, hcall, rfl⟩ := List.mem_map.mp htsn
    intro heq
    exact List.find?_eq_none.mp hnone call hcall (by simpa using heq)
  · intro call hcall
    rcases List.mem_append.mp hcall with hold | hnew
    · exact h.requested call hold
    · obtain rfl := List.mem_singleton.mp hnew
      exact hcmd

end Pending

theorem written_append (first second : List ZbossSerial.Action) :
    written (first ++ second) = written first ++ written second := List.flatMap_append

theorem resolved_append (first second : List ZbossSerial.Action) :
    resolved (first ++ second) = resolved first ++ resolved second := List.filterMap_append

theorem written_acks (acks : List (Fin 4)) :
    written (acknowledge acks) = acks.flatMap ZbossSerial.sendAck := List.flatMap_map _ _ acks

theorem resolved_acks (acks : List (Fin 4)) : resolved (acknowledge acks) = [] := by
  rw [resolved, acknowledge, List.filterMap_map]
  exact List.filterMap_eq_nil_iff.mpr fun _ _ => rfl

-- The page resolves the calls in the order of the answers.
theorem handleAll_answers {answers : List Answer} {items : List ZbossSerial.Item}
    (h : Among Ignored Answers answers items) {page : ZbossSerial.State} {later : List Call}
    (hpage : Pending page (answers.map Prod.fst ++ later)) :
    ∃ next actions, ∃ acks : List (Fin 4), ZbossSerial.handleAll page items = (next, actions) ∧
      written actions = acks.flatMap ZbossSerial.sendAck ∧
      resolved actions = answers.map Answer.result ∧ Pending next later := by
  induction h generalizing page with
  | nil => exact ⟨page, [], [], rfl, rfl, rfl, hpage⟩
  | @idle it answers items hit _ ih =>
      obtain ⟨recvSeq, first, hhandle⟩ := hit page fun _ _ => hpage.not_indicated
      let after : ZbossSerial.State := { page with recvSeq }
      have hfirst : ZbossSerial.handle page it = (after, acknowledge first) := hhandle
      have hafter : Pending after (answers.map Prod.fst ++ later) := hpage.congr rfl
      obtain ⟨next, actions, acks, hrest, hwritten, hresolved, hnext⟩ := ih hafter
      refine ⟨next, acknowledge first ++ actions, first ++ acks, ?_, ?_, ?_, hnext⟩
      · simp only [ZbossSerial.handleAll, hfirst, hrest]
      · rw [written_append, written_acks, hwritten, List.flatMap_append]
      · rw [resolved_append, resolved_acks, hresolved, List.nil_append]
  | @means answer it answers items hit _ ih =>
      obtain ⟨seq, hhandle⟩ := hit page hpage.head
      let after : ZbossSerial.State :=
        { page with recvSeq := some seq, pendingRequests := clear page answer.1.tsn }
      have hfirst : ZbossSerial.handle page it =
          (after, acknowledge [seq] ++ [.resolve answer.1.tsn answer.2]) := hhandle
      have hafter : Pending after (answers.map Prod.fst ++ later) := hpage.resolve rfl
      obtain ⟨next, actions, acks, hrest, hwritten, hresolved, hnext⟩ := ih hafter
      refine ⟨next, acknowledge [seq] ++ (.resolve answer.1.tsn answer.2 :: actions),
        [seq] ++ acks, ?_, ?_, ?_, hnext⟩
      · simp only [ZbossSerial.handleAll, hfirst, hrest, List.append_assoc]
        rfl
      · rw [written_append, written_acks, List.flatMap_append, ← hwritten]
        rfl
      · rw [resolved_append, resolved_acks, List.map_cons, ← hresolved]
        rfl

-- The calls are finished, answered by the device, or on their way to it.
structure Progress (S : Service σ) (safeMode : Bool) (app : σ) (s : State σ)
    (finished answered asked : List Call) (down : List Protocol.Item)
    (up : List ZbossSerial.Item) : Prop where
  calls : s.calls = finished ++ answered ++ asked
  device : s.device.app = (replay S safeMode app (finished ++ answered)).1
  results : s.results = (replay S safeMode app finished).2.map Answer.result
  toDevice : Protocol.scanner.Carries s.device.protocol.rxBuffer s.toDevice down
  requests : Among Quiet (Requests S safeMode) asked down
  toPage : ZbossSerial.scanner.Carries s.page.buffer s.toPage up
  answers : Among Ignored Answers
    (replay S safeMode (replay S safeMode app finished).1 answered).2 up
  pending : Pending s.page (answered ++ asked)

def Inv (S : Service σ) (safeMode : Bool) (app : σ) (s : State σ) : Prop :=
  ∃ finished answered asked down up, Progress S safeMode app s finished answered asked down up

theorem inv_init (app : σ) : Inv S safeMode app (init app) :=
  ⟨[], [], [], [], [],
    { calls := rfl
      device := rfl
      results := rfl
      toDevice := Scanner.carries_nil
      requests := .nil
      toPage := Scanner.carries_nil
      answers := .nil
      pending := ⟨fun _ => rfl, List.nodup_nil, fun _ hcall => absurd hcall (List.not_mem_nil)⟩ }⟩

section Step

variable {app : σ} {s : State σ} {finished answered asked : List Call}
  {down : List Protocol.Item} {up : List ZbossSerial.Item}
  (h : Progress S safeMode app s finished answered asked down up)

include h

theorem Progress.sendCommand {cmdId : UInt16} {payload : List UInt8}
    (hcall : mayCall S safeMode s.page cmdId payload = true) :
    Inv S safeMode app (step S safeMode s (.sendCommand cmdId payload)) := by
  have hguard := hcall
  simp only [mayCall, Bool.and_eq_true, beq_iff_eq, decide_eq_true_eq, Bool.not_eq_true'] at hguard
  obtain ⟨⟨⟨hfree, hserved⟩, hindicated⟩, hsize⟩ := hguard
  let call : Call := { cmdId, payload, tsn := s.page.nextTsn }
  have hlen : (ZbossSerial.sendCommand s.page cmdId payload).2.length ≤ Protocol.RX_BUFFER_SIZE := by
    rw [ZbossSerial.sendCommand_eq _ _ _ hsize, Protocol.length_encodeFrame,
      ZbossSerial.length_reqData]
    omega
  obtain ⟨hframe, hpayload⟩ := ZbossSerial.sendCommand_dataFrame hlen
  have hscan := hframe.scan_append []
  rw [List.append_nil, hpayload] at hscan
  have hrequest : Requests S safeMode call _ :=
    ⟨hserved, _, rfl, hframe.isAck, hframe.isNack, hframe.packetType⟩
  rw [step, if_pos hcall]
  exact ⟨finished, answered, asked ++ [call], down ++ [_], up,
    { calls := by rw [h.calls, List.append_assoc]
      device := h.device
      results := h.results
      toDevice := h.toDevice.write (encodes_toDevice hscan)
      requests := h.requests.append (.means hrequest .nil)
      toPage := h.toPage
      answers := h.answers
      pending := by
        rw [← List.append_assoc]
        exact h.pending.ask hfree hindicated payload }⟩

theorem Progress.onRx {count : Nat}
    (hfits : s.device.protocol.rxBuffer.length + (s.toDevice.take count).length ≤
      Protocol.RX_BUFFER_SIZE) :
    Inv S safeMode app (step S safeMode s (.onRx count)) := by
  obtain ⟨rest, hitems, hrest⟩ := Protocol.incremental_scanner.carries_receive h.toDevice count
  obtain ⟨before, after, rfl, hbefore, hafter⟩ := (hitems ▸ h.requests).split
  obtain ⟨next, bytes, more, hhandle, hencodes, hmore⟩ :=
    handleAll_requests hbefore s.device.protocol.link s.device.app
  rw [step, if_pos hfits]
  simp only [Session.onRx, Protocol.appendRx_fits hfits, hhandle]
  refine ⟨finished, answered ++ before, after, rest, up ++ more, ?_⟩
  rw [h.device] at hmore
  constructor
  · rw [h.calls]
    simp only [List.append_assoc]
  · rw [h.device, ← List.append_assoc, replay_append app (finished ++ answered)]
  · exact h.results
  · exact hrest
  · exact hafter
  · exact h.toPage.write hencodes
  · rw [replay_append]
    rw [replay_append] at hmore
    exact h.answers.append hmore
  · rw [List.append_assoc]
    exact h.pending

theorem Progress.read (count : Nat) : Inv S safeMode app (step S safeMode s (.read count)) := by
  obtain ⟨rest, hitems, hrest⟩ := ZbossSerial.incremental_scanner.carries_receive h.toPage count
  obtain ⟨front, back, hsplit, hfront, hback⟩ := (hitems ▸ h.answers).split
  obtain ⟨first, second, rfl, hfirst, hsecond⟩ := replay_split hsplit
  have hcalls : front.map Prod.fst = first := by rw [← hfirst, replay_calls]
  have hpage : Pending s.page (front.map Prod.fst ++ (second ++ asked)) := by
    rw [hcalls, ← List.append_assoc]
    exact h.pending
  obtain ⟨next, actions, acks, hhandle, hwritten, hresolved, hnext⟩ :=
    handleAll_answers hfront hpage
  obtain ⟨items, hacks, hquiet⟩ := encodes_acks S safeMode acks
  rw [step, ZbossSerial.read_eq]
  simp only [hhandle, hwritten, hresolved]
  refine ⟨finished ++ first, second, asked, down ++ items, rest, ?_⟩
  constructor
  · rw [h.calls]
    simp only [List.append_assoc]
  · rw [h.device]
    simp only [List.append_assoc]
  · rw [h.results, replay_append, List.map_append, hfirst]
  · exact h.toDevice.write hacks
  · have hboth := h.requests.append hquiet
    rwa [List.append_nil] at hboth
  · exact hrest
  · rw [replay_append, hsecond]
    exact hback
  · exact hnext.congr rfl

theorem Progress.indication {cmd : CommandId} (hcmd : ZbNcp.indications.contains cmd = true)
    (data : List UInt8) : Inv S safeMode app (step S safeMode s (.indication cmd data)) := by
  rw [step, if_pos hcmd]
  cases hpayload : ZbNcp.indication cmd data with
  | none =>
      refine ⟨finished, answered, asked, down, up, ?_⟩
      simp only [Option.toList_none, sendAll, List.append_nil]
      exact ⟨h.calls, h.device, h.results, h.toDevice, h.requests, h.toPage, h.answers, h.pending⟩
  | some payload =>
      obtain ⟨it, hencodes, hit⟩ := sendData_indication s.device.protocol.link hcmd hpayload
      refine ⟨finished, answered, asked, down, up ++ [it], ?_⟩
      simp only [Option.toList_some, sendAll, List.append_nil]
      have hup := h.answers.append (.idle hit .nil)
      rw [List.append_nil] at hup
      exact ⟨h.calls, h.device, h.results, h.toDevice, h.requests, h.toPage.write hencodes, hup,
        h.pending⟩

end Step

theorem inv_step {app : σ} {s : State σ} (h : Inv S safeMode app s) (label : Label) :
    Inv S safeMode app (step S safeMode s label) := by
  obtain ⟨finished, answered, asked, down, up, hp⟩ := h
  cases label with
  | sendCommand cmdId payload =>
      by_cases hcall : mayCall S safeMode s.page cmdId payload = true
      · exact hp.sendCommand hcall
      · rw [step, if_neg hcall]
        exact ⟨_, _, _, _, _, hp⟩
  | onRx count =>
      by_cases hfits : s.device.protocol.rxBuffer.length + (s.toDevice.take count).length ≤
          Protocol.RX_BUFFER_SIZE
      · exact hp.onRx hfits
      · rw [step, if_neg hfits]
        exact ⟨_, _, _, _, _, hp⟩
  | read count => exact hp.read count
  | indication cmd data =>
      by_cases hcmd : ZbNcp.indications.contains cmd = true
      · exact hp.indication hcmd data
      · rw [step, if_neg hcmd]
        exact ⟨_, _, _, _, _, hp⟩

theorem inv_run (S : Service σ) (safeMode : Bool) (app : σ) (labels : List Label) :
    Inv S safeMode app (run S safeMode app labels) :=
  Run.foldl_history (step S safeMode) (init app) (fun _ s => Inv S safeMode app s) (inv_init app)
    (fun _ _ label h => inv_step h label) labels

-- However the link cuts the bytes, and whatever is indicated in between, the
-- calls are answered as if they were made directly, each of them once.
theorem calls_as_direct (S : Service σ) (safeMode : Bool) (app : σ) (labels : List Label) :
    let s := run S safeMode app labels
    s.results <+: (replay S safeMode app s.calls).2.map Answer.result ∧
      (∃ served, served <+: s.calls ∧ s.results.length ≤ served.length ∧
        s.device.app = (replay S safeMode app served).1) ∧
      (s.toDevice = [] → s.toPage = [] →
        s.results = (replay S safeMode app s.calls).2.map Answer.result ∧
          s.device.app = (replay S safeMode app s.calls).1) := by
  obtain ⟨finished, answered, asked, down, up, h⟩ := inv_run S safeMode app labels
  have hlen : (replay S safeMode app finished).2.length = finished.length := by
    rw [← List.length_map Prod.fst, replay_calls]
  refine ⟨?_, ⟨finished ++ answered, ?_, ?_, h.device⟩, fun hdevice hpage => ?_⟩
  · rw [h.results, h.calls, List.append_assoc, replay_append, List.map_append]
    exact List.prefix_append _ _
  · rw [h.calls]
    exact List.prefix_append _ _
  · rw [h.results, List.length_map, hlen, List.length_append]
    omega
  · have hdown := h.toDevice
    have hup := h.toPage
    have hrequests := h.requests
    have hanswers := h.answers
    rw [hdevice] at hdown
    rw [hpage] at hup
    rw [hdown.eq_nil] at hrequests
    rw [hup.eq_nil] at hanswers
    have hanswered : answered = [] := by
      rw [← replay_calls S safeMode _ answered, hanswers.eq_nil, List.map_nil]
    have hcalls := h.calls
    have happ := h.device
    rw [hrequests.eq_nil, hanswered, List.append_nil, List.append_nil] at hcalls
    rw [hanswered, List.append_nil] at happ
    rw [hcalls]
    exact ⟨h.results, happ⟩

end EspCoordinator.Session
