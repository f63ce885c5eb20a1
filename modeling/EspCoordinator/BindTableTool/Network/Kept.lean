import EspCoordinator.BindTableTool.Network.Lemmas
import EspCoordinator.BindTableTool.Requests

-- What holds of a run in every network, with requests that are carried out late
-- and responses that are taken for those to other requests
namespace EspCoordinator.BindTableTool

open Bytes
open Client (Contract Triple)
open Requests (STATUS_CATEGORY_ZDO)
open RequestProcess.Outgoing (bindArg formatBind formatIndex indexArg)
open Restore (Layout)

variable {L : Layout}

-- The requests of a tool that binds and unbinds no other entries than these
inductive Harmless (nwk : UInt16) (binds unbinds : Entry → Prop) : Request → Prop
  | version (tsn : UInt8) : Harmless nwk binds unbinds { cmdId := 0x0001, payload := [], tsn }
  | localIeee (tsn : UInt8) :
      Harmless nwk binds unbinds { cmdId := 0x000B, payload := [0x00], tsn }
  | ieeeAddr (tsn : UInt8) : Harmless nwk binds unbinds
      { cmdId := 0x0202, payload := toLE 2 nwk.toNat ++ toLE 2 nwk.toNat ++ [0x00, 0x00], tsn }
  | list (start tsn : UInt8) : Harmless nwk binds unbinds (listRequest nwk start tsn)
  | bind {src : UInt64} {srcEp : UInt8} {cluster : UInt16} {dst : UInt64} {dstEp : UInt8}
      (h : binds (unicast src srcEp cluster dst dstEp)) (tsn : UInt8) :
      Harmless nwk binds unbinds
        { cmdId := 0x0208
          payload := bindPayload nwk (toLE 8 src.toNat) srcEp cluster (toLE 8 dst.toNat) dstEp
          tsn }
  | unbind {src : UInt64} {srcEp : UInt8} {cluster : UInt16} {dst : UInt64} {dstEp : UInt8}
      (h : unbinds (unicast src srcEp cluster dst dstEp)) (tsn : UInt8) :
      Harmless nwk binds unbinds
        { cmdId := 0x0209
          payload := bindPayload nwk (toLE 8 src.toNat) srcEp cluster (toLE 8 dst.toNat) dstEp
          tsn }

-- What a response says, whichever of these requests it is to
structure Told (net : Network L) (nwk : UInt16) (cmdId : UInt16) (answer : Answer) : Prop where
  version : cmdId = 0x0001 → answer = versionAnswer net
  localIeee : cmdId = 0x000B → answer = ieeeAnswer net
  ieeeAddr : cmdId = 0x0202 → answer.status = 0x00 →
    answer.body = toLE 8 (net.node nwk).ieee.toNat ++ toLE 2 nwk.toNat

def Sent (net : Network L) (nwk : UInt16) (payload : List UInt8) : Prop :=
  ∃ (cmd : Cmd) (answer : Answer),
    payload = cmd.reply.bytes ++ answer.category :: answer.status :: answer.body ∧
      Told net nwk cmd.commandId answer

-- `keeps` is what is to hold of the table.
structure Kept (net : Network L) (nwk : UInt16) (binds unbinds : Entry → Prop)
    (keeps : Table → Prop) (tables : Tables) (s : State) : Prop where
  table : ∃ t, s.tables = Function.update tables nwk t ∧ keeps t
  asked : ∀ req ∈ s.asked, Harmless nwk binds unbinds req
  sent : ∀ payload ∈ s.sent, Sent net nwk payload

-- It holds again after each of the changes.
structure Closed (net : Network L) (nwk : UInt16) (binds unbinds : Entry → Prop)
    (keeps : Table → Prop) : Prop where
  bind : ∀ t entry, keeps t → binds entry → keeps (t.bind (net.node nwk).capacity entry).1
  unbind : ∀ t entry, keeps t → unbinds entry → keeps (t.unbind entry).1

variable {net : Network L} {nwk : UInt16} {binds unbinds : Entry → Prop} {keeps : Table → Prop}
  {tables : Tables}

theorem Sent.told {payload : List UInt8} (h : Sent net nwk payload) {cmdId : UInt16}
    {answer : Answer} (hread : readAnswer cmdId payload = some answer) :
    Told net nwk cmdId answer := by
  obtain ⟨cmd, said, rfl, htold⟩ := h
  obtain ⟨rfl, rfl⟩ := eq_of_readAnswer_reply _ _ _ _ hread
  exact htold

theorem told_version : Told net nwk 0x0001 (versionAnswer net) where
  version _ := rfl
  localIeee h := absurd h (by decide)
  ieeeAddr h := absurd h (by decide)

theorem told_localIeee : Told net nwk 0x000B (ieeeAnswer net) where
  version h := absurd h (by decide)
  localIeee _ := rfl
  ieeeAddr h := absurd h (by decide)

theorem sent_zdo {cmd : Cmd} (hzdo : cmd.commandId ∉ [0x0001, 0x000B]) {status : UInt8}
    {body : List UInt8}
    (haddr : cmd.commandId = 0x0202 → status = 0x00 →
      body = toLE 8 (net.node nwk).ieee.toNat ++ toLE 2 nwk.toNat) :
    Sent net nwk (cmd.reply.bytes ++ STATUS_CATEGORY_ZDO :: status :: body) := by
  refine ⟨cmd, { category := STATUS_CATEGORY_ZDO, status, body }, rfl, fun h => ?_, fun h => ?_,
    haddr⟩
  · simp [h] at hzdo
  · simp [h] at hzdo

section Process

variable {α β : Type} (p : Packed α) (f : α → β) (host : α) {t : Table}

-- Whatever a request comes to
theorem zdo_kept {cmd : Cmd} (hzdo : cmd.commandId ∉ [0x0001, 0x000B])
    (device : Tables → β → Response) (course : Course) (ht : keeps t) {payload : List UInt8} (hwire : payload = p.write host)
    (hafter : ∃ t', (device (Function.update tables nwk t) (f host)).tables =
      Function.update tables nwk t' ∧ keeps t')
    (hpayload : Sent net nwk ((device (Function.update tables nwk t) (f host)).payload cmd)) :
    let after := zdo (.packed p f) cmd course (Function.update tables nwk t) device payload
    (∃ t', after.1 = Function.update tables nwk t' ∧ keeps t') ∧ Sent net nwk after.2 := by
  rw [hwire, zdo_write]
  cases course with
  | refused refusal =>
      exact ⟨⟨t, rfl, ht⟩, sent_zdo hzdo fun _ h => absurd h refusal.failed⟩
  | carriedOut => exact ⟨hafter, hpayload⟩
  | timedOut => exact ⟨hafter, sent_zdo hzdo fun _ h => absurd h (by decide)⟩

theorem changeTable_kept {cmd : Cmd} (hzdo : cmd.commandId ∉ [0x0001, 0x000B, 0x0202])
    (change : UInt16 → Table → Entry → Table × UInt8) (course : Course) (seed : Nat) (ht : keeps t)
    {src : UInt64} {srcEp : UInt8} {cluster : UInt16} {dst : UInt64} {dstEp : UInt8}
    (hchange : keeps (change nwk t (unicast src srcEp cluster dst dstEp)).1) :
    let after := zdo (.packed bindArg formatBind) cmd course (Function.update tables nwk t)
      (fun tables param => changeTable net cmd (change param.reqDstAddr) seed tables param)
      (bindPayload nwk (toLE 8 src.toNat) srcEp cluster (toLE 8 dst.toNat) dstEp)
    (∃ t', after.1 = Function.update tables nwk t' ∧ keeps t') ∧ Sent net nwk after.2 := by
  have hzdo' : cmd.commandId ∉ [0x0001, 0x000B] := fun h => hzdo (List.mem_append_left [0x0202] h)
  apply zdo_kept bindArg formatBind _ hzdo' _ course ht (bindPayload_eq ..)
  · refine ⟨(change nwk t (unicast src srcEp cluster dst dstEp)).1, ?_, hchange⟩
    have hself : Function.update tables nwk t nwk = t := Function.update_self nwk t tables
    change Function.update (Function.update tables nwk t) nwk
      (change nwk (Function.update tables nwk t nwk) (unicast src srcEp cluster dst dstEp)).1 = _
    rw [hself, Function.update_idem]
  · change Sent net nwk ((changeTable net cmd (change nwk) seed (Function.update tables nwk t)
      (formatBind
        { target := nwk, srcIeee := src, srcEP := srcEp, clusterID := cluster, addrMode := 0x03
          dstIeee := dst, dstEP := dstEp })).payload cmd)
    rw [payload_changeTable]
    exact sent_zdo hzdo' fun h => absurd (by simp [h]) hzdo

theorem process_kept (hclosed : Closed net nwk binds unbinds keeps) {req : Request}
    (hreq : Harmless nwk binds unbinds req) (course : Course) (seed : Nat) {before : Tables}
    (hbefore : ∃ t, before = Function.update tables nwk t ∧ keeps t) :
    let after := process net course seed before req
    (∃ t', after.1 = Function.update tables nwk t' ∧ keeps t') ∧ Sent net nwk after.2 := by
  obtain ⟨t, rfl, ht⟩ := hbefore
  cases hreq with
  | version tsn =>
      exact ⟨⟨t, rfl, ht⟩, Request.cmd { cmdId := 0x0001, payload := [], tsn }, versionAnswer net,
        payload_getModuleVersion net tsn, told_version⟩
  | localIeee tsn =>
      exact ⟨⟨t, rfl, ht⟩, Request.cmd { cmdId := 0x000B, payload := [0x00], tsn },
        ieeeAnswer net, payload_getLocalIeeeAddr net tsn, told_localIeee⟩
  | ieeeAddr tsn =>
      have hzdo : (0x0202 : UInt16) ∉ [0x0001, 0x000B] := by decide
      apply zdo_kept ieeeAddrReqParam id (nwk, nwk, 0x00, 0x00) hzdo _ course ht rfl
      · exact ⟨t, rfl, ht⟩
      · exact payload_ieeeAddr net _ seed _ nwk ▸ sent_zdo hzdo fun _ _ => rfl
  | list start tsn =>
      have hzdo : (listRequest nwk start tsn).cmd.commandId ∉ [0x0001, 0x000B] := by
        change (0x020F : UInt16) ∉ _
        decide
      have hwire : toLE 2 nwk.toNat ++ [start] = indexArg.write { nwk, startIndex := start } := by
        rw [← Packed.write_u8]
        rfl
      apply zdo_kept indexArg formatIndex { nwk, startIndex := start } hzdo _ course ht hwire
      · exact ⟨t, rfl, ht⟩
      · obtain ⟨body, hpayload, -⟩ := payload_listTable net (listRequest nwk start tsn).cmd seed
          (Function.update tables nwk t) nwk start
        rw [hpayload]
        exact sent_zdo hzdo fun h => by cases h
  | bind h tsn =>
      have hzdo : (0x0208 : UInt16) ∉ [0x0001, 0x000B, 0x0202] := by decide
      exact changeTable_kept hzdo (fun nwk t => t.bind (net.node nwk).capacity) course seed ht
        (hclosed.bind t _ ht h)
  | unbind h tsn =>
      have hzdo : (0x0209 : UInt16) ∉ [0x0001, 0x000B, 0x0202] := by decide
      exact changeTable_kept hzdo (fun _ => Table.unbind) course seed ht (hclosed.unbind t _ ht h)

end Process

section Run

variable {s : State}

theorem Kept.carryOut (h : Kept net nwk binds unbinds keeps tables s)
    (hclosed : Closed net nwk binds unbinds keeps) {req : Request}
    (hreq : Harmless nwk binds unbinds req) (course : Course) :
    Kept net nwk binds unbinds keeps tables (s.carryOut net course req) := by
  obtain ⟨htable, hsent⟩ := process_kept hclosed hreq course s.sent.length h.table
  refine ⟨htable, h.asked, fun payload hpayload => ?_⟩
  rcases List.mem_append.mp hpayload with hold | hnew
  · exact h.sent payload hold
  · rw [List.mem_singleton.mp hnew]
    exact hsent

theorem Kept.catchUp (h : Kept net nwk binds unbinds keeps tables s)
    (hclosed : Closed net nwk binds unbinds keeps) (overdue : List (Nat × Course)) :
    Kept net nwk binds unbinds keeps tables (s.catchUp net overdue) := by
  unfold State.catchUp
  induction overdue generalizing s with
  | nil => exact h
  | cons first rest ih =>
      obtain ⟨number, course⟩ := first
      rw [List.foldl_cons]
      refine ih ?_
      dsimp only
      split
      · next req hasked =>
          exact h.carryOut hclosed (h.asked req (List.mem_of_getElem? hasked)) course
      · exact h

theorem Kept.late (h : Kept net nwk binds unbinds keeps tables s) (stale : List Nat) :
    ∀ payload ∈ s.late stale, Sent net nwk payload := by
  intro payload hpayload
  obtain ⟨number, -, hnumber⟩ := List.mem_filterMap.mp hpayload
  exact h.sent payload (List.mem_of_getElem? hnumber)

theorem Kept.respond (h : Kept net nwk binds unbinds keeps tables s)
    (hclosed : Closed net nwk binds unbinds keeps) {req : Request}
    (hreq : Harmless nwk binds unbinds req) (fate : Fate) :
    Kept net nwk binds unbinds keeps tables (respond net fate s req).1 ∧
      ∀ payload ∈ (respond net fate s req).2, Sent net nwk payload := by
  have hasked : Kept net nwk binds unbinds keeps tables { s with asked := s.asked ++ [req] } := by
    refine ⟨h.table, fun other hother => ?_, h.sent⟩
    rcases List.mem_append.mp hother with hold | hnew
    · exact h.asked other hold
    · rw [List.mem_singleton.mp hnew]
      exact hreq
  unfold BindTableTool.respond
  dsimp only
  split
  · have hafter := hasked.carryOut hclosed hreq fate.course
    exact ⟨hafter, fun payload hpayload => hafter.sent payload (List.mem_of_mem_drop hpayload)⟩
  · exact ⟨hasked, nofun⟩

-- One txn, whatever becomes of it
theorem Kept.serve (h : Kept net nwk binds unbinds keeps tables s)
    (hclosed : Closed net nwk binds unbinds keeps) {req : Request}
    (hreq : Harmless nwk binds unbinds req) :
    Kept net nwk binds unbinds keeps tables (serve net s req).1 ∧
      ∀ answer, (serve net s req).2 = some answer → Told net nwk req.cmdId answer := by
  let fate := net.fate s.asked.length
  have hbefore := h.catchUp hclosed fate.overdue
  obtain ⟨hafter, hown⟩ := hbefore.respond hclosed hreq fate
  refine ⟨hafter, fun answer hanswer => ?_⟩
  obtain ⟨payload, hpayload, hread⟩ := List.exists_of_findSome?_eq_some hanswer
  have hsent : Sent net nwk payload := by
    rcases List.mem_append.mp hpayload with hlate | hpayload
    · exact hbefore.late fate.stale payload hlate
    · split at hpayload
      · exact hown payload hpayload
      · cases hpayload
  exact hsent.told hread

-- The terms on which the tool deals with such a network
def terms (net : Network L) (nwk : UInt16) (binds unbinds : Entry → Prop) : Terms where
  allowed := Harmless nwk binds unbinds
  legit req r := ∀ answer, r = some answer → Told net nwk req.cmdId answer
  fails e := e ≠ .exit 0

-- A whole run
theorem kept_run (hclosed : Closed net nwk binds unbinds keeps) (hkeeps : keeps (tables nwk))
    {α : Type} {post : α → Prop} {c : Tool α} (hc : c.Asks (terms net nwk binds unbinds) post) :
    Triple (BindTableTool.serve net) (fun s => s = State.start tables) c
      (fun result s => Kept net nwk binds unbinds keeps tables s ∧ post result)
      (fun e s => Kept net nwk binds unbinds keeps tables s ∧ e ≠ .exit 0) := by
  have hkept : Triple (BindTableTool.serve net) (Kept net nwk binds unbinds keeps tables) c _ _ :=
    hc.triple fun s req hs hreq => hs.serve hclosed hreq
  refine hkept.weaken ?_ (fun _ _ h => h) fun _ _ h => h
  rintro s rfl
  exact ⟨⟨tables nwk, (Function.update_eq_self nwk tables).symm, hkeeps⟩, nofun, nofun⟩

end Run

end EspCoordinator.BindTableTool
