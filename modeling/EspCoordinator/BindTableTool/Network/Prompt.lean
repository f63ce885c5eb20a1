import EspCoordinator.BindTableTool.Network.Lemmas
import EspCoordinator.BindTableTool.Requests

-- What the tool can rely on when nothing comes later than in its own txn
namespace EspCoordinator.BindTableTool

open Bytes
open Client (Triple)
open Requests (STATUS_CATEGORY_ZDO)
open RequestProcess.ListResponse (BindResp parseRecords_toolBody)
open RequestProcess.Outgoing (bindArg formatBind formatIndex indexArg)
open Restore (Layout)

variable {L : Layout} {net : Network L}

-- No answer, or one that says that nothing has been done
def Failed (r : Option Answer) : Prop :=
  ∀ answer, r = some answer → answer.status ≠ 0x00 ∧ answer.status ≠ 0x88

theorem failed_none : Failed none := fun _ h => by cases h

theorem not_failed_of_succeeded {r : Option Answer} (hr : succeeded r = true) : ¬Failed r := by
  intro hfailed
  cases r with
  | none => cases hr
  | some answer => exact (hfailed answer rfl).1 (beq_iff_eq.mp hr)

section Serve

variable {post : Tables → Option Answer → Prop} {s : State} {req : Request}

theorem serve_ends (hprompt : net.Prompt) (hlost : ¬net.Benign → post s.tables none)
    (harrived :
      let (tables, payload) :=
        process net (net.fate s.asked.length).course s.sent.length s.tables req
      post tables (readAnswer req.cmdId payload))
    (hunanswered : ¬net.Answering →
      post (process net (net.fate s.asked.length).course s.sent.length s.tables req).1 none) :
    post (serve net s req).1.tables (serve net s req).2 := by
  obtain ⟨hoverdue, hstale⟩ := hprompt s.asked.length
  let payload := (process net (net.fate s.asked.length).course s.sent.length s.tables req).2
  simp only [serve, hoverdue, hstale, State.catchUp, State.late, List.foldl_nil,
    List.filterMap_nil, List.nil_append, respond]
  cases harrives : (net.fate s.asked.length).arrives with
  | false =>
      have hlost := hlost fun hbenign => by
        rw [hbenign.arrives] at harrives
        cases harrives
      simpa using hlost
  | true =>
      have hown : (s.sent ++ [payload]).drop s.sent.length = [payload] := List.drop_left
      simp only [if_true, State.carryOut]
      rw [hown]
      cases hanswered : (net.fate s.asked.length).answered with
      | false =>
          refine hunanswered fun hanswering => ?_
          rw [hanswering.answered] at hanswered
          cases hanswered
      | true =>
          have hanswer : [payload].findSome? (readAnswer req.cmdId) =
              readAnswer req.cmdId payload := by
            rw [List.findSome?_cons, List.findSome?_nil]
            cases readAnswer req.cmdId payload <;> rfl
          rw [if_pos rfl, hanswer]
          exact harrived

variable {α β : Type} (p : Packed α) (f : α → β) (host : α)

theorem serve_zdo (hprompt : net.Prompt) (device : Nat → Tables → β → Response)
    (hprocess : ∀ course seed tables, process net course seed tables req =
      zdo (.packed p f) req.cmd course tables (device seed) (p.write host))
    (hfailed : ∀ r, Failed r → ¬net.Benign → post s.tables r)
    (hdone : ∀ seed, post (device seed s.tables (f host)).tables
      (readAnswer req.cmdId ((device seed s.tables (f host)).payload req.cmd)))
    (hlate : ∀ seed r, Failed r → ¬net.Answering →
      post (device seed s.tables (f host)).tables r) :
    post (serve net s req).1.tables (serve net s req).2 := by
  have hread (status : UInt8) :
      readAnswer req.cmdId (req.cmd.reply.bytes ++ [STATUS_CATEGORY_ZDO, status]) =
        some { category := STATUS_CATEGORY_ZDO, status, body := [] } :=
    readAnswer_reply req.cmd _ _ _
  apply serve_ends hprompt (fun hnot => hfailed none failed_none hnot)
  · rw [hprocess, zdo_write]
    cases hcourse : (net.fate s.asked.length).course with
    | refused refusal =>
        simp only [hread]
        refine hfailed _ ?_ fun hbenign => ?_
        · rintro _ ⟨⟩
          exact ⟨refusal.failed, refusal.honest⟩
        · rw [hbenign.carriedOut] at hcourse
          cases hcourse
    | carriedOut => exact hdone _
    | timedOut =>
        simp only [hread]
        refine hlate _ _ ?_ fun hanswering => hanswering.inTime _ hcourse
        rintro _ ⟨⟩
        decide
  · intro hnot
    rw [hprocess, zdo_write]
    cases (net.fate s.asked.length).course with
    | refused refusal => exact hfailed none failed_none fun h => hnot h.answering
    | carriedOut => exact hlate _ none failed_none hnot
    | timedOut => exact hlate _ none failed_none hnot

end Serve

section Retry

variable {cmdId : UInt16} {payload : List UInt8} {pre : State → Prop}
  {post : Option Answer → State → Prop} {onStop : Exit → State → Prop}

-- An attempt without an answer leaves what the next one starts from.
theorem triple_txnRetry
    (hserve : ∀ tsn s, pre s →
      ((serve net s { cmdId, payload, tsn }).2 = none →
        pre (serve net s { cmdId, payload, tsn }).1) ∧
      post (serve net s { cmdId, payload, tsn }).2 (serve net s { cmdId, payload, tsn }).1)
    (tsnBase : UInt8) :
    Triple (serve net) pre (txnRetry cmdId payload tsnBase) post onStop := by
  suffices h : ∀ tries tsn, Triple (serve net) pre
      (attempts cmdId payload (tries + 1) tsn) post onStop from h 2 tsnBase
  intro tries
  induction tries with
  | zero =>
      refine fun tsn => .ask post (fun s hs => (hserve tsn s hs).2) fun r => ?_
      cases r with
      | none => exact .done fun _ h => h
      | some answer => exact .done fun _ h => h
  | succ tries ih =>
      refine fun tsn => .ask (fun r s => (r = none → pre s) ∧ post r s)
        (fun s hs => hserve tsn s hs) fun r => ?_
      cases r with
      | none => exact (ih (tsn + 1)).weaken (fun _ h => h.1 rfl) (fun _ _ h => h) fun _ _ h => h
      | some answer => exact .done fun _ h => h.2

end Retry

section List

-- What the tool can get when it asks for the table from `start` on
def Listed (net : Network L) (nwk : UInt16) (t : Table) (start : UInt8)
    (r : Option Answer) : Prop :=
  (succeeded r = false ∧ ¬net.Benign) ∨
    ∃ answer seed, r = some answer ∧ answer.status = 0x00 ∧
      let resp := (net.node nwk).listing seed t start
      resp.status = 0x00 ∧ parseRecords answer.body = some
        { entries := resp.bindingTableEntries
          start := resp.startIndex
          count := UInt8.ofNat (pageSize resp)
          recs := (List.range (pageSize resp)).map fun i => (resp.list i).decoded }

theorem Failed.not_succeeded {r : Option Answer} (h : Failed r) : succeeded r = false :=
  Bool.eq_false_iff.mpr fun hr => not_failed_of_succeeded hr h

theorem serve_list (hprompt : net.Prompt) (nwk : UInt16) (start tsn : UInt8) (s : State) :
    (serve net s (listRequest nwk start tsn)).1.tables = s.tables ∧
      Listed net nwk (s.tables nwk) start (serve net s (listRequest nwk start tsn)).2 := by
  let req := listRequest nwk start tsn
  let post : Tables → Option Answer → Prop := fun after r =>
    after = s.tables ∧ Listed net nwk (s.tables nwk) start r
  have hwire : toLE 2 nwk.toNat ++ [start] = indexArg.write { nwk, startIndex := start } := by
    rw [← Packed.write_u8]
    rfl
  change post _ _
  apply serve_zdo indexArg formatIndex { nwk, startIndex := start } hprompt
    (listTable net req.cmd) (fun course seed tables => by rw [← hwire]; rfl)
  · exact fun r hfailed hnot => ⟨rfl, .inl ⟨hfailed.not_succeeded, hnot⟩⟩
  · refine fun seed => ⟨rfl, ?_⟩
    obtain ⟨body, hpayload, hbody⟩ := payload_listTable net req.cmd seed s.tables nwk start
    have hanswer : readAnswer req.cmdId _ = _ := readAnswer_reply req.cmd STATUS_CATEGORY_ZDO
      ((net.node nwk).listing seed (s.tables nwk) start).status body
    rw [hpayload]
    by_cases hstatus : ((net.node nwk).listing seed (s.tables nwk) start).status = 0x00
    · refine .inr ⟨_, seed, hanswer, hstatus, hstatus, ?_⟩
      rw [hbody hstatus]
      exact parseRecords_toolBody _ _ _
    · refine .inl ⟨?_, fun hbenign => hstatus (hbenign.listed _ _ _ _)⟩
      rw [hanswer]
      simpa [succeeded] using hstatus
  · exact fun seed r hfailed hnot =>
      ⟨rfl, .inl ⟨hfailed.not_succeeded, fun h => hnot h.answering⟩⟩

theorem triple_list (hprompt : net.Prompt) (nwk : UInt16) (start tsnBase : UInt8) (tables : Tables)
    {onStop : Exit → State → Prop} :
    Triple (serve net) (fun s => s.tables = tables)
      (txnRetry 0x020F (toLE 2 nwk.toNat ++ [start]) tsnBase)
      (fun r s => s.tables = tables ∧ Listed net nwk (tables nwk) start r) onStop := by
  apply triple_txnRetry
  rintro tsn s rfl
  have hserve := serve_list hprompt nwk start tsn s
  exact ⟨fun _ => hserve.1, hserve⟩

end List

section Change

variable {act : Table → Table × UInt8}

-- How one attempt at a change can end
inductive Outcome (net : Network L) (act : Table → Table × UInt8) (t : Table) :
    Table → Option Answer → Prop
  | failed {r : Option Answer} (h : Failed r) (hnot : ¬net.Benign) : Outcome net act t t r
  | late {r : Option Answer} (h : Failed r) (hnot : ¬net.Answering) :
      Outcome net act t (act t).1 r
  | done {answer : Answer} (h : answer.status = (act t).2) :
      Outcome net act t (act t).1 (some answer)

-- What attempts without an answer can leave
def Attempted (net : Network L) (act : Table → Table × UInt8) (t t' : Table) : Prop :=
  t' = t ∨ (t' = (act t).1 ∧ ¬net.Answering)

-- How they can end altogether
inductive Settled (net : Network L) (act : Table → Table × UInt8) (t : Table) :
    Table → Option Answer → Prop
  | failed {t' : Table} {r : Option Answer} (hbefore : Attempted net act t t') (h : Failed r)
      (hnot : ¬net.Benign) : Settled net act t t' r
  | done {t' : Table} {answer : Answer} (hbefore : Attempted net act t t')
      (h : answer.status = (act t').2) : Settled net act t (act t').1 (some answer)

theorem Outcome.settled {t t' t'' : Table} {r : Option Answer}
    (hact : ∀ t, (act (act t).1).1 = (act t).1) (hbefore : Attempted net act t t')
    (h : Outcome net act t' t'' r) : (r = none → Attempted net act t t'') ∧
      Settled net act t t'' r := by
  cases h with
  | failed h hnot => exact ⟨fun _ => hbefore, .failed hbefore h hnot⟩
  | late h hnot =>
      have hafter : Attempted net act t (act t').1 := by
        rcases hbefore with rfl | ⟨rfl, _⟩
        · exact .inr ⟨rfl, hnot⟩
        · exact .inr ⟨hact t, hnot⟩
      exact ⟨fun _ => hafter, .failed hafter h fun h => hnot h.answering⟩
  | done h => exact ⟨nofun, .done hbefore h⟩

-- A change that may be repeated
theorem triple_change {nwk : UInt16} {cmdId : UInt16} {payload : List UInt8}
    {tables : Tables} {t : Table} {onStop : Exit → State → Prop}
    (hact : ∀ t, (act (act t).1).1 = (act t).1)
    (hserve : ∀ tsn s, ∃ t', Outcome net act (s.tables nwk) t'
        (serve net s { cmdId, payload, tsn }).2 ∧
      (serve net s { cmdId, payload, tsn }).1.tables = Function.update s.tables nwk t')
    (tsnBase : UInt8) :
    Triple (serve net) (fun s => s.tables = Function.update tables nwk t)
      (txnRetry cmdId payload tsnBase)
      (fun r s => ∃ t', s.tables = Function.update tables nwk t' ∧ Settled net act t t' r)
      onStop := by
  let pre : State → Prop := fun s =>
    ∃ t', s.tables = Function.update tables nwk t' ∧ Attempted net act t t'
  suffices h : Triple (serve net) pre _ _ _ from
    h.weaken (fun s hs => ⟨t, hs, .inl rfl⟩) (fun _ _ h => h) fun _ _ h => h
  apply triple_txnRetry
  rintro tsn s ⟨before, hs, hbefore⟩
  obtain ⟨t', houtcome, htables⟩ := hserve tsn s
  rw [hs, Function.update_idem] at htables
  rw [hs, Function.update_self] at houtcome
  obtain ⟨hagain, hsettled⟩ := houtcome.settled hact hbefore
  exact ⟨fun hnone => ⟨t', htables, hagain hnone⟩, t', htables, hsettled⟩

-- A Bind_req or an Unbind_req, and the entry that it is about
theorem serve_change (hprompt : net.Prompt) {nwk : UInt16} {src : UInt64} {srcEp : UInt8}
    {cluster : UInt16} {dst : UInt64} {dstEp : UInt8} {req : Request}
    (change : UInt16 → Table → Entry → Table × UInt8)
    (hpayload : req.payload =
      bindPayload nwk (toLE 8 src.toNat) srcEp cluster (toLE 8 dst.toNat) dstEp)
    (hprocess : ∀ course seed tables, process net course seed tables req =
      zdo (.packed bindArg formatBind) req.cmd course tables
        (fun tables param => changeTable net req.cmd (change param.reqDstAddr) seed tables param)
        req.payload)
    (s : State) :
    ∃ t', Outcome net (fun t => change nwk t (unicast src srcEp cluster dst dstEp))
        (s.tables nwk) t' (serve net s req).2 ∧
      (serve net s req).1.tables = Function.update s.tables nwk t' := by
  let entry := unicast src srcEp cluster dst dstEp
  let post : Tables → Option Answer → Prop := fun after r =>
    ∃ t', Outcome net (fun t => change nwk t entry) (s.tables nwk) t' r ∧
      after = Function.update s.tables nwk t'
  change post _ _
  rw [bindPayload_eq] at hpayload
  apply serve_zdo bindArg formatBind
    { target := nwk, srcIeee := src, srcEP := srcEp, clusterID := cluster, addrMode := 0x03
      dstIeee := dst, dstEP := dstEp } hprompt
    (fun seed tables param => changeTable net req.cmd (change param.reqDstAddr) seed tables param)
    (fun course seed tables => by rw [hprocess, hpayload]; rfl)
  · exact fun r hfailed hnot =>
      ⟨s.tables nwk, .failed hfailed hnot, (Function.update_eq_self nwk s.tables).symm⟩
  · refine fun seed => ⟨(change nwk (s.tables nwk) entry).1, ?_, rfl⟩
    have hpayload := payload_changeTable net req.cmd seed s.tables nwk (change nwk) src srcEp
      cluster dst dstEp
    have hanswer := readAnswer_reply req.cmd STATUS_CATEGORY_ZDO
      (change nwk (s.tables nwk) entry).2 []
    rw [← hpayload] at hanswer
    exact hanswer ▸ .done rfl
  · exact fun seed r hfailed hnot =>
      ⟨(change nwk (s.tables nwk) entry).1, .late hfailed hnot, rfl⟩

variable {nwk : UInt16} {src : UInt64} {srcEp : UInt8} {cluster : UInt16} {dst : UInt64}
  {dstEp : UInt8} {tables : Tables} {t : Table} {onStop : Exit → State → Prop}

theorem Table.unbind_unbind (t : Table) (entry : Entry) :
    ((t.unbind entry).1.unbind entry).1 = (t.unbind entry).1 := by
  apply Table.ext
  simp [Table.unbind, Table.without, List.filter_filter]

theorem triple_unbind (hprompt : net.Prompt) (tsnBase : UInt8) :
    Triple (serve net) (fun s => s.tables = Function.update tables nwk t)
      (txnRetry 0x0209
        (bindPayload nwk (toLE 8 src.toNat) srcEp cluster (toLE 8 dst.toNat) dstEp) tsnBase)
      (fun r s => ∃ t', s.tables = Function.update tables nwk t' ∧
        Settled net (fun t => t.unbind (unicast src srcEp cluster dst dstEp)) t t' r) onStop := by
  refine triple_change (fun t => t.unbind_unbind _) (fun tsn s => ?_) tsnBase
  exact serve_change hprompt (fun _ => Table.unbind) rfl (fun _ _ _ => rfl) s

theorem Table.mem_bind (t : Table) (capacity : UInt8) (entry : Entry) :
    (t.bind capacity entry).2 = 0x00 ↔ entry ∈ (t.bind capacity entry).1.entries := by
  unfold Table.bind
  split
  · simpa using ‹entry ∈ t.entries›
  · split
    · simp
    · simpa using ‹entry ∉ t.entries›

theorem Table.bind_bind (t : Table) (capacity : UInt8) (entry : Entry) :
    ((t.bind capacity entry).1.bind capacity entry).1 = (t.bind capacity entry).1 := by
  by_cases hmem : entry ∈ (t.bind capacity entry).1.entries
  · rw [Table.bind, dif_pos hmem]
  · have hsame : (t.bind capacity entry).1 = t := by
      unfold Table.bind at hmem ⊢
      split
      · rfl
      · split
        · simp_all
        · rfl
    rw [hsame, hsame]

end Change

section Settled

variable {t t' : Table} {r : Option Answer} {entry : Entry} {capacity : UInt8}

theorem Settled.eq_or {act : Table → Table × UInt8} (h : Settled net act t t' r)
    (hact : ∀ t, (act (act t).1).1 = (act t).1) : t' = t ∨ t' = (act t).1 := by
  cases h with
  | failed hbefore _ _ => exact hbefore.imp_right And.left
  | done hbefore _ =>
      rcases hbefore with rfl | ⟨rfl, _⟩
      · exact .inr rfl
      · exact .inr (hact t)

theorem Settled.changed {act : Table → Table × UInt8} (h : Settled net act t t' r)
    (hact : ∀ t, (act (act t).1).1 = (act t).1) (hnot : ¬Failed r) : t' = (act t).1 := by
  cases h with
  | failed _ hfailed _ => exact absurd hfailed hnot
  | done hbefore _ =>
      rcases hbefore with rfl | ⟨rfl, _⟩
      · rfl
      · exact hact t

theorem Settled.unbind_or (h : Settled net (fun t => t.unbind entry) t t' r) :
    t' = t ∨ t' = t.without [entry] :=
  h.eq_or fun t => t.unbind_unbind entry

-- The device has had the entry, or it says that it has not.
theorem Settled.unbound (h : Settled net (fun t => t.unbind entry) t t' r) (hnot : ¬Failed r) :
    t' = t.without [entry] :=
  h.changed (fun t => t.unbind_unbind entry) hnot

-- When nothing goes wrong the first attempt is the last.
theorem Settled.of_benign {act : Table → Table × UInt8} (h : Settled net act t t' r)
    (hbenign : net.Benign) :
    t' = (act t).1 ∧ ∃ answer, r = some answer ∧ answer.status = (act t).2 := by
  cases h with
  | failed _ _ hnot => exact absurd hbenign hnot
  | done hbefore hstatus =>
      obtain rfl := hbefore.resolve_right fun h => h.2 hbenign.answering
      exact ⟨rfl, _, rfl, hstatus⟩

theorem Settled.unbind_benign (h : Settled net (fun t => t.unbind entry) t t' r)
    (hbenign : net.Benign) (hmem : entry ∈ t.entries) : succeeded r = true := by
  obtain ⟨_, answer, rfl, hstatus⟩ := h.of_benign hbenign
  simp [succeeded, hstatus, Table.unbind, hmem]

theorem Settled.unbind_answered (h : Settled net (fun t => t.unbind entry) t t' r)
    (hbenign : net.Benign) : ¬Failed r := by
  obtain ⟨_, answer, rfl, hstatus⟩ := h.of_benign hbenign
  intro hfailed
  have hanswer := hfailed answer rfl
  simp only [hstatus, Table.unbind] at hanswer
  split at hanswer
  · exact hanswer.1 rfl
  · exact hanswer.2 rfl

theorem Settled.bound (h : Settled net (fun t => t.bind capacity entry) t t' r)
    (hr : succeeded r = true) : t' = (t.bind capacity entry).1 ∧ entry ∈ t'.entries := by
  have hchanged := h.changed (fun t => t.bind_bind capacity entry) (not_failed_of_succeeded hr)
  refine ⟨hchanged, ?_⟩
  cases h with
  | failed _ hfailed _ => exact absurd hfailed (not_failed_of_succeeded hr)
  | @done before answer _ hstatus =>
      apply (before.mem_bind capacity entry).mp
      rw [← hstatus]
      simpa [succeeded] using hr

-- As long as no response gets lost, a failure leaves the table alone.
theorem Settled.not_bound (h : Settled net (fun t => t.bind capacity entry) t t' r)
    (hanswering : net.Answering) (hr : succeeded r = false) : t' = t := by
  cases h with
  | failed hbefore _ _ => exact hbefore.resolve_right fun h => h.2 hanswering
  | done hbefore hstatus =>
      obtain rfl := hbefore.resolve_right fun h => h.2 hanswering
      simp only [succeeded, hstatus, beq_eq_false_iff_ne] at hr
      unfold Table.bind at hr ⊢
      split
      · rfl
      · split
        · simp_all
        · rfl

theorem Settled.bind_benign (h : Settled net (fun t => t.bind capacity entry) t t' r)
    (hbenign : net.Benign) :
    succeeded r = true ↔ (t.bind capacity entry).2 = 0x00 := by
  obtain ⟨_, answer, rfl, hstatus⟩ := h.of_benign hbenign
  simp only [succeeded, hstatus, beq_iff_eq]

theorem Table.bind_room {t : Table} (entry : Entry) (h : t.entries.length < capacity.toNat) :
    (t.bind capacity entry).2 = 0x00 := by
  unfold Table.bind
  split
  · rfl
  · rfl

end Settled

section Identity

-- A request that the firmware answers by itself
theorem triple_immediate (hprompt : net.Prompt) {cmdId : UInt16} {payload : List UInt8}
    {category status : UInt8} {body : List UInt8} {tables : Tables} {onStop : Exit → State → Prop}
    (hprocess : ∀ course seed tables tsn,
      process net course seed tables { cmdId, payload, tsn } =
        (tables, (Request.cmd { cmdId, payload, tsn }).reply.bytes ++ category :: status :: body))
    (tsnBase : UInt8) :
    Triple (serve net) (fun s => s.tables = tables) (txnRetry cmdId payload tsnBase)
      (fun r s => s.tables = tables ∧
        ((r = none ∧ ¬net.Benign) ∨ r = some { category, status, body })) onStop := by
  apply triple_txnRetry
  intro tsn s hs
  let req : Request := { cmdId, payload, tsn }
  let post : Tables → Option Answer → Prop := fun after r => after = tables ∧
    ((r = none ∧ ¬net.Benign) ∨ r = some { category, status, body })
  suffices h : post _ _ from ⟨fun _ => h.1, h⟩
  apply serve_ends hprompt
  · exact fun hnot => ⟨hs, .inl ⟨rfl, hnot⟩⟩
  · rw [hprocess]
    exact ⟨hs, .inr (readAnswer_reply req.cmd _ _ _)⟩
  · intro hnot
    rw [hprocess]
    exact ⟨hs, .inl ⟨rfl, fun h => hnot h.answering⟩⟩

theorem triple_getModuleVersion (hprompt : net.Prompt) (tables : Tables) (tsnBase : UInt8)
    {onStop : Exit → State → Prop} :
    Triple (serve net) (fun s => s.tables = tables) (txnRetry 0x0001 [] tsnBase)
      (fun r s => s.tables = tables ∧ ((r = none ∧ ¬net.Benign) ∨ r = some (versionAnswer net)))
      onStop := by
  refine triple_immediate hprompt (fun course seed tables tsn => ?_) tsnBase
  exact congrArg (Prod.mk tables) (payload_getModuleVersion net tsn)

theorem triple_getLocalIeeeAddr (hprompt : net.Prompt) (tables : Tables) (tsnBase : UInt8)
    {onStop : Exit → State → Prop} :
    Triple (serve net) (fun s => s.tables = tables) (txnRetry 0x000B [0x00] tsnBase)
      (fun r s => s.tables = tables ∧ ((r = none ∧ ¬net.Benign) ∨ r = some (ieeeAnswer net)))
      onStop := by
  refine triple_immediate hprompt (fun course seed tables tsn => ?_) tsnBase
  exact congrArg (Prod.mk tables) (payload_getLocalIeeeAddr net tsn)

end Identity

end EspCoordinator.BindTableTool
