import EspCoordinator.BindTableTool.Network

namespace EspCoordinator.BindTableTool

open Bytes
open Requests (STATUS_CATEGORY_ZDO reportFailed)
open RequestProcess.ListResponse (BindingRecord BindResp baseFormatResponse handleResponse mgmtBind
  replyOf frame_handleResponse frame_replyOf holds_base mgmtBind_truncates parseWord_eq
  parseRecords_toolBody)
open RequestProcess.Outgoing (BindArg IndexArg Member bindArg formatBind formatIndex indexArg)
open Restore (Layout)

section Answers

variable (cmd : Cmd) (category status : UInt8) (body : List UInt8)

theorem parseWord_reply :
    parseWord (cmd.reply.bytes ++ category :: status :: body) 2 = some cmd.commandId.toNat := by
  have hdrop : (cmd.reply.bytes ++ category :: status :: body).drop 2 =
      toLE 2 cmd.commandId.toNat ++ cmd.tsn :: category :: status :: body := rfl
  exact parseWord_eq hdrop

-- What txn takes for the response to a command
theorem readAnswer_reply :
    readAnswer cmd.commandId (cmd.reply.bytes ++ category :: status :: body) =
      some { category, status, body } := by
  have hlen : 7 ≤ (cmd.reply.bytes ++ category :: status :: body).length := by
    simp only [List.length_append, Cmd.length_bytes, List.length_cons, CMD_SIZE]
    omega
  rw [readAnswer, if_neg (by rw [parseWord_reply]; simpa using hlen)]
  rfl

-- It is no answer to another command.
theorem eq_of_readAnswer_reply {cmdId : UInt16} {answer : Answer}
    (h : readAnswer cmdId (cmd.reply.bytes ++ category :: status :: body) = some answer) :
    cmd.commandId = cmdId ∧ answer = { category, status, body } := by
  have hcmd : cmd.commandId = cmdId := by
    rw [readAnswer, parseWord_reply] at h
    split at h
    · cases h
    · next hread =>
        have hword := Option.some.inj (not_not.mp (not_or.mp hread).2)
        exact UInt16.toNat_inj.mp hword
  subst hcmd
  rw [readAnswer_reply] at h
  exact ⟨rfl, (Option.some.inj h).symm⟩

end Answers

theorem Table.toNat_ofNat (t : Table) {n : Nat} (hn : n ≤ t.entries.length) :
    (UInt8.ofNat n).toNat = n := by
  have hsmall := t.small
  rw [UInt8.toNat_ofNat']
  omega

-- How many records the firmware hands on
def pageSize (resp : BindResp) : Nat := min resp.bindingTableListCount.toNat 64

def Entry.decoded (entry : Entry) : Rec := entry.record.decoded

theorem toNat_pageSize (resp : BindResp) : (UInt8.ofNat (pageSize resp)).toNat = pageSize resp := by
  rw [UInt8.toNat_ofNat', pageSize]
  omega

section Page

variable {t : Table} {start : UInt8} {resp : BindResp}

theorem Page.add_pageSize_le (h : Page t start resp) (hstart : start.toNat ≤ t.entries.length) :
    start.toNat + pageSize resp ≤ t.entries.length := by
  have hfits := h.fits
  rw [pageSize]
  omega

-- An empty page is one behind the table.
theorem Page.ends (h : Page t start resp) (hstart : start.toNat ≤ t.entries.length)
    (hend : UInt8.ofNat (pageSize resp) = 0 ∨
      t.entries.length ≤ start.toNat + pageSize resp) :
    start.toNat + pageSize resp = t.entries.length := by
  have hfits := h.add_pageSize_le hstart
  rcases hend with hempty | hend
  · have hnone : pageSize resp = 0 := by
      rw [← toNat_pageSize, hempty]
      rfl
    by_contra hbefore
    apply h.progress (by omega)
    apply UInt8.toNat_inj.mp
    rw [pageSize] at hnone
    change resp.bindingTableListCount.toNat = 0
    omega
  · omega

theorem Page.decoded (h : Page t start resp) (hstart : start.toNat ≤ t.entries.length) :
    (List.range (pageSize resp)).map (fun i => (resp.list i).decoded) =
      ((t.entries.drop start.toNat).take (pageSize resp)).map Entry.decoded := by
  have hfits := h.add_pageSize_le hstart
  apply List.ext_getElem
  · simp only [List.length_map, List.length_range, List.length_take, List.length_drop]
    omega
  · intro i hi hi'
    have hcount : i < pageSize resp := by simpa using hi
    have hentry : t.entries[start.toNat + i]? = some t.entries[start.toNat + i] :=
      List.getElem?_eq_getElem (by omega)
    have hlist := h.list i _ (hcount.trans_le (Nat.min_le_left _ _)) hentry
    simp [hlist, Entry.decoded]

-- What has been read when the pages up to an entry have come
structure ReadTo (t : Table) (count : Nat) (recs : List Rec) : Prop where
  le_length : count ≤ t.entries.length
  recs_eq : recs = (t.entries.take count).map Entry.decoded

variable {recs : List Rec}

theorem ReadTo.next (h : ReadTo t start.toNat recs) (hpage : Page t start resp) :
    ReadTo t (start.toNat + pageSize resp)
      (recs ++ (List.range (pageSize resp)).map fun i => (resp.list i).decoded) := by
  refine ⟨hpage.add_pageSize_le h.le_length, ?_⟩
  rw [hpage.decoded h.le_length, h.recs_eq, ← List.map_append, List.take_add]

theorem ReadTo.complete (h : ReadTo t t.entries.length recs) :
    recs = t.entries.map Entry.decoded := by
  rw [h.recs_eq, List.take_length]

end Page

-- A device that lists one or two entries at a time
def orderly (capacity : UInt8) : Node where
  ieee := 0x1122334455667788
  capacity
  listing seed t start :=
    { tsn := UInt8.ofNat seed
      status := 0x00
      bindingTableEntries := UInt8.ofNat t.entries.length
      startIndex := start
      bindingTableListCount := UInt8.ofNat (min (seed % 2 + 1) (t.entries.length - start.toNat))
      list := fun i => ((t.entries.drop start.toNat).map Entry.record).getD i
        { srcAddress := 0, srcEndp := 0, clusterId := 0, dstAddrMode := 0, dstAddress := 0
          dstEndp := 0 } }

theorem truthful_orderly (capacity : UInt8) : (orderly capacity).Truthful where
  numbered _ _ _ _ := rfl
  page seed t start _ := by
    have hcount : (UInt8.ofNat (min (seed % 2 + 1) (t.entries.length - start.toNat))).toNat =
        min (seed % 2 + 1) (t.entries.length - start.toNat) :=
      t.toNat_ofNat ((Nat.min_le_right _ _).trans (Nat.sub_le _ _))
    refine ⟨t.toNat_ofNat (Nat.le_refl _), ?_, fun i entry _ hentry => ?_, fun hbefore hnone => ?_⟩
    · exact hcount.trans_le (Nat.min_le_right _ _)
    · simp [orderly, hentry]
    · have hzero := congrArg UInt8.toNat hnone
      rw [show ((orderly capacity).listing seed t start).bindingTableListCount.toNat = _ from
        hcount] at hzero
      change _ = 0 at hzero
      omega

variable {L : Layout} {net : Network L}

section Responses

variable (net) (cmd : Cmd) (seed : Nat) (tables : Tables) (nwk : UInt16)

theorem payload_listTable (start : UInt8) :
    let resp := (net.node nwk).listing seed (tables nwk) start
    ∃ body, (listTable net cmd seed tables (formatIndex { nwk, startIndex := start })).payload cmd =
        cmd.reply.bytes ++ STATUS_CATEGORY_ZDO :: resp.status :: body ∧
      (resp.status = 0x00 → body = resp.toolBody cmd net.outdata) := by
  intro resp
  have hframe := frame_handleResponse cmd (mgmtBind resp) net.outdata
  rw [(mgmtBind_truncates _).frame] at hframe
  by_cases hstatus : resp.status = 0x00
  · refine ⟨resp.toolBody cmd net.outdata, ?_, fun _ => rfl⟩
    have hpayload : (listTable net cmd seed tables
        (formatIndex { nwk, startIndex := start })).payload cmd =
          (handleResponse cmd (mgmtBind resp)).frame net.outdata := if_pos hstatus
    rw [hpayload, BindResp.toolBody, hframe]
    rfl
  · exact ⟨[], if_neg hstatus, fun h => absurd h hstatus⟩

def unicast (src : UInt64) (srcEp : UInt8) (cluster : UInt16) (dst : UInt64) (dstEp : UInt8) :
    Entry :=
  { src, srcEp, cluster, dst := .device dst dstEp }

-- The tool's layout of a Bind_req is that of the firmware.
theorem bindPayload_eq (nwk : UInt16) (src : UInt64) (srcEp : UInt8) (cluster : UInt16)
    (dst : UInt64) (dstEp : UInt8) :
    bindPayload nwk (toLE 8 src.toNat) srcEp cluster (toLE 8 dst.toNat) dstEp =
      bindArg.write
        { target := nwk, srcIeee := src, srcEP := srcEp, clusterID := cluster, addrMode := 0x03
          dstIeee := dst, dstEP := dstEp } := by
  have hwrite : bindArg.write
      { target := nwk, srcIeee := src, srcEP := srcEp, clusterID := cluster, addrMode := 0x03
        dstIeee := dst, dstEP := dstEp } =
      toLE 2 nwk.toNat ++ (toLE 8 src.toNat ++ (Packed.u8.write srcEp ++ (toLE 2 cluster.toNat ++
        (Packed.u8.write 0x03 ++ (toLE 8 dst.toNat ++ Packed.u8.write dstEp))))) := rfl
  rw [hwrite, Packed.write_u8, Packed.write_u8, Packed.write_u8, bindPayload]
  simp only [List.append_assoc]

theorem payload_changeTable (change : Table → Entry → Table × UInt8) (src : UInt64) (srcEp : UInt8)
    (cluster : UInt16) (dst : UInt64) (dstEp : UInt8) :
    (changeTable net cmd change seed tables
      (formatBind
        { target := nwk, srcIeee := src, srcEP := srcEp, clusterID := cluster, addrMode := 0x03
          dstIeee := dst, dstEP := dstEp })).payload cmd =
      cmd.reply.bytes ++ [STATUS_CATEGORY_ZDO,
        (change (tables nwk) (unicast src srcEp cluster dst dstEp)).2] := by
  have hframe := frame_handleResponse cmd
    (replyOf (baseFormatResponse [UInt8.ofNat seed, 0x00])) net.outdata
  rw [frame_replyOf (fun memory => holds_base memory _ [0x00])] at hframe
  have hentry : entryOf (formatBind
      { target := nwk, srcIeee := src, srcEP := srcEp, clusterID := cluster, addrMode := 0x03
        dstIeee := dst, dstEP := dstEp }) = some (unicast src srcEp cluster dst dstEp) := rfl
  simp only [Response.payload, changeTable, hentry, hframe]
  split
  · next hstatus =>
      rw [show (change (tables nwk) (unicast src srcEp cluster dst dstEp)).2 = 0x00 from hstatus]
  · rfl

theorem payload_ieeeAddr :
    (ieeeAddr net cmd seed tables (nwk, nwk, 0x00, 0x00)).payload cmd =
      cmd.reply.bytes ++ STATUS_CATEGORY_ZDO :: 0x00 ::
        (toLE 8 (net.node nwk).ieee.toNat ++ toLE 2 nwk.toNat) := by
  let resp : RequestProcess.AddrResponse.Resp :=
    { tsn := UInt8.ofNat seed, status := 0x00, ieeeAddr := (net.node nwk).ieee, nwkAddr := nwk }
  have hframe : (net.outdata.storeAll (Reply.header cmd ++
      RequestProcess.AddrResponse.formatResponse resp)).read 0 17 =
        cmd.reply.bytes ++ STATUS_CATEGORY_ZDO :: resp.fields := by
    rw [RequestProcess.AddrResponse.base_eq]
    exact Memory.read_write net.outdata 0 (cmd.reply.bytes ++ STATUS_CATEGORY_ZDO :: resp.fields)
  exact hframe

end Responses

section Identity

theorem frame_ieee (ieee : Backup.IeeeAddr) (calls : List Immediate.Call)
    (memory : Memory UInt8) :
    (Immediate.Body.fullRes
      { status := none
        res := [{ offset := 0, bytes := [0] }, { offset := 1, bytes := ieee.toList }]
        calls } 9).reply.frame memory = 0 :: 0 :: 0 :: ieee.toList := by
  have hstores := Memory.storeAll_consecutive memory 0 [[0], [0], [0], ieee.toList]
  have hread := Memory.read_write memory 0 (0 :: 0 :: 0 :: ieee.toList)
  rw [List.length_cons, List.length_cons, List.length_cons, Vector.length_toList] at hread
  simp only [List.flatten_cons, List.flatten_nil, List.append_nil, List.singleton_append] at hstores
  rw [← hread]
  exact congrArg (fun m => Memory.read m 0 11) hstores

theorem frame_getLocalIeeeAddr {world : Immediate.World L} {ieee : Backup.IeeeAddr}
    (h : localIeee world.stack = some ieee) (memory : Memory UInt8) :
    (Immediate.getLocalIeeeAddr world [0x00]).reply.frame memory =
      0 :: 0 :: 0 :: ieee.toList := by
  have hmac : Immediate.byte [0x00] 0 = 0 := rfl
  unfold localIeee at h
  rw [← frame_ieee ieee [] memory, Immediate.getLocalIeeeAddr, Immediate.generalStatusArgRes]
  simp only [List.length_singleton, Nat.lt_irrefl, if_false, hmac, ne_eq, not_true_eq_false] at h ⊢
  split at h
  · next hlong =>
      cases h
      simp only [hlong, if_true]
  · next hlong =>
      simp only [hlong]
      cases hmac : world.stack.mac with
      | none => simp [hmac] at h
      | some eui =>
          simp only [hmac, Option.map_some, Option.some.injEq] at h
          subst h
          simp

variable (net)

def versionAnswer : Answer where
  category := 0
  status := 0
  body := [79, 0, 5, 1] ++ toLE 4 net.world.stack.version.toNat ++
    toLE 4 net.world.stack.protocolVersion.toNat

def ieeeAnswer : Answer where
  category := 0
  status := 0
  body := 0 :: net.ieee.toList

theorem payload_getModuleVersion (tsn : UInt8) :
    let cmd := Request.cmd { cmdId := 0x0001, payload := [], tsn }
    immediate net cmd [] = cmd.reply.bytes ++ 0 :: 0 :: (versionAnswer net).body :=
  Reply.frame_respond (Immediate.getModuleVersion net.world []).reply
    (Request.cmd { cmdId := 0x0001, payload := [], tsn }) net.outdata

theorem payload_getLocalIeeeAddr (tsn : UInt8) :
    let cmd := Request.cmd { cmdId := 0x000B, payload := [0x00], tsn }
    immediate net cmd [0x00] = cmd.reply.bytes ++ 0 :: 0 :: (ieeeAnswer net).body := by
  intro cmd
  change _ = cmd.reply.bytes ++ 0 :: 0 :: 0 :: net.ieee.toList
  rw [← frame_getLocalIeeeAddr net.known (net.outdata.above CMD_SIZE)]
  exact Reply.frame_respond (Immediate.getLocalIeeeAddr net.world [0x00]).reply cmd net.outdata

-- The firmware reports the address as it is.
theorem trueIeee_version (reported : List UInt8) :
    trueIeee (firmware (versionAnswer net)) reported = reported := by
  let rest := toLE 4 net.world.stack.protocolVersion.toNat
  have hlen : 4 ≤ ([79, 0, 5, 1] ++ toLE 4 net.world.stack.version.toNat ++ rest).length := by
    rw [List.append_assoc, List.length_append]
    exact Nat.le_add_right 4 _
  have hfirmware : firmware (versionAnswer net) = [1, 5, 79] := by
    have hraw : ofLE (([79, 0, 5, 1] ++ toLE 4 net.world.stack.version.toNat ++ rest).take 4) =
        0x0105004F := by
      simp [ofLE]
    rw [firmware, versionAnswer, if_pos ⟨rfl, hlen⟩, hraw]
    rfl
  rw [hfirmware, trueIeee, if_neg (by decide)]

end Identity

section Zdo

variable {α β : Type} (p : Packed α) (f : α → β) (host : α) (cmd : Cmd) (course : Course)
  (tables : Tables) (device : Tables → β → Response)

-- What becomes of a request that is large enough
theorem zdo_write :
    zdo (.packed p f) cmd course tables device (p.write host) =
      match course with
      | .refused refusal => (tables, cmd.reply.bytes ++ [STATUS_CATEGORY_ZDO, refusal.status])
      | .carriedOut =>
          ((device tables (f host)).tables, (device tables (f host)).payload cmd)
      | .timedOut =>
          ((device tables (f host)).tables, cmd.reply.bytes ++ [STATUS_CATEGORY_ZDO, 0x85]) := by
  have hread := p.read_write host []
  rw [List.append_nil] at hread
  simp only [zdo, Member.packed, p.length_write, Nat.le_refl, decide_true, if_true, hread]
  cases course <;> rfl

end Zdo

end EspCoordinator.BindTableTool
