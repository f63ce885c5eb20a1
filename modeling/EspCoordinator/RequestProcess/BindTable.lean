import EspCoordinator.BindTableTool
import EspCoordinator.RequestProcess.ListResponse.Theorems

-- ZDO_MGMT_BIND_REQ and the tool that reads its response
namespace EspCoordinator.RequestProcess.ListResponse

open Bytes
open BindTableTool (Rec parseWord parseRecord parseLoop parseRecords)
open Requests (STATUS_CATEGORY_ZDO)

variable {body : List UInt8} {p : Nat}

-- A record on the wire.
def BindingRecord.wire (src : BindingRecord) : List UInt8 :=
  toLE 8 src.srcAddress.toNat ++ [src.srcEndp] ++ toLE 2 src.clusterId.toNat ++ [src.dstAddrMode] ++
    if src.dstAddrMode = 0x01 then toLE 2 src.addrShort.toNat
    else if src.dstAddrMode = 0x03 then toLE 8 src.dstAddress.toNat ++ [src.dstEndp]
    else []

theorem holds_copyBinding {memory : Memory UInt8} {c : Cursor UInt8} {bytes : List UInt8}
    (src : BindingRecord) (h : c.Holds memory bytes) :
    (copyBinding src c).Holds memory (bytes ++ src.wire) := by
  have hfront := (((h.put (toLE 8 src.srcAddress.toNat)).put [src.srcEndp]).put
    (toLE 2 src.clusterId.toNat)).put [src.dstAddrMode]
  simp only [List.append_assoc] at hfront
  unfold copyBinding BindingRecord.wire
  split_ifs with hshort hlong
  · have hdst := hfront.put (toLE 2 src.addrShort.toNat)
    simpa only [List.append_assoc] using hdst
  · have hdst := (hfront.put (toLE 8 src.dstAddress.toNat)).put [src.dstEndp]
    simpa only [List.append_assoc] using hdst
  · simpa only [List.append_assoc, List.append_nil] using hfront

theorem length_wire (src : BindingRecord) : src.wire.length ≤ BINDING_RECORD_SIZE := by
  unfold BindingRecord.wire
  split_ifs <;> simp [BINDING_RECORD_SIZE]

theorem mgmtBind_truncates (resp : BindResp) :
    Truncates (mgmtBind resp) MGMT_BIND_SIZE 64 resp.bindingTableListCount
      [STATUS_CATEGORY_ZDO, resp.status, resp.bindingTableEntries, resp.startIndex]
      (fun i => (resp.list i).wire) [] :=
  truncates_copied resp.tsn [resp.status, resp.bindingTableEntries, resp.startIndex]
    resp.bindingTableListCount (fun _ i _ _ h => holds_copyBinding (resp.list i) h)
    (fun i => length_wire (resp.list i)) (Nat.le_refl MGMT_BIND_SIZE) (by decide)

-- What the tool is to make of a record.
def BindingRecord.decoded (src : BindingRecord) : Rec where
  src := toLE 8 src.srcAddress.toNat
  srcEp := src.srcEndp
  cluster := src.clusterId.toNat
  mode := src.dstAddrMode
  dst := if src.dstAddrMode = 0x03 then some (toLE 8 src.dstAddress.toNat) else none
  dstShort := if src.dstAddrMode = 0x01 then some src.addrShort.toNat else none
  dstEp := if src.dstAddrMode = 0x03 then some src.dstEndp else none

theorem parseWord_eq {word : UInt16} {rest : List UInt8}
    (h : body.drop p = toLE 2 word.toNat ++ rest) : parseWord body p = some word.toNat := by
  have hlo : body[p]? = some (UInt8.ofNat word.toNat) := by
    rw [← Nat.add_zero p, ← List.getElem?_drop, h]
    rfl
  have hhi : body[p + 1]? = some (UInt8.ofNat (word.toNat / 256)) := by
    rw [← List.getElem?_drop, h]
    rfl
  have hvalue : word.toNat % 2 ^ 8 ||| (word.toNat / 256) <<< 8 = word.toNat := by
    rw [Nat.or_comm, ← Nat.shiftLeft_add_eq_or_of_lt (Nat.mod_lt _ (by decide)), Nat.shiftLeft_eq]
    omega
  have hhigh : (word.toNat / 256) % 2 ^ 8 = word.toNat / 256 :=
    Nat.mod_eq_of_lt (by have hlt := word.toNat_lt; omega)
  simp only [parseWord, hlo, hhi, Option.bind_eq_bind, Option.bind_some, Option.pure_def,
    UInt8.toNat_ofNat', hhigh, hvalue]

-- What a record has behind its mode.
def BindingRecord.destination (src : BindingRecord) : List UInt8 :=
  if src.dstAddrMode = 0x01 then toLE 2 src.addrShort.toNat
  else if src.dstAddrMode = 0x03 then toLE 8 src.dstAddress.toNat ++ [src.dstEndp]
  else []

theorem drop_wire (src : BindingRecord) (rest : List UInt8) :
    (src.wire ++ rest).drop 12 = src.destination ++ rest := rfl

theorem length_wire_eq (src : BindingRecord) : src.wire.length = 12 + src.destination.length :=
  Nat.add_comm _ 12

-- One record is read, and as many bytes as it has. Its mode decides about both.
theorem parseRecord_wire (src : BindingRecord) {rest : List UInt8}
    (h : body.drop p = src.wire ++ rest) :
    parseRecord body p = some (src.decoded, p + src.wire.length) := by
  have hdrop (k : Nat) : body.drop (p + k) = (src.wire ++ rest).drop k := by
    rw [← h, List.drop_drop]
  have hget (k : Nat) : body[p + k]? = (src.wire ++ rest)[k]? := by
    rw [← h, List.getElem?_drop]
  have hsrc : (body.drop p).take 8 = toLE 8 src.srcAddress.toNat := by
    rw [h]
    rfl
  have hsrcEp : body[p + 8]? = some src.srcEndp := hget 8
  have hcluster : parseWord body (p + 9) = some src.clusterId.toNat := parseWord_eq (hdrop 9)
  have hmode : body[p + 11]? = some src.dstAddrMode := hget 11
  have hbehind : body.drop (p + 12) = src.destination ++ rest :=
    (hdrop 12).trans (drop_wire src rest)
  simp only [parseRecord, hsrc, hsrcEp, hcluster, hmode, Option.bind_eq_bind, Option.bind_some,
    Option.pure_def, length_wire_eq]
  by_cases hshort : src.dstAddrMode = 0x01
  · have hdestination : src.destination = toLE 2 src.addrShort.toNat := if_pos hshort
    have hother : ¬(0x01 : UInt8) = 0x03 := by decide
    have hdst : parseWord body (p + 12) = some src.addrShort.toNat :=
      parseWord_eq (hdestination ▸ hbehind)
    simp only [hshort, if_true, hdst, Option.bind_some, BindingRecord.decoded, if_neg hother,
      hdestination]
    rfl
  · by_cases hlong : src.dstAddrMode = 0x03
    · have hdestination : src.destination = toLE 8 src.dstAddress.toNat ++ [src.dstEndp] := by
        rw [BindingRecord.destination, if_neg hshort, if_pos hlong]
      have hother : ¬(0x03 : UInt8) = 0x01 := by decide
      rw [hdestination] at hbehind
      have hdst : (body.drop (p + 12)).take 8 = toLE 8 src.dstAddress.toNat := by
        rw [hbehind]
        rfl
      have hdstEp : body[p + 20]? = some src.dstEndp := by
        rw [show p + 20 = p + 12 + 8 from rfl, ← List.getElem?_drop, hbehind]
        rfl
      simp only [hlong, if_true, hdst, hdstEp, Option.bind_some, BindingRecord.decoded,
        if_neg hother, hdestination]
      rfl
    · have hdestination : src.destination = [] := by
        rw [BindingRecord.destination, if_neg hshort, if_neg hlong]
      simp only [if_neg hshort, if_neg hlong, BindingRecord.decoded, hdestination]
      rfl

theorem twelve_le_length_wire (src : BindingRecord) : 12 ≤ src.wire.length := by
  rw [length_wire_eq]
  exact Nat.le_add_right 12 _

-- The records one behind the other.
theorem parseLoop_wire (srcs : List BindingRecord) {rest : List UInt8}
    (h : body.drop p = srcs.flatMap BindingRecord.wire ++ rest) :
    parseLoop body srcs.length p = some (srcs.map BindingRecord.decoded) := by
  induction srcs generalizing p with
  | nil => rfl
  | cons src srcs ih =>
      rw [List.flatMap_cons, List.append_assoc] at h
      have hlong : ¬p + 12 > body.length := by
        have hlength := congrArg List.length h
        have hmin := twelve_le_length_wire src
        rw [List.length_drop, List.length_append] at hlength
        omega
      have hnext : body.drop (p + src.wire.length) =
          srcs.flatMap BindingRecord.wire ++ rest := by
        rw [← List.drop_drop, h, List.drop_left]
      rw [List.length_cons, parseLoop, if_neg hlong, parseRecord_wire src h]
      simp only [Option.bind_eq_bind, Option.bind_some, ih hnext, Option.pure_def, List.map_cons]

-- What the tool gets: the frame without its header, the category and the
-- status.
def BindResp.toolBody (resp : BindResp) (cmd : Cmd) (outdata : Memory UInt8) : List UInt8 :=
  ((handleResponse cmd (mgmtBind resp)).frame outdata).drop (CMD_SIZE + 2)

theorem toolBody_eq (resp : BindResp) (cmd : Cmd) (outdata : Memory UInt8) :
    resp.toolBody cmd outdata =
      [resp.bindingTableEntries, resp.startIndex,
        UInt8.ofNat (min resp.bindingTableListCount.toNat 64)] ++
        (List.range (min resp.bindingTableListCount.toNat 64)).flatMap
          fun i => (resp.list i).wire := by
  rw [BindResp.toolBody, frame_handleResponse, (mgmtBind_truncates resp).frame, List.append_nil]
  rfl

theorem parseRecords_toolBody (resp : BindResp) (cmd : Cmd) (outdata : Memory UInt8) :
    parseRecords (resp.toolBody cmd outdata) = some
      { entries := resp.bindingTableEntries
        start := resp.startIndex
        count := UInt8.ofNat (min resp.bindingTableListCount.toNat 64)
        recs := (List.range (min resp.bindingTableListCount.toNat 64)).map
          fun i => (resp.list i).decoded } := by
  let srcs := (List.range (min resp.bindingTableListCount.toNat 64)).map resp.list
  have hlength : srcs.length = min resp.bindingTableListCount.toNat 64 := by
    rw [List.length_map, List.length_range]
  have hdrop : (resp.toolBody cmd outdata).drop 3 = srcs.flatMap BindingRecord.wire ++ [] := by
    rw [toolBody_eq, List.append_nil, List.flatMap_map]
    rfl
  have hloop := parseLoop_wire srcs hdrop
  rw [hlength, ← (mgmtBind_truncates resp).counted, List.map_map] at hloop
  have hentries : (resp.toolBody cmd outdata)[0]? = some resp.bindingTableEntries := by
    rw [toolBody_eq]
    rfl
  have hstart : (resp.toolBody cmd outdata)[1]? = some resp.startIndex := by
    rw [toolBody_eq]
    rfl
  have hcount : (resp.toolBody cmd outdata)[2]? =
      some (UInt8.ofNat (min resp.bindingTableListCount.toNat 64)) := by
    rw [toolBody_eq]
    rfl
  simp only [parseRecords, hentries, hstart, hcount, Option.bind_eq_bind, Option.bind_some, hloop,
    Option.pure_def]
  rfl

-- Whatever the stack answers, the tool reads the first records of it as they
-- are, and the response stays within its buffer.
theorem mgmtBind_round_trip (resp : BindResp) (cmd : Cmd) (outdata : Memory UInt8) :
    (mgmtBind resp).Within MGMT_BIND_SIZE ∧
    parseRecords (resp.toolBody cmd outdata) = some
      { entries := resp.bindingTableEntries
        start := resp.startIndex
        count := UInt8.ofNat (min resp.bindingTableListCount.toNat 64)
        recs := (List.range (min resp.bindingTableListCount.toNat 64)).map
          fun i => (resp.list i).decoded } :=
  ⟨(mgmtBind_truncates resp).within, parseRecords_toolBody resp cmd outdata⟩

end EspCoordinator.RequestProcess.ListResponse
