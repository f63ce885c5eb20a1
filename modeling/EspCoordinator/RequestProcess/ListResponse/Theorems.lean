import EspCoordinator.RequestProcess.ListResponse

namespace EspCoordinator.RequestProcess.ListResponse

open Bytes
open Requests (STATUS_CATEGORY_ZDO)

variable {memory : Memory UInt8} {bytes : List UInt8} {formatted : Reply}

-- The header stays in front of what format_response writes.
theorem frame_handleResponse (cmd : Cmd) (formatted : Reply) (outdata : Memory UInt8) :
    (handleResponse cmd formatted).frame outdata =
      cmd.reply.bytes ++ formatted.frame (outdata.write 0 cmd.reply.bytes |>.above CMD_SIZE) := by
  let base := outdata.write 0 cmd.reply.bytes
  let shifted := formatted.stores.map (Memory.Store.shift CMD_SIZE)
  have hfront : (base.storeAll shifted).read 0 CMD_SIZE = cmd.reply.bytes := by
    have hkept : (base.storeAll shifted).read 0 CMD_SIZE = base.read 0 CMD_SIZE := by
      refine Memory.read_congr fun index hindex => Memory.storeAll_not_covered _ ?_
      rintro ⟨store, hmem, hcovers⟩
      obtain ⟨inner, -, rfl⟩ := List.mem_map.mp hmem
      have hstart : CMD_SIZE ≤ 0 + index := (Nat.le_add_right _ _).trans hcovers.1
      omega
    rw [hkept]
    exact Memory.read_write outdata 0 cmd.reply.bytes
  have hbehind : (base.storeAll shifted).read CMD_SIZE formatted.outlen =
      formatted.frame (base.above CMD_SIZE) := by
    have habove := Memory.read_above (base.storeAll shifted) CMD_SIZE 0 formatted.outlen
    rw [Nat.add_zero, Memory.above_storeAll] at habove
    exact habove.symm
  rw [Reply.frame, handleResponse, Memory.storeAll_append, Reply.storeAll_header, Memory.read_add,
    Nat.zero_add, hfront, hbehind]

theorem min_toNat (count : UInt8) (cap : Nat) :
    (if count.toNat > cap then cap else count.toNat) = min count.toNat cap := by
  split <;> omega

-- A response that holds the first entries and how many they are.
structure Truncates (formatted : Reply) (size cap : Nat) (count : UInt8) (front : List UInt8)
    (entry : Nat → List UInt8) (back : List UInt8) : Prop where
  frame : ∀ outdata, formatted.frame outdata =
    front ++ UInt8.ofNat (min count.toNat cap) ::
      (List.range (min count.toNat cap)).flatMap entry ++ back
  counted : (UInt8.ofNat (min count.toNat cap)).toNat = min count.toNat cap
  within : formatted.Within size
  accepted : ∀ cmd outdata link, ∃ hdr,
    (Protocol.sendDataInt link ((handleResponse cmd formatted).frame outdata)).2 =
      .frame hdr ((handleResponse cmd formatted).frame outdata)

-- The longest payload that send_data_int takes.
def MAX_PAYLOAD : Nat := Protocol.TX_BUFFER_SIZE - Protocol.HEADER_SIZE - 2

theorem accepted_of_length (hlen : CMD_SIZE + formatted.outlen ≤ MAX_PAYLOAD) (cmd : Cmd)
    (outdata : Memory UInt8) (link : Protocol.Link) : ∃ hdr,
    (Protocol.sendDataInt link ((handleResponse cmd formatted).frame outdata)).2 =
      .frame hdr ((handleResponse cmd formatted).frame outdata) := by
  have hlength : ((handleResponse cmd formatted).frame outdata).length =
      CMD_SIZE + formatted.outlen := Memory.length_read _ _ _
  have hne : (handleResponse cmd formatted).frame outdata ≠ [] := by
    refine List.ne_nil_of_length_pos ?_
    rw [hlength, CMD_SIZE]
    omega
  have hfits : ¬((handleResponse cmd formatted).frame outdata).length >
      Protocol.TX_BUFFER_SIZE - Protocol.HEADER_SIZE - 2 := by
    rw [hlength]
    exact Nat.not_lt.mpr hlen
  rw [Protocol.sendDataInt, if_neg hne, if_neg hfits]
  exact ⟨_, rfl⟩

-- What holds of the cursor holds of the reply.
theorem frame_replyOf {c : Cursor UInt8} (h : ∀ memory, c.Holds memory bytes)
    (outdata : Memory UInt8) : (replyOf c).frame outdata = bytes :=
  (h outdata).read

theorem truncates_replyOf {c : Cursor UInt8} {size cap : Nat} {count : UInt8}
    {front : List UInt8} {entry : Nat → List UInt8} {back : List UInt8}
    (h : ∀ memory, c.Holds memory (front ++ UInt8.ofNat (min count.toNat cap) ::
      (List.range (min count.toNat cap)).flatMap entry ++ back))
    (hcap : cap < 256) (hpos : c.pos ≤ size) (hsize : CMD_SIZE + size ≤ MAX_PAYLOAD) :
    Truncates (replyOf c) size cap count front entry back where
  frame := frame_replyOf h
  counted := UInt8.toNat_ofNat_of_lt' ((Nat.min_le_right _ _).trans_lt hcap)
  within := fun store hmem => ((h (Memory.fill 0)).within store hmem).trans hpos
  accepted := accepted_of_length ((Nat.add_le_add_left hpos CMD_SIZE).trans hsize)

theorem holds_foldl {c : Cursor UInt8} {entry : Nat → List UInt8}
    {copyEntry : Nat → Cursor UInt8 → Cursor UInt8}
    (hentry : ∀ i c bytes, c.Holds memory bytes →
      (copyEntry i c).Holds memory (bytes ++ entry i))
    (h : c.Holds memory bytes) (cnt : Nat) :
    ((List.range cnt).foldl (fun out i => copyEntry i out) c).Holds memory
      (bytes ++ (List.range cnt).flatMap entry) := by
  induction cnt with
  | zero => simpa using h
  | succ cnt ih =>
      rw [List.range_succ, List.foldl_append, List.flatMap_append, ← List.append_assoc]
      simpa using hentry cnt _ _ ih

theorem holds_base (memory : Memory UInt8) (tsn : UInt8) (rest : List UInt8) :
    (baseFormatResponse (tsn :: rest)).Holds memory (STATUS_CATEGORY_ZDO :: rest) := by
  have hput := (Cursor.holds_start memory).put (tsn :: rest)
  have hfits : 0 + [STATUS_CATEGORY_ZDO].length ≤ (Cursor.start.put (tsn :: rest)).pos := by
    simp [Cursor.put, Cursor.start]
  exact hput.patch hfits

-- The count that has been copied is replaced when it is too large.
theorem holds_copied (memory : Memory UInt8) (tsn : UInt8) (fixed : List UInt8) (count : UInt8)
    {entry : Nat → List UInt8} {copyEntry : Nat → Cursor UInt8 → Cursor UInt8}
    (hentry : ∀ i c bytes, c.Holds memory bytes →
      (copyEntry i c).Holds memory (bytes ++ entry i)) :
    (copied tsn fixed count copyEntry).Holds memory
      (STATUS_CATEGORY_ZDO :: fixed ++ UInt8.ofNat (min count.toNat 64) ::
        (List.range (min count.toNat 64)).flatMap entry) := by
  have hbase : (baseFormatResponse (tsn :: fixed ++ [count])).Holds memory
      ((STATUS_CATEGORY_ZDO :: fixed) ++ [count]) := holds_base memory tsn (fixed ++ [count])
  have hopen : (if count.toNat > 64 then
      (baseFormatResponse (tsn :: fixed ++ [count])).patch (1 + fixed.length)
        [UInt8.ofNat (min count.toNat 64)]
      else baseFormatResponse (tsn :: fixed ++ [count])).Holds memory
        ((STATUS_CATEGORY_ZDO :: fixed) ++ [UInt8.ofNat (min count.toNat 64)]) := by
    split
    · rw [Nat.add_comm, ← List.length_cons (a := STATUS_CATEGORY_ZDO)]
      exact hbase.patch_last rfl
    · next hfew =>
        rw [Nat.min_eq_left (Nat.not_lt.mp hfew), UInt8.ofNat_toNat]
        exact hbase
  have hlist := holds_foldl hentry hopen (min count.toNat 64)
  rw [List.append_assoc, List.singleton_append] at hlist
  simp only [copied, min_toNat]
  exact hlist

theorem length_entries {entry : Nat → List UInt8} {width : Nat}
    (hwidth : ∀ i, (entry i).length ≤ width) (cnt : Nat) :
    ((List.range cnt).flatMap entry).length ≤ width * cnt := by
  induction cnt with
  | zero => simp
  | succ cnt ih =>
      have hlast := hwidth cnt
      rw [List.range_succ, List.flatMap_append, List.length_append, List.flatMap_singleton,
        Nat.mul_succ]
      omega

theorem truncates_copied (tsn : UInt8) (fixed : List UInt8) (count : UInt8)
    {entry : Nat → List UInt8} {copyEntry : Nat → Cursor UInt8 → Cursor UInt8} {width size : Nat}
    (hentry : ∀ memory i c bytes, c.Holds memory bytes →
      (copyEntry i c).Holds memory (bytes ++ entry i))
    (hwidth : ∀ i, (entry i).length ≤ width) (hfits : fixed.length + 2 + 64 * width ≤ size)
    (hsize : CMD_SIZE + size ≤ MAX_PAYLOAD) :
    Truncates (replyOf (copied tsn fixed count copyEntry)) size 64 count
      (STATUS_CATEGORY_ZDO :: fixed) entry [] := by
  have hholds (memory : Memory UInt8) := holds_copied memory tsn fixed count (hentry memory)
  refine truncates_replyOf (fun memory => ?_) (by decide) ?_ hsize
  · rw [List.append_nil]
    exact hholds memory
  · have hlist := length_entries hwidth (min count.toNat 64)
    have hcap : width * min count.toNat 64 ≤ 64 * width := by
      rw [Nat.mul_comm]
      exact Nat.mul_le_mul_right width (Nat.min_le_right _ _)
    rw [← (hholds (Memory.fill 0)).length]
    simp only [List.length_append, List.length_cons]
    omega

theorem mgmtLqi_truncates (resp : LqiResp) :
    Truncates (mgmtLqi resp) MGMT_LQI_SIZE 64 resp.neighborTableListCount
      [STATUS_CATEGORY_ZDO, resp.status, resp.neighborTableEntries, resp.startIndex]
      resp.record [] :=
  truncates_copied resp.tsn [resp.status, resp.neighborTableEntries, resp.startIndex]
    resp.neighborTableListCount (fun _ i _ _ h => h.put (resp.record i))
    (fun _ => Nat.le_of_eq (Memory.length_read _ _ _)) (Nat.le_refl MGMT_LQI_SIZE) (by decide)

theorem mgmtNwkUpdate_truncates (resp : NwkUpdateResp) :
    Truncates (mgmtNwkUpdate resp) MGMT_NWK_UPDATE_SIZE 64 resp.scannedChannelsListCount
      (STATUS_CATEGORY_ZDO :: resp.fixed) (fun i => [resp.list i]) [] :=
  truncates_copied resp.tsn resp.fixed resp.scannedChannelsListCount
    (fun _ i _ _ h => h.put [resp.list i]) (fun _ => Nat.le_refl 1)
    (Nat.le_refl MGMT_NWK_UPDATE_SIZE) (by decide)

theorem length_bytes_list (list : Memory UInt8) (cnt : Nat) :
    ((List.range cnt).flatMap fun i => [list i]).length = cnt := by
  simp [List.length_flatMap]

theorem matchDesc_truncates (resp : EpResp) :
    Truncates (matchDesc resp) MATCH_DESC_SIZE 64 resp.count [STATUS_CATEGORY_ZDO, resp.status]
      (fun i => [resp.list i]) (toLE 2 resp.nwkAddr.toNat) := by
  have hholds (memory : Memory UInt8) :
      (((List.range (min resp.count.toNat 64)).foldl (fun out i => out.put [resp.list i])
        (((Cursor.start.put [STATUS_CATEGORY_ZDO]).put [resp.status]).put
          [UInt8.ofNat (min resp.count.toNat 64)])).put (toLE 2 resp.nwkAddr.toNat)).Holds memory
        ([STATUS_CATEGORY_ZDO, resp.status] ++ UInt8.ofNat (min resp.count.toNat 64) ::
          (List.range (min resp.count.toNat 64)).flatMap (fun i => [resp.list i]) ++
            toLE 2 resp.nwkAddr.toNat) := by
    have hopen := (((Cursor.holds_start memory).put [STATUS_CATEGORY_ZDO]).put [resp.status]).put
      [UInt8.ofNat (min resp.count.toNat 64)]
    exact (holds_foldl (fun i _ _ h => h.put [resp.list i]) hopen _).put _
  simp only [matchDesc, min_toNat]
  refine truncates_replyOf hholds (by decide) ?_ (by decide)
  rw [← (hholds (Memory.fill 0)).length]
  simp only [List.length_append, List.length_cons, List.length_nil, length_bytes_list, length_toLE,
    MATCH_DESC_SIZE]
  omega

-- The loop over the endpoints writes one byte behind the other.
theorem endpoints_eq (list : Memory UInt8) (dst cnt : Nat) :
    ((List.range cnt).map fun i => ({ offset := dst + i, bytes := [list i] } : Memory.Store UInt8)) =
      Memory.consecutive dst ((List.range cnt).map fun i => [list i]) := by
  induction cnt with
  | zero => rfl
  | succ cnt ih =>
      have hlength : ((List.range cnt).map fun i => [list i]).flatten.length = cnt :=
        length_bytes_list list cnt
      rw [List.range_succ, List.map_append, List.map_append, Memory.consecutive_append, ih, hlength]
      rfl

-- The parts behind the status, in the place of the address and the count
-- that were copied.
def EpResp.parts (resp : EpResp) : List (List UInt8) :=
  [UInt8.ofNat (min resp.count.toNat 16)] ::
    ((List.range (min resp.count.toNat 16)).map fun i => [resp.list i]) ++
    [toLE 2 resp.nwkAddr.toNat]

theorem EpResp.flatten_parts (resp : EpResp) :
    resp.parts.flatten = UInt8.ofNat (min resp.count.toNat 16) ::
      (List.range (min resp.count.toNat 16)).flatMap (fun i => [resp.list i]) ++
        toLE 2 resp.nwkAddr.toNat := by
  simp [parts, List.flatMap_def]

theorem EpResp.length_parts (resp : EpResp) :
    resp.parts.flatten.length = min resp.count.toNat 16 + 3 := by
  rw [flatten_parts]
  simp only [List.length_append, List.length_cons, length_bytes_list, length_toLE]

theorem activeEp_eq (resp : EpResp) :
    activeEp resp =
      { stores := (baseFormatResponse resp.bytes).stores ++ Memory.consecutive 2 resp.parts
        outlen := 2 + resp.parts.flatten.length } := by
  have hlength : ((List.range (min resp.count.toNat 16)).map fun i => [resp.list i]).flatten.length =
      min resp.count.toNat 16 := length_bytes_list resp.list _
  have hstores : Memory.consecutive 2 resp.parts =
      [{ offset := 2, bytes := [UInt8.ofNat (min resp.count.toNat 16)] }] ++
        ((List.range (min resp.count.toNat 16)).map fun i =>
          ({ offset := 3 + i, bytes := [resp.list i] } : Memory.Store UInt8)) ++
        [{ offset := 3 + min resp.count.toNat 16, bytes := toLE 2 resp.nwkAddr.toNat }] := by
    rw [EpResp.parts, List.cons_append, Memory.consecutive, Memory.consecutive_append, hlength,
      endpoints_eq]
    rfl
  have hlen : 3 + min resp.count.toNat 16 + 2 = 2 + resp.parts.flatten.length := by
    rw [EpResp.length_parts]
    omega
  simp only [activeEp, min_toNat, hstores, hlen, List.append_assoc]

theorem activeEp_truncates (resp : EpResp) :
    Truncates (activeEp resp) ACTIVE_EP_SIZE 16 resp.count [STATUS_CATEGORY_ZDO, resp.status]
      (fun i => [resp.list i]) (toLE 2 resp.nwkAddr.toNat) := by
  have hbase (memory : Memory UInt8) : (baseFormatResponse resp.bytes).Holds memory
      (STATUS_CATEGORY_ZDO :: resp.status :: toLE 2 resp.nwkAddr.toNat ++ [resp.count]) :=
    holds_base memory resp.tsn (resp.status :: toLE 2 resp.nwkAddr.toNat ++ [resp.count])
  have hparts : 2 + resp.parts.flatten.length ≤ ACTIVE_EP_SIZE := by
    rw [EpResp.length_parts, ACTIVE_EP_SIZE]
    omega
  rw [activeEp_eq]
  refine ⟨fun outdata => ?_, UInt8.toNat_ofNat_of_lt' ?_, fun store hmem => ?_, ?_⟩
  · have hfront : (outdata.storeAll (baseFormatResponse resp.bytes).stores).read 0 2 =
        [STATUS_CATEGORY_ZDO, resp.status] := by
      rw [← Memory.take_read _ 0 (show 2 ≤ 5 by decide)]
      exact congrArg (List.take 2) (hbase outdata).read
    rw [Reply.frame, Memory.storeAll_append, Memory.storeAll_consecutive, Memory.read_write_end,
      hfront, EpResp.flatten_parts, List.append_assoc]
  · exact (Nat.min_le_right _ _).trans_lt (by decide)
  · rcases List.mem_append.mp hmem with hmem | hmem
    · exact ((hbase (Memory.fill 0)).within store hmem).trans (show 5 ≤ ACTIVE_EP_SIZE by decide)
    · exact (Memory.consecutive_within resp.parts 2 ACTIVE_EP_SIZE (List.cons_ne_nil _ _)).mpr
        hparts store hmem
  · exact accepted_of_length ((Nat.add_le_add_left hparts CMD_SIZE).trans (by decide))

-- Each of them writes the first entries, as many as its count says, and
-- everything fits.
theorem list_responses_truncated :
    (∀ resp : EpResp, Truncates (activeEp resp) ACTIVE_EP_SIZE 16 resp.count
      [STATUS_CATEGORY_ZDO, resp.status] (fun i => [resp.list i]) (toLE 2 resp.nwkAddr.toNat)) ∧
    (∀ resp : EpResp, Truncates (matchDesc resp) MATCH_DESC_SIZE 64 resp.count
      [STATUS_CATEGORY_ZDO, resp.status] (fun i => [resp.list i]) (toLE 2 resp.nwkAddr.toNat)) ∧
    (∀ resp : LqiResp, Truncates (mgmtLqi resp) MGMT_LQI_SIZE 64 resp.neighborTableListCount
      [STATUS_CATEGORY_ZDO, resp.status, resp.neighborTableEntries, resp.startIndex]
      resp.record []) ∧
    ∀ resp : NwkUpdateResp, Truncates (mgmtNwkUpdate resp) MGMT_NWK_UPDATE_SIZE 64
      resp.scannedChannelsListCount (STATUS_CATEGORY_ZDO :: resp.fixed)
      (fun i => [resp.list i]) [] :=
  ⟨activeEp_truncates, matchDesc_truncates, mgmtLqi_truncates, mgmtNwkUpdate_truncates⟩

end EspCoordinator.RequestProcess.ListResponse
