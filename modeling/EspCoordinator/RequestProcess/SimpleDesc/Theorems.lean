import EspCoordinator.Lib.Checked
import EspCoordinator.RequestProcess.SimpleDesc

namespace EspCoordinator.RequestProcess.SimpleDesc

open Resolver Requests Bytes Checked

variable {p out data : List UInt8} {index size count avail inCount outCount : Nat}

-- The larger count gives way first, the output clusters when both are equal.
theorem capCounts_eq (inCount outCount : Nat) :
    capCounts inCount outCount =
      if inCount + outCount ≤ 32 then (inCount, outCount)
      else if inCount ≤ 16 then (inCount, 32 - inCount)
      else (32 - min outCount 16, min outCount 16) := by
  induction inCount, outCount using capCounts.induct with
  | case1 inCount outCount hmany hin ih =>
      rw [capCounts, if_pos hmany, if_pos hin, ih]
      split_ifs <;> refine Prod.ext ?_ ?_ <;> dsimp only <;> omega
  | case2 inCount outCount hmany hin ih =>
      rw [capCounts, if_pos hmany, if_neg hin, ih]
      split_ifs <;> refine Prod.ext ?_ ?_ <;> dsimp only <;> omega
  | case3 inCount outCount hfew => rw [capCounts, if_neg hfew, if_pos (by omega)]

theorem capCounts_le (inCount outCount : Nat) :
    (capCounts inCount outCount).1 ≤ inCount ∧ (capCounts inCount outCount).2 ≤ outCount ∧
      (capCounts inCount outCount).1 + (capCounts inCount outCount).2 ≤ 32 := by
  rw [capCounts_eq]
  split_ifs <;> dsimp only <;> omega

theorem byteAt_ok (h : index < p.length) : byteAt p index = .ok (p.getD index 0) := by
  rw [byteAt, List.getD_eq_getElem?_getD, List.getElem?_eq_getElem h, Option.getD_some]

theorem bytesAt_ok (h : index + size ≤ p.length) :
    bytesAt p index size = .ok ((p.drop index).take size) := if_pos h

theorem emit_ok (h : CMD_SIZE + (out.length + data.length) ≤ OUTDATA_SIZE) :
    emit out data = .ok (out ++ data) := by
  rw [emit, if_pos (by rwa [List.length_append])]

theorem copyClusters_ok (hp : 0 < count → index + 2 * count ≤ p.length)
    (hout : CMD_SIZE + (out.length + 2 * count) ≤ OUTDATA_SIZE) :
    copyClusters p index count out = .ok (out ++ (p.drop index).take (2 * count)) := by
  induction count generalizing index out with
  | zero => simp [copyClusters]
  | succ count ih =>
      have hroom := hp (Nat.succ_pos count)
      have hpair : ((p.drop index).take 2).length = 2 := by
        rw [List.length_take, List.length_drop]
        omega
      have hsplit : (p.drop index).take (2 * (count + 1)) =
          (p.drop index).take 2 ++ (p.drop (index + 2)).take (2 * count) := by
        rw [Nat.mul_add, Nat.add_comm, List.take_add, List.drop_drop]
      rw [copyClusters, bytesAt_ok (by omega), ok_bind, emit_ok (by rw [hpair]; omega), ok_bind,
        ih (fun _ => by omega) (by rw [List.length_append, hpair]; omega), hsplit,
        List.append_assoc]

-- The counts that the body is built with, before and after they are capped.
def inCountOf (sd : List UInt8) (avail : Nat) : Nat :=
  if (sd.getD 6 0).toNat * 2 > avail - 7 then (avail - 7) / 2 else (sd.getD 6 0).toNat

def outCountOf (sd : List UInt8) (avail outCountOff : Nat) : Nat :=
  if avail > outCountOff then
    if (sd.getD outCountOff 0).toNat * 2 > avail - outCountOff - 1 then
      (avail - outCountOff - 1) / 2
    else (sd.getD outCountOff 0).toNat
  else 0

def countsOf (sd : List UInt8) (avail : Nat) : Nat × Nat :=
  capCounts (inCountOf sd avail) (outCountOf sd avail (7 + 2 * inCountOf sd avail))

def bodyWith (sd : List UInt8) (counts : Nat × Nat) : List UInt8 :=
  sd.take 5 ++ [sd.getD 5 0 &&& 0x0F, UInt8.ofNat counts.1, UInt8.ofNat counts.2] ++
    (sd.drop 7).take (2 * counts.1) ++ (sd.drop (8 + 2 * counts.1)).take (2 * counts.2)

theorem simpleDescBody_eq (sd : List UInt8) (avail : Nat) :
    simpleDescBody sd avail = bodyWith sd (countsOf sd avail) := rfl

-- No cluster lies behind the bytes that can be read.
structure Readable (avail : Nat) (counts : Nat × Nat) : Prop where
  inputs : 7 + 2 * counts.1 ≤ avail
  outputs : 0 < counts.2 → 8 + 2 * counts.1 + 2 * counts.2 ≤ avail
  capped : counts.1 + counts.2 ≤ 32

theorem readable_countsOf (sd : List UInt8) (hbody : 7 ≤ avail) :
    Readable avail (countsOf sd avail) := by
  have hin : 2 * inCountOf sd avail ≤ avail - 7 := by
    unfold inCountOf
    split_ifs <;> omega
  have hout : 2 * outCountOf sd avail (7 + 2 * inCountOf sd avail) ≤
      avail - (7 + 2 * inCountOf sd avail) - 1 := by
    unfold outCountOf
    split_ifs <;> omega
  obtain ⟨hfirst, hsecond, hcap⟩ :=
    capCounts_le (inCountOf sd avail) (outCountOf sd avail (7 + 2 * inCountOf sd avail))
  rw [countsOf]
  exact ⟨by omega, by omega, hcap⟩

theorem readOutCount_ok (outCountOff : Nat) (havail : avail + 5 ≤ p.length) :
    readOutCount p avail outCountOff = .ok (outCountOf (p.drop 5) avail outCountOff) := by
  rw [readOutCount, outCountOf]
  by_cases hcount : avail > outCountOff
  · have hbytes : (if avail > outCountOff + 1 then avail - outCountOff - 1 else 0) =
        avail - outCountOff - 1 := by
      split <;> omega
    rw [if_pos hcount, if_pos hcount, byteAt_ok (by omega), ok_bind, hbytes]
    simp only [List.getD_eq_getElem?_getD, List.getElem?_drop, pure_eq]
  · rw [if_neg hcount, if_neg hcount]

theorem readCounts_ok (havail : avail + 5 ≤ p.length) (hbody : 7 ≤ avail) :
    readCounts p avail = .ok (countsOf (p.drop 5) avail) := by
  have hbytes : (if avail > 7 then avail - 7 else 0) = avail - 7 := by
    split <;> omega
  have hin : (if (p.getD 11 0).toNat * 2 > avail - 7 then (avail - 7) / 2
      else (p.getD 11 0).toNat) = inCountOf (p.drop 5) avail := by
    simp only [inCountOf, List.getD_eq_getElem?_getD, List.getElem?_drop]
  simp only [readCounts, byteAt_ok (show 11 < p.length by omega), ok_bind, hbytes, hin,
    readOutCount_ok _ havail, pure_eq, countsOf]

theorem take_cons (h : index < p.length) :
    (p.drop index).take (size + 1) = p.getD index 0 :: (p.drop (index + 1)).take size := by
  rw [List.drop_eq_getElem_cons h, List.take_succ_cons, List.getD_eq_getElem?_getD,
    List.getElem?_eq_getElem h, Option.getD_some]

theorem emitBody_ok (havail : avail + 5 ≤ p.length) (hbody : 7 ≤ avail) (hout : out.length = 2) :
    emitBody p avail out = .ok (out ++ simpleDescBody (p.drop 5) avail) := by
  have hfields : (p.drop 5).take 5 = [p.getD 5 0] ++ (p.drop 6).take 2 ++ (p.drop 8).take 2 := by
    have hids : (p.drop 6).take (2 + 2) = (p.drop 6).take 2 ++ (p.drop 8).take 2 := by
      rw [List.take_add, List.drop_drop]
    rw [take_cons (by omega), hids]
    rfl
  have hlen : ((p.drop 5).take 5).length = 5 := by
    rw [List.length_take, List.length_drop]
    omega
  obtain ⟨hinputs, houtputs, hcapped⟩ := readable_countsOf (p.drop 5) hbody
  rw [simpleDescBody_eq, emitBody, byteAt_ok (by omega), ok_bind, bytesAt_ok (by omega), ok_bind,
    bytesAt_ok (by omega), ok_bind, byteAt_ok (by omega), ok_bind, readCounts_ok havail hbody,
    ok_bind]
  generalize countsOf (p.drop 5) avail = counts at hinputs houtputs hcapped ⊢
  have hinLen : ((p.drop (5 + 7)).take (2 * counts.1)).length = 2 * counts.1 := by
    rw [List.length_take, List.length_drop]
    omega
  have hhead : (out ++ ((p.drop 5).take 5 ++ [p.getD 10 0 &&& 0x0F, UInt8.ofNat counts.1,
      UInt8.ofNat counts.2])).length = 10 := by
    rw [List.length_append, List.length_append, hlen, hout]
    rfl
  simp only [← hfields]
  rw [emit_ok, ok_bind, copyClusters_ok (by omega), ok_bind, copyClusters_ok (by omega)]
  · simp only [bodyWith, List.append_assoc, List.drop_drop, List.getD_eq_getElem?_getD,
      List.getElem?_drop, ← Nat.add_assoc]
  · rw [List.length_append, hhead, hinLen, CMD_SIZE, OUTDATA_SIZE]
    omega
  · rw [hhead, CMD_SIZE, OUTDATA_SIZE]
    omega
  · rw [← List.length_append, hhead, CMD_SIZE, OUTDATA_SIZE]
    omega

theorem length_simpleDescBody_le (sd : List UInt8) (hbody : 7 ≤ avail) :
    (simpleDescBody sd avail).length ≤ 72 := by
  have hcapped := (readable_countsOf sd hbody).capped
  rw [simpleDescBody_eq]
  simp only [bodyWith, List.length_append, List.length_take, List.length_cons, List.length_nil]
  omega

-- The reply is written without a look behind the payload or a write behind
-- outdata.
theorem emitRsp_ok (hlen : 5 ≤ p.length) : emitRsp p = .ok (simpleDescRsp p) := by
  have havail : min (p.length - 5) (p.getD 4 0).toNat + 5 ≤ p.length := by omega
  have hstatus : emit [] [STATUS_CATEGORY_ZDO, p.getD 1 0] =
      .ok [STATUS_CATEGORY_ZDO, p.getD 1 0] := by
    rw [emit_ok (by simp [CMD_SIZE, OUTDATA_SIZE]), List.nil_append]
  have hnwk : ((p.drop 2).take 2).length = 2 := by
    rw [List.length_take, List.length_drop]
    omega
  rw [emitRsp, byteAt_ok (by omega), ok_bind, bytesAt_ok (by omega), ok_bind, byteAt_ok (by omega),
    ok_bind]
  simp only [hstatus, ok_bind, simpleDescRsp]
  by_cases hbody : p.getD 1 0 = 0 ∧ min (p.length - 5) (p.getD 4 0).toNat ≥ 7
  · have hshort := length_simpleDescBody_le (p.drop 5) hbody.2
    rw [if_pos hbody, if_pos hbody, emitBody_ok havail hbody.2 rfl, ok_bind, emit_ok]
    rw [List.length_append, hnwk, CMD_SIZE, OUTDATA_SIZE, List.length_cons, List.length_singleton]
    omega
  · rw [if_neg hbody, if_neg hbody, ok_bind, List.append_nil, emit_ok]
    simp [hnwk, CMD_SIZE, OUTDATA_SIZE]

theorem Body.length_bytes (body : Body) :
    body.bytes.length = 10 + 2 * (body.inputClusters.length + body.outputClusters.length) := by
  simp only [bytes, List.length_append, length_words, List.length_cons, List.length_nil]
  omega

theorem decodable_bodyWith {sd nwk : List UInt8} {counts : Nat × Nat} (hsd : avail ≤ sd.length)
    (hbody : 7 ≤ avail) (hcounts : Readable avail counts) (hnwk : nwk.length = 2) :
    ∃ body : Body, body.inputClusters.length < 256 ∧ body.outputClusters.length < 256 ∧
      bodyWith sd counts ++ nwk = body.bytes := by
  obtain ⟨hinputs, houtputs, hcapped⟩ := hcounts
  obtain ⟨ids, hids, hidBytes⟩ := @exists_words ((sd.drop 1).take 4) 2 (by
    rw [List.length_take, List.length_drop]
    omega)
  obtain ⟨inputs, hin, hinBytes⟩ := @exists_words ((sd.drop 7).take (2 * counts.1)) counts.1 (by
    rw [List.length_take, List.length_drop]
    omega)
  obtain ⟨outputs, hout, houtBytes⟩ :=
    @exists_words ((sd.drop (8 + 2 * counts.1)).take (2 * counts.2)) counts.2 (by
      rw [List.length_take, List.length_drop]
      omega)
  obtain ⟨addr, haddr, haddrBytes⟩ := @exists_words nwk 1 (by omega)
  obtain ⟨profileID, deviceID, rfl⟩ := List.length_eq_two.mp hids
  obtain ⟨nwkAddr, rfl⟩ := List.length_eq_one_iff.mp haddr
  refine ⟨⟨sd.getD 0 0, profileID, deviceID, sd.getD 5 0 &&& 0x0F, inputs, outputs, nwkAddr⟩,
    ?_, ?_, ?_⟩
  · dsimp only
    omega
  · dsimp only
    omega
  · have hfields := @take_cons sd 0 4 (by omega)
    rw [List.drop_zero, Nat.zero_add, hidBytes] at hfields
    simp only [bodyWith, Body.bytes, hfields, hinBytes, houtBytes, haddrBytes, hin, hout]
    simp only [List.append_assoc, List.cons_append, List.nil_append]

-- The body is left out, or it is all there.
theorem decodable_simpleDescRsp_iff (hlen : 5 ≤ p.length) :
    Decodable (simpleDescRsp p) ↔
      (p.getD 1 0 = 0 → 7 ≤ min (p.length - 5) (p.getD 4 0).toNat) := by
  have hnwk : ((p.drop 2).take 2).length = 2 := by
    rw [List.length_take, List.length_drop]
    omega
  constructor
  · rintro ⟨category, status, rest, hdata, hbody⟩ hstatus
    by_contra hshort
    rw [simpleDescRsp, if_neg (fun h => hshort h.2), List.append_nil] at hdata
    obtain ⟨-, rfl, rfl⟩ : _ = category ∧ p.getD 1 0 = status ∧ (p.drop 2).take 2 = rest := by
      simpa using hdata
    obtain ⟨body, -, -, hrest⟩ := hbody hstatus
    rw [hrest, Body.length_bytes] at hnwk
    omega
  · intro havail
    by_cases hstatus : p.getD 1 0 = 0
    · have hbody := havail hstatus
      obtain ⟨body, hin, hout, hbytes⟩ := decodable_bodyWith
        (show min (p.length - 5) (p.getD 4 0).toNat ≤ (p.drop 5).length by
          rw [List.length_drop]; omega)
        hbody (readable_countsOf (p.drop 5) hbody) hnwk
      refine ⟨STATUS_CATEGORY_ZDO, p.getD 1 0, body.bytes, ?_, fun _ => ⟨body, hin, hout, rfl⟩⟩
      rw [simpleDescRsp, if_pos ⟨hstatus, hbody⟩, List.append_assoc, simpleDescBody_eq, hbytes]
      rfl
    · refine ⟨STATUS_CATEGORY_ZDO, p.getD 1 0, (p.drop 2).take 2, ?_, fun h => absurd h hstatus⟩
      rw [simpleDescRsp, if_neg (fun h => hstatus h.1), List.append_nil]
      rfl

theorem intercepted_of_pending {r : Resolver Arg} (hlen : 5 ≤ p.length)
    (hpending : r.resolveTake (p.getD 0 0) ≠ none) :
    ∃ req : Request Arg,
      intercepted r p = some { cmd := req.cmd.reply, data := simpleDescRsp p } := by
  obtain ⟨⟨idx, req, rest⟩, hreq⟩ := Option.ne_none_iff_exists'.mp hpending
  exact ⟨req, by rw [intercepted, if_neg (by omega), hreq, Option.map_some]⟩

theorem length_simpleDescRsp_le (p : List UInt8) : (simpleDescRsp p).length ≤ 76 := by
  have hnwk : ((p.drop 2).take 2).length ≤ 2 := List.length_take_le _ _
  rw [simpleDescRsp]
  split_ifs with hbody
  · have hshort := length_simpleDescBody_le (p.drop 5) hbody.2
    simp only [List.length_append, List.length_cons, List.length_nil]
    omega
  · simp only [List.length_append, List.length_cons, List.length_nil]
    omega

-- A reply with status 0 lacks the body when fewer than 7 bytes of it arrived.
theorem intercept_decodable_iff (r : Resolver Arg) (p : List UInt8) (hlen : 5 ≤ p.length)
    (hpending : r.resolveTake (p.getD 0 0) ≠ none) :
    ∃ frame, intercepted r p = some frame ∧ emitRsp p = .ok frame.data ∧
      CMD_SIZE + frame.data.length ≤ OUTDATA_SIZE ∧
      (Decodable frame.data ↔
        (p.getD 1 0 = 0 → 7 ≤ min (p.length - 5) (p.getD 4 0).toNat)) := by
  obtain ⟨req, hframe⟩ := intercepted_of_pending hlen hpending
  have hshort := length_simpleDescRsp_le p
  refine ⟨_, hframe, emitRsp_ok hlen, ?_, decodable_simpleDescRsp_iff hlen⟩
  simp only [CMD_SIZE, OUTDATA_SIZE]
  omega

-- A resolver whose first slot waits for the response 0.
def pending : Resolver Arg :=
  let r := Resolver.init { nwkAddr := 0x1234, endpoint := 1 }
  r.set 0 { r.storage 0 with state := .exec }

theorem intercept_decodable_iff_refused :
    ∃ frame, intercepted pending [0, 0x82, 0x34, 0x12, 0] = some frame ∧
      emitRsp [0, 0x82, 0x34, 0x12, 0] = .ok frame.data ∧
      CMD_SIZE + frame.data.length ≤ OUTDATA_SIZE ∧
      (Decodable frame.data ↔ ((0x82 : UInt8) = 0 → 7 ≤ 0)) :=
  intercept_decodable_iff pending _ (by decide) (by decide)

-- Status 0 and no descriptor.
theorem not_intercept_decodable :
    ¬∀ r p, 5 ≤ p.length → r.resolveTake (p.getD 0 0) ≠ none →
      ∃ frame, intercepted r p = some frame ∧ Decodable frame.data := by
  intro h
  have hlen : 5 ≤ [0, 0, 0x34, 0x12, (0 : UInt8)].length := by decide
  obtain ⟨frame, hframe, hdata⟩ := h pending [0, 0, 0x34, 0x12, 0] hlen (by decide)
  obtain ⟨req, hsent⟩ := @intercepted_of_pending _ pending hlen (by decide)
  obtain rfl := Option.some.inj (hframe.symm.trans hsent)
  exact absurd ((decodable_simpleDescRsp_iff hlen).mp hdata rfl) (by decide)

theorem clusters_eq {list : List UInt16} {start count : Nat} (h : start + count ≤ list.length) :
    clusters list start count = words ((list.drop start).take count) := by
  have hentries : (list.drop start).take count =
      (List.range count).map fun i => list.getD (start + i) 0 := by
    apply List.ext_getElem?
    intro i
    by_cases hi : i < count
    · rw [List.getElem?_take_of_lt hi, List.getElem?_drop, List.getElem?_map,
        List.getElem?_range hi, Option.map_some, List.getD_eq_getElem?_getD,
        List.getElem?_eq_getElem (by omega), Option.getD_some]
    · rw [List.getElem?_eq_none (by rw [List.length_take]; omega),
        List.getElem?_eq_none (by rw [List.length_map, List.length_range]; omega)]
  rw [hentries, clusters, words, List.flatMap_map]

-- Everything in front of the number of output clusters.
def Wire.front (w : Wire) : List UInt8 :=
  [w.endpoint] ++ words [w.profileId, w.deviceId] ++ [w.version, UInt8.ofNat w.inputs.length] ++
    words w.inputs

variable {w : Wire} {trailing : List UInt8}

theorem Wire.bytes_eq (w : Wire) :
    w.bytes = w.front ++ ([UInt8.ofNat w.outputs.length] ++ words w.outputs) := by
  rw [bytes, front, List.append_assoc]

theorem Wire.length_front (w : Wire) : w.front.length = 7 + 2 * w.inputs.length := by
  simp only [front, List.length_append, length_words, List.length_cons, List.length_nil]

theorem Wire.length_bytes (w : Wire) : w.bytes.length = w.length := by
  simp only [bytes_eq, List.length_append, length_front, length_words, List.length_singleton,
    length]
  omega

theorem Wire.drop_outputs (w : Wire) (trailing : List UInt8) :
    (w.bytes ++ trailing).drop (8 + 2 * w.inputs.length) = words w.outputs ++ trailing := by
  rw [bytes_eq, show 8 + 2 * w.inputs.length = w.front.length + 1 by rw [length_front]; omega,
    List.append_assoc, ← List.drop_drop, List.drop_left]
  rfl

theorem toNat_ofNat_of_lt {count : Nat} (h : count < 256) : (UInt8.ofNat count).toNat = count := by
  rw [UInt8.toNat_ofNat']
  exact Nat.mod_eq_of_lt h

-- Neither count has to be cut back to the bytes that are there.
theorem countsOf_wire (w : Wire) (trailing : List UInt8) :
    countsOf (w.bytes ++ trailing) w.length = capCounts w.inputs.length w.outputs.length := by
  have hfits := w.fits
  have hinByte : (w.bytes ++ trailing).getD 6 0 = UInt8.ofNat w.inputs.length := rfl
  have hin : inCountOf (w.bytes ++ trailing) w.length = w.inputs.length := by
    rw [inCountOf, hinByte, toNat_ofNat_of_lt (by omega), Wire.length, if_neg (by omega)]
  have houtByte : (w.bytes ++ trailing).getD (7 + 2 * w.inputs.length) 0 =
      UInt8.ofNat w.outputs.length := by
    rw [Wire.bytes_eq, ← Wire.length_front, List.append_assoc, List.getD_eq_getElem?_getD,
      List.getElem?_append_right (Nat.le_refl _), Nat.sub_self]
    rfl
  have hout : outCountOf (w.bytes ++ trailing) w.length (7 + 2 * w.inputs.length) =
      w.outputs.length := by
    rw [outCountOf, houtByte, toNat_ofNat_of_lt (by omega), Wire.length, if_pos (by omega),
      if_neg (by omega)]
  rw [countsOf, hin, hout]

theorem simpleDescRsp_payload (w : Wire) (tsn : UInt8) (nwkAddr : UInt16) (trailing : List UInt8) :
    simpleDescRsp (w.payload tsn nwkAddr trailing) =
      [STATUS_CATEGORY_ZDO, 0] ++
        bodyWith (w.bytes ++ trailing) (capCounts w.inputs.length w.outputs.length) ++
        words [nwkAddr] := by
  have hfits := w.fits
  have hdrop : (w.payload tsn nwkAddr trailing).drop 5 = w.bytes ++ trailing := rfl
  have hnwk : ((w.payload tsn nwkAddr trailing).drop 2).take 2 = words [nwkAddr] := rfl
  have hdeclared : (w.payload tsn nwkAddr trailing).getD 4 0 = UInt8.ofNat w.length := rfl
  have hstatus : (w.payload tsn nwkAddr trailing).getD 1 0 = 0 := rfl
  have hlen : (w.payload tsn nwkAddr trailing).length - 5 = w.length + trailing.length := by
    rw [← List.length_drop, hdrop, List.length_append, Wire.length_bytes]
  have havail : min ((w.payload tsn nwkAddr trailing).length - 5)
      ((w.payload tsn nwkAddr trailing).getD 4 0).toNat = w.length := by
    rw [hlen, hdeclared, toNat_ofNat_of_lt (by rw [Wire.length]; exact w.fits)]
    omega
  rw [simpleDescRsp, havail, hstatus, hdrop, hnwk,
    if_pos ⟨rfl, by rw [Wire.length]; omega⟩, simpleDescBody_eq, countsOf_wire]

theorem formatResponse_resp (w : Wire) (tsn : UInt8) (nwkAddr : UInt16) :
    formatResponse (w.resp tsn nwkAddr) =
      let counts := capCounts w.inputs.length w.outputs.length
      [STATUS_CATEGORY_ZDO, 0] ++ ([w.endpoint] ++ words [w.profileId, w.deviceId] ++
        [w.version &&& 0x0F, UInt8.ofNat counts.1, UInt8.ofNat counts.2] ++
        words (w.inputs.take counts.1) ++ words (w.outputs.take counts.2)) ++ words [nwkAddr] := by
  have hfits := w.fits
  obtain ⟨hin, hout, -⟩ := capCounts_le w.inputs.length w.outputs.length
  have hinputs : clusters (w.inputs ++ w.outputs) 0
      (capCounts w.inputs.length w.outputs.length).1 =
      words (w.inputs.take (capCounts w.inputs.length w.outputs.length).1) := by
    rw [clusters_eq (by rw [List.length_append]; omega), List.drop_zero,
      List.take_append_of_le_length hin]
  have houtputs : clusters (w.inputs ++ w.outputs) w.inputs.length
      (capCounts w.inputs.length w.outputs.length).2 =
      words (w.outputs.take (capCounts w.inputs.length w.outputs.length).2) := by
    rw [clusters_eq (by rw [List.length_append]; omega), List.drop_left]
  simp only [formatResponse, Wire.resp, Wire.parsed,
    toNat_ofNat_of_lt (show w.inputs.length < 256 by omega),
    toNat_ofNat_of_lt (show w.outputs.length < 256 by omega), hinputs, houtputs, words_cons,
    words_nil, List.append_assoc, List.append_nil, List.cons_append, List.nil_append]

-- The intercept takes the first output clusters from behind `inCount` input
-- clusters and the count. Cut back, that many are not all of them.
def OutputsAgree (w : Wire) (inCount outCount : Nat) : Prop :=
  (w.bytes.drop (8 + 2 * inCount)).take (2 * outCount) = (words w.outputs).take (2 * outCount)

-- Only the bytes of the output clusters can be different.
theorem rsp_eq_iff (w : Wire) (tsn : UInt8) (nwkAddr : UInt16) (trailing : List UInt8) :
    simpleDescRsp (w.payload tsn nwkAddr trailing) = formatResponse (w.resp tsn nwkAddr) ↔
      let counts := capCounts w.inputs.length w.outputs.length
      ((w.bytes ++ trailing).drop (8 + 2 * counts.1)).take (2 * counts.2) =
        words (w.outputs.take counts.2) := by
  obtain ⟨hin, -, -⟩ := capCounts_le w.inputs.length w.outputs.length
  have hfields : (w.bytes ++ trailing).take 5 = [w.endpoint] ++ words [w.profileId, w.deviceId] :=
    rfl
  have hversion : (w.bytes ++ trailing).getD 5 0 = w.version := rfl
  have hinputs : ((w.bytes ++ trailing).drop 7).take
      (2 * (capCounts w.inputs.length w.outputs.length).1) =
      words (w.inputs.take (capCounts w.inputs.length w.outputs.length).1) := by
    have hdrop : (w.bytes ++ trailing).drop 7 = words w.inputs ++
        ([UInt8.ofNat w.outputs.length] ++ words w.outputs ++ trailing) := by
      rw [Wire.bytes_eq, Wire.front, List.append_assoc, List.append_assoc, List.append_assoc]
      rfl
    rw [hdrop, List.take_append_of_le_length (by rw [length_words]; omega), take_words]
  rw [simpleDescRsp_payload, formatResponse_resp, bodyWith, hfields, hversion, hinputs]
  simp only [List.append_assoc, List.append_cancel_left_eq]
  rw [List.append_cancel_right_eq]

theorem rsp_eq_iff_outputsAgree (w : Wire) (tsn : UInt8) (nwkAddr : UInt16)
    (trailing : List UInt8) :
    simpleDescRsp (w.payload tsn nwkAddr trailing) = formatResponse (w.resp tsn nwkAddr) ↔
      w.inputs.length + w.outputs.length ≤ 32 ∨ w.inputs.length ≤ 16 ∨
        OutputsAgree w (32 - min w.outputs.length 16) (min w.outputs.length 16) := by
  -- as long as no input cluster is cut off
  have hall (count : Nat) (hcount : count ≤ w.outputs.length) :
      ((w.bytes ++ trailing).drop (8 + 2 * w.inputs.length)).take (2 * count) =
        words (w.outputs.take count) := by
    rw [Wire.drop_outputs, List.take_append_of_le_length (by rw [length_words]; omega), take_words]
  rw [rsp_eq_iff, capCounts_eq]
  by_cases hfew : w.inputs.length + w.outputs.length ≤ 32
  · rw [if_pos hfew]
    exact iff_of_true (hall _ (Nat.le_refl _)) (.inl hfew)
  rw [if_neg hfew]
  by_cases hin : w.inputs.length ≤ 16
  · rw [if_pos hin]
    exact iff_of_true (hall _ (by omega)) (.inr (.inl hin))
  · rw [if_neg hin, or_iff_right hfew, or_iff_right hin, OutputsAgree]
    dsimp only
    have hlen := Wire.length_bytes w
    rw [Wire.length] at hlen
    rw [List.drop_append_of_le_length (by omega),
      List.take_append_of_le_length (by rw [List.length_drop]; omega), take_words]

-- The frames agree unless input clusters are cut off: then the intercept reads
-- the output clusters at the wrong place.
theorem intercept_agrees_iff (r : Resolver Arg) (w : Wire) (tsn : UInt8) (nwkAddr : UInt16)
    (trailing : List UInt8) (hpending : r.resolveTake tsn ≠ none) :
    intercepted r (w.payload tsn nwkAddr trailing) = ordinary r (w.resp tsn nwkAddr) ↔
      w.inputs.length + w.outputs.length ≤ 32 ∨ w.inputs.length ≤ 16 ∨
        OutputsAgree w (32 - min w.outputs.length 16) (min w.outputs.length 16) := by
  obtain ⟨⟨idx, req, rest⟩, hreq⟩ := Option.ne_none_iff_exists'.mp hpending
  have hlen : ¬(w.payload tsn nwkAddr trailing).length < 5 := Nat.not_lt.mpr (Nat.le_add_left 5 _)
  have htsn : (w.payload tsn nwkAddr trailing).getD 0 0 = tsn := rfl
  have hsent : ordinary r (w.resp tsn nwkAddr) =
      some { cmd := req.cmd.reply, data := formatResponse (w.resp tsn nwkAddr) } := by
    rw [ordinary, show (w.resp tsn nwkAddr).tsn = tsn from rfl, hreq]
    rfl
  rw [intercepted, if_neg hlen, htsn, hreq, Option.map_some, hsent, Option.some.injEq,
    Frame.mk.injEq, ← rsp_eq_iff_outputsAgree w tsn nwkAddr trailing]
  exact and_iff_right rfl

-- A light: seven input clusters and one output cluster.
theorem intercept_agrees_iff_light :
    let w : Wire := ⟨1, 0x0104, 0x0100, 0x01, [0, 3, 4, 5, 6, 8, 0x300], [0x19], by decide⟩
    intercepted pending (w.payload 0 0x1234 [0xff]) = ordinary pending (w.resp 0 0x1234) :=
  (intercept_agrees_iff pending _ 0 0x1234 [0xff] (by decide)).mpr (.inl (by decide))

-- One input cluster of 17 is cut off.
theorem not_intercept_agrees :
    ¬∀ r (w : Wire) tsn nwkAddr trailing, r.resolveTake tsn ≠ none →
      intercepted r (w.payload tsn nwkAddr trailing) = ordinary r (w.resp tsn nwkAddr) := by
  intro h
  let w : Wire :=
    ⟨1, 0x0104, 0x0100, 0x01, List.replicate 17 6, List.replicate 16 0x0500, by decide⟩
  have hdata : simpleDescRsp (w.payload 0 0x1234 []) = formatResponse (w.resp 0 0x1234) := by
    have hframe := h pending w 0 0x1234 [] (by decide)
    obtain ⟨req, hsent⟩ := @intercepted_of_pending (w.payload 0 0x1234 []) pending
      (by decide) (by decide)
    rw [hsent] at hframe
    exact congrArg Frame.data (Option.some.inj hframe)
  have hagree := (rsp_eq_iff_outputsAgree w 0 0x1234 []).mp hdata
  rw [OutputsAgree] at hagree
  exact absurd hagree (by decide)

end EspCoordinator.RequestProcess.SimpleDesc
