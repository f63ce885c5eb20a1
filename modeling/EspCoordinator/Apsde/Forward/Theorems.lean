import EspCoordinator.Apsde.Forward

namespace EspCoordinator.Apsde.Forward

open Bytes

variable {buffer : List UInt8}

section Layouts

theorem eq_block_append (bytes : List UInt8) (size : Nat) (h : size ≤ bytes.length) :
    bytes = block bytes 0 size ++ bytes.drop size := by
  apply List.ext_getElem?
  intro index
  by_cases hindex : index < size
  · rw [List.getElem?_append_left (by simpa [block] using hindex), block, List.getElem?_map,
      List.getElem?_range hindex, Option.map_some, Nat.zero_add, byte, List.getD_eq_getElem?_getD,
      List.getElem?_eq_getElem (by omega), Option.getD_some]
  · rw [List.getElem?_append_right (by simpa [block] using hindex), List.getElem?_drop]
    congr 1
    simp only [block, List.length_map, List.length_range]
    omega

theorem exists_eight {bytes : List UInt8} (h : bytes.length = 8) :
    ∃ a0 a1 a2 a3 a4 a5 a6 a7, bytes = [a0, a1, a2, a3, a4, a5, a6, a7] := by
  have hblock := eq_block_append bytes 8 h.ge
  rw [List.drop_of_length_le h.le, List.append_nil] at hblock
  exact ⟨_, _, _, _, _, _, _, _, hblock⟩

theorem toLE_half (arg : List UInt8) (pos : Nat) :
    toLE 2 (half arg pos).toNat = [byte arg pos, byte arg (pos + 1)] := by
  have hlt := ofLE_pair_lt (byte arg pos) (byte arg (pos + 1))
  have hvalue : (half arg pos).toNat = ofLE [byte arg pos, byte arg (pos + 1)] := by
    rw [half, UInt16.toNat_ofNat', Nat.mod_eq_of_lt hlt]
  rw [hvalue]
  exact toLE_ofLE [byte arg pos, byte arg (pos + 1)]

theorem ofNat_toLE (value : UInt16) : UInt16.ofNat (ofLE (toLE 2 value.toNat)) = value := by
  rw [ofLE_toLE 2 _ value.toNat_lt, UInt16.ofNat_toNat]

theorem toLE_dataLength (h : 3 ≤ buffer.length) :
    toLE 2 (dataLength buffer) = [byte buffer 1, byte buffer 2] := by
  have hbytes : (buffer.drop 1).take 2 = [byte buffer 1, byte buffer 2] := by
    conv_lhs => rw [eq_block_append buffer 3 h]
    rfl
  rw [dataLength, hbytes]
  exact toLE_ofLE [byte buffer 1, byte buffer 2]

theorem DataRequest.length_bytes (d : DataRequest) :
    d.bytes.length = (if d.base.dstEndpoint.isSome then ARG_SIZE else NEP_ARG_SIZE) +
      d.data.length := by
  have haddr := d.addr
  cases hdst : d.base.dstEndpoint <;>
    simp only [bytes, hdst, List.length_append, length_toLE, List.length_cons, List.length_nil,
      haddr, Option.toList_none, Option.toList_some, Option.isSome_none, Option.isSome_some,
      ARG_SIZE, NEP_ARG_SIZE, if_true, Bool.false_eq_true, if_false]

theorem DataRequest.paramLength_bytes (d : DataRequest) (tail : List UInt8) :
    Apsde.paramLength (d.bytes ++ tail) = paramLength d.base.dstEndpoint := rfl

theorem DataRequest.dataLength_bytes (d : DataRequest) (tail : List UInt8) :
    dataLength (d.bytes ++ tail) = d.data.length := by
  have hmost := d.most
  have hlength : dataLength (d.bytes ++ tail) = ofLE (toLE 2 d.data.length) := rfl
  rw [hlength, ofLE_toLE]
  exact Nat.lt_of_le_of_lt hmost (by decide)

-- Every field is found where the encoder has put it, whatever follows the
-- frame in the slot.
theorem layout_bytes (d : DataRequest) (tail : List UInt8) :
    layout (d.bytes ++ tail) d.base.dstEndpoint (if d.base.dstEndpoint.isSome then 16 else 15) =
      { dataLength := d.data.length, base := d.base,
        data := (d.data ++ tail).take MAX_APSDE_DATA_REQ_SIZE } := by
  rw [layout, d.dataLength_bytes tail]
  obtain ⟨⟨addr, profile, cluster, dst, src, radius, mode, tx, use, source, seq⟩, data, haddr,
    -, -⟩ := d
  have hprofile := ofNat_toLE profile
  have hcluster := ofNat_toLE cluster
  have hsource := ofNat_toLE source
  simp only [toLE] at hprofile hcluster hsource
  obtain ⟨a0, a1, a2, a3, a4, a5, a6, a7, rfl⟩ := exists_eight haddr
  cases dst with
  | none =>
      simp only [DataRequest.bytes, toLE, List.cons_append, List.nil_append, Option.toList_none,
        Option.isSome_none, if_false, Bool.false_eq_true, block, half, byte, Nat.reduceAdd,
        List.getD_cons_succ, List.getD_cons_zero, hprofile, hcluster, hsource,
        List.drop_succ_cons, List.drop_zero]
      rfl
  | some dst =>
      simp only [DataRequest.bytes, toLE, List.cons_append, List.nil_append, Option.toList_some,
        Option.isSome_some, if_true, block, half, byte, Nat.reduceAdd, List.getD_cons_succ,
        List.getD_cons_zero, hprofile, hcluster, hsource, List.drop_succ_cons, List.drop_zero]
      rfl

theorem byte_dstEndpoint (d : DataRequest) (tail : List UInt8) {dst : UInt8}
    (hdst : d.base.dstEndpoint = some dst) : byte (d.bytes ++ tail) 15 = dst := by
  obtain ⟨⟨addr, profile, cluster, endpoint, src, radius, mode, tx, use, source, seq⟩, data, haddr,
    hleast, hmost⟩ := d
  obtain rfl : endpoint = some dst := hdst
  obtain ⟨a0, a1, a2, a3, a4, a5, a6, a7, rfl⟩ := exists_eight haddr
  rfl

theorem doRequest_bytes (isBroadcast : UInt16 → Bool) (d : DataRequest) (tail : List UInt8) :
    doRequest isBroadcast (d.bytes ++ tail) =
      startRequest isBroadcast
        { dataLength := d.data.length, base := d.base,
          data := (d.data ++ tail).take MAX_APSDE_DATA_REQ_SIZE } := by
  have hlayout := layout_bytes d tail
  rw [doRequest, d.paramLength_bytes]
  cases hdst : d.base.dstEndpoint with
  | none =>
      rw [hdst] at hlayout
      rw [← hlayout]
      rfl
  | some dst =>
      rw [hdst] at hlayout
      rw [← hlayout, maxArg, byte_dstEndpoint d tail hdst]
      rfl

end Layouts

section Grammar

-- A payload whose checks are passed reads as a frame. `pos` is where the fields
-- behind the endpoint start.
theorem exists_frame (dstEndpoint : Option UInt8) (pos : Nat) (hthree : 3 ≤ buffer.length)
    (hparam : paramLength buffer = DataRequest.paramLength dstEndpoint)
    (hbuffer : buffer =
      block buffer 0 15 ++ dstEndpoint.toList ++ block buffer pos 8 ++ buffer.drop (pos + 8))
    (hlength : dataLength buffer = buffer.length - (pos + 8)) (hleast : 2 ≤ dataLength buffer)
    (hmost : dataLength buffer ≤ MAX_APSDE_DATA_REQ_SIZE) :
    ∃ d : DataRequest, buffer = d.bytes := by
  have hdata : (buffer.drop (pos + 8)).length = dataLength buffer := by
    rw [List.length_drop, hlength]
  have hfirst : byte buffer 0 = DataRequest.paramLength dstEndpoint := hparam
  refine ⟨{ base := (layout buffer dstEndpoint pos).base, data := buffer.drop (pos + 8),
            addr := rfl, least := hdata ▸ hleast, most := hdata ▸ hmost }, ?_⟩
  conv_lhs => rw [hbuffer]
  simp only [DataRequest.bytes, hdata, toLE_dataLength hthree, layout, toLE_half, ← hfirst,
    List.append_assoc]
  rfl

theorem paramLength_frame (d : DataRequest) :
    paramLength d.bytes = DataRequest.paramLength d.base.dstEndpoint := by
  simpa using d.paramLength_bytes []

theorem dataLength_frame (d : DataRequest) : dataLength d.bytes = d.data.length := by
  simpa using d.dataLength_bytes []

theorem hdrSize_bytes (d : DataRequest) :
    hdrSize d.bytes = if d.base.dstEndpoint.isSome then ARG_SIZE else NEP_ARG_SIZE := by
  rw [hdrSize, paramLength_frame]
  cases d.base.dstEndpoint <;> rfl

theorem checkFrame_bytes (d : DataRequest) : checkFrame d.bytes = true := by
  have hdata := dataLength_frame d
  have hleast := d.least
  have hmost := d.most
  have hlen : d.bytes.length = hdrSize d.bytes + d.data.length := by
    rw [hdrSize_bytes, d.length_bytes]
  have hsize : hdrSize d.bytes = NEP_ARG_SIZE ∨ hdrSize d.bytes = ARG_SIZE := by
    rw [hdrSize_bytes]
    cases d.base.dstEndpoint with
    | none => exact .inl rfl
    | some dst => exact .inr rfl
  have hparam : ¬(paramLength d.bytes ≠ 20 ∧ paramLength d.bytes ≠ 21) := by
    rw [paramLength_frame]
    cases d.base.dstEndpoint with
    | none => exact fun h => h.1 rfl
    | some dst => exact fun h => h.2 rfl
  simp only [NEP_ARG_SIZE, ARG_SIZE, MAX_APSDE_DATA_REQ_SIZE] at hsize hmost
  have hshort : ¬d.bytes.length < NEP_ARG_SIZE := by
    simp only [NEP_ARG_SIZE]
    omega
  have hlong : ¬d.bytes.length > MAX_ARG_SIZE := by
    simp only [MAX_ARG_SIZE, ARG_SIZE, MAX_APSDE_DATA_REQ_SIZE]
    omega
  have hexact : ¬(dataLength d.bytes ≠ d.bytes.length - hdrSize d.bytes ∨
      dataLength d.bytes > MAX_APSDE_DATA_REQ_SIZE) := by
    simp only [MAX_APSDE_DATA_REQ_SIZE]
    omega
  rw [checkFrame, if_neg hshort, if_neg hlong, if_neg hparam, if_neg (by omega), if_neg hexact,
    if_neg (by omega)]

-- The checks of process let through what is in the grammar, and nothing else.
theorem checkFrame_iff (buffer : List UInt8) :
    checkFrame buffer = true ↔ ∃ d : DataRequest, buffer = d.bytes := by
  constructor
  · intro h
    unfold checkFrame at h
    split_ifs at h with hshort hlong hparam hhdr hdata hless
    obtain ⟨hlength, hmost⟩ := not_or.mp hdata
    have hleast := Nat.not_lt.mp hless
    rcases not_and_or.mp hparam with hparam | hparam
    · have hsize : hdrSize buffer = NEP_ARG_SIZE := by
        rw [hdrSize, not_not.mp hparam]
        rfl
      have hlen := Nat.not_lt.mp hshort
      rw [hsize] at hlength
      exact exists_frame none 15 (Nat.le_trans (by decide) hlen) (not_not.mp hparam)
        (eq_block_append buffer NEP_ARG_SIZE hlen) (not_not.mp hlength) hleast (Nat.not_lt.mp hmost)
    · have hsize : hdrSize buffer = ARG_SIZE := if_pos (not_not.mp hparam)
      rw [hsize] at hlength hhdr
      have hlen := Nat.not_lt.mp hhdr
      exact exists_frame (some (byte buffer 15)) 16 (Nat.le_trans (by decide) hlen)
        (not_not.mp hparam) (eq_block_append buffer ARG_SIZE hlen) (not_not.mp hlength) hleast
        (Nat.not_lt.mp hmost)
  · rintro ⟨d, rfl⟩
    exact checkFrame_bytes d

end Grammar

section Sends

theorem isUnicast_iff (isBroadcast : UInt16 → Bool) (d : DataRequest) :
    isUnicast isBroadcast d.base.addrMode d.base.addrData = true ↔ d.Unicast isBroadcast := by
  have hshort : half d.base.addrData 0 = UInt16.ofNat (ofLE (d.base.addrData.take 2)) := by
    obtain ⟨a0, a1, a2, a3, a4, a5, a6, a7, haddr⟩ := exists_eight d.addr
    rw [haddr]
    rfl
  simp only [isUnicast, DataRequest.Unicast, Bool.or_eq_true, Bool.and_eq_true, beq_iff_eq,
    Bool.not_eq_true', hshort, ZB_APS_ADDR_MODE_64_ENDP_PRESENT, ZB_APS_ADDR_MODE_16_ENDP_PRESENT]

theorem getDstEndpoint_eq (base : Base) : getDstEndpoint base = base.dstEndpoint.getD 0 := by
  rw [getDstEndpoint]
  cases base.dstEndpoint <;> rfl

-- Both paths are given the fields of the frame and its payload.
theorem startRequest_delivered (isBroadcast : UInt16 → Bool) (d : DataRequest) {data : List UInt8}
    (hdata : data.take d.data.length = d.data) :
    (startRequest isBroadcast { dataLength := d.data.length, base := d.base, data }).map
        Call.delivered =
      if d.TooLong isBroadcast then none else some (d.delivered isBroadcast) := by
  have hsecured : (d.base.txOptions &&& APSDE_TX_OPT_SECURITY ≠ 0 ∧
      isUnicast isBroadcast d.base.addrMode d.base.addrData = true) ↔ d.Secured isBroadcast :=
    and_congr_right fun _ => isUnicast_iff isBroadcast d
  simp only [startRequest, hsecured, sendApsSecured, hdata]
  by_cases hpath : d.Secured isBroadcast
  · by_cases hlong : d.data.length > APS_USER_PAYLOAD_MAX
    · have htoo : d.TooLong isBroadcast := ⟨hpath, hlong⟩
      rw [if_pos hpath, if_pos hlong, if_pos htoo]
      rfl
    · have hfits : ¬d.TooLong isBroadcast := fun h => hlong h.2
      rw [if_pos hpath, if_neg hlong, if_neg hfits]
      simp only [Option.map_some, Call.delivered, DataRequest.delivered, getDstEndpoint_eq,
        Option.getD_some, hpath, decide_true]
  · have hplain : ¬d.TooLong isBroadcast := fun h => hpath h.1
    rw [if_neg hpath, if_neg hplain]
    simp only [Option.map_some, Call.delivered, DataRequest.delivered, getDstEndpoint_eq, hpath,
      decide_false]

-- The slot has the bytes of the frame, and behind them those of an earlier one.
theorem doRequest_delivered (isBroadcast : UInt16 → Bool) (d : DataRequest) (stale : Arg) :
    (doRequest isBroadcast (copyArg stale d.bytes)).map Call.delivered =
      if d.TooLong isBroadcast then none else some (d.delivered isBroadcast) := by
  rw [copyArg, doRequest_bytes]
  apply startRequest_delivered
  rw [List.take_take, Nat.min_eq_left d.most, List.take_left]

end Sends

end EspCoordinator.Apsde.Forward
