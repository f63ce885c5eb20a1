import EspCoordinator.ZbossSerial.Lemmas

namespace EspCoordinator.ZbossSerial

open Bytes
open Protocol (NcpHeader HeaderOk findSignature NeverOverflows)

-- A frame as one of the two parsers recognises it: its place in the stream,
-- its is_nack bit, and whether a payload was found behind it and was intact.
structure Recognised where
  start : Nat
  stop : Nat
  isNack : Bool
  payloadOk : Option Bool
deriving DecidableEq, Repr

def firmwareFrame : Protocol.Item × Nat → Option Recognised
  | (.skip, _) => none
  | (.empty hdr, stop) =>
      some { start := stop - (hdr.packetLen.toNat + 2), stop, isNack := hdr.isNack,
             payloadOk := none }
  | (.badData hdr, stop) =>
      some { start := stop - (hdr.packetLen.toNat + 2), stop, isNack := hdr.isNack,
             payloadOk := some false }
  | (.packet hdr _, stop) =>
      some { start := stop - (hdr.packetLen.toNat + 2), stop, isNack := hdr.isNack,
             payloadOk := some true }

-- The frames that the calls of on_rx_int recognise.
def firmwareFrames (received : Nat) (s : Protocol.State) : List (List UInt8) → List Recognised
  | [] => []
  | data :: rest =>
      let received := received + data.length
      (Protocol.scanner.cutAt received (Protocol.appendRx s.rxBuffer data)).1.filterMap
          firmwareFrame ++
        firmwareFrames received (Protocol.onRxInt s data).1 rest

-- A payload is acknowledged before its CRC is checked.
def payloadOk : List Action → Option Bool
  | .write _ :: .logCrcMismatch :: _ => some false
  | .write _ :: _ => some true
  | _ => none

def webItems (s : State) : List (Item × Nat) → List Recognised
  | [] => []
  | (.skip, _) :: rest => webItems s rest
  | (.frame packet_len frame, stop) :: rest =>
      let (next, actions) := onFrame s packet_len frame
      { start := stop - frame.length, stop, isNack := (flags (frame.getD 5 0)).isNACK,
        payloadOk := payloadOk actions } :: webItems next rest

-- The frames that the calls of processBuffer recognise.
def webFrames (received : Nat) (s : State) : List (List UInt8) → List Recognised
  | [] => []
  | value :: rest =>
      let received := received + value.length
      webItems s (scanner.cutAt received (s.buffer ++ value)).1 ++
        webFrames received (read s value).1 rest

-- The web page takes every frame with is_nack for a NACK and does not look at
-- a payload behind it.
def Recognised.hideNacked (frame : Recognised) : Recognised :=
  if frame.isNack then { frame with payloadOk := none } else frame

theorem payloadOk_onFrame (s : State) (packet_len : Nat) (frame : List UInt8) :
    payloadOk (onFrame s packet_len frame).2 =
      if (flags (frame.getD 5 0)).isNACK ∨ packet_len ≤ 5 then none
      else some (decide ((crc16 (frame.drop 9)).toNat = getUint16 frame 7)) := by
  unfold onFrame
  generalize flags (frame.getD 5 0) = bits
  dsimp only
  by_cases hnack : bits.isNACK = true
  · rw [if_pos hnack, if_pos (Or.inl hnack)]
    rfl
  rw [if_neg hnack]
  by_cases hlen : packet_len ≤ 5
  · rw [if_pos (Or.inr hlen), if_neg (show ¬packet_len > 5 by omega), ite_self]
    rfl
  · rw [if_neg (show ¬(bits.isACK = true ∧ packet_len = 5) by omega),
      if_pos (show packet_len > 5 by omega),
      if_neg (show ¬(bits.isNACK = true ∨ packet_len ≤ 5) by simp [hnack, hlen])]
    by_cases hcrc : (crc16 (frame.drop 9)).toNat = getUint16 frame 7
    · rw [if_neg (not_not.mpr hcrc)]
      unfold deliver
      split
      · simp [hcrc, payloadOk]
      · split <;> simp [hcrc, payloadOk]
    · rw [if_pos hcrc]
      simp [hcrc, payloadOk]

def webFrame : Item × Nat → Option Recognised
  | (.skip, _) => none
  | (.frame packet_len frame, stop) =>
      some { start := stop - frame.length, stop, isNack := (flags (frame.getD 5 0)).isNACK,
             payloadOk :=
              if (flags (frame.getD 5 0)).isNACK ∨ packet_len ≤ 5 then none
              else some (decide ((crc16 (frame.drop 9)).toNat = getUint16 frame 7)) }

-- What is recognised does not depend on the state of the requests.
theorem webItems_eq (s : State) (items : List (Item × Nat)) :
    webItems s items = items.filterMap webFrame := by
  induction items generalizing s with
  | nil => rfl
  | cons at_ rest ih =>
      obtain ⟨it, stop⟩ := at_
      cases it with
      | skip => simp only [webItems, ih, List.filterMap_cons, webFrame]
      | frame packet_len frame =>
          simp only [webItems, ih, payloadOk_onFrame, List.filterMap_cons, webFrame]

theorem webFrames_eq (received : Nat) (s : State) (chunks : List (List UInt8)) :
    webFrames received s chunks =
      (scanner.feed received s.buffer chunks).1.filterMap webFrame := by
  induction chunks generalizing received s with
  | nil => rfl
  | cons value rest ih =>
      have hbuffer : (read s value).1.buffer =
          (scanner.cutAt (received + value.length) (s.buffer ++ value)).2 := by
        rw [read_eq, scanner.cutAt_snd]
      simp only [webFrames, webItems_eq, ih, hbuffer, Scanner.feed, List.filterMap_append]

theorem firmwareFrames_eq (received : Nat) {s : Protocol.State} {chunks : List (List UInt8)}
    (h : NeverOverflows s chunks) :
    firmwareFrames received s chunks =
      (Protocol.scanner.feed received s.rxBuffer chunks).1.filterMap firmwareFrame := by
  induction chunks generalizing received s with
  | nil => rfl
  | cons data rest ih =>
      have hbuffer : (Protocol.onRxInt s data).1.rxBuffer =
          (Protocol.scanner.cutAt (received + data.length) (s.rxBuffer ++ data)).2 := by
        rw [Protocol.onRxInt_eq, Protocol.appendRx_fits h.head, Protocol.scanner.cutAt_snd]
      simp only [firmwareFrames, Protocol.appendRx_fits h.head, ih _ h.tail, hbuffer, Scanner.feed,
        List.filterMap_append]

variable {stream p : List UInt8}

theorem getUint16_lt (p : List UInt8) (pos : Nat) : getUint16 p pos < 65536 := by
  have hlt := ofLE_lt ((p.drop pos).take 2)
  have hle : ((p.drop pos).take 2).length ≤ 2 := by simp
  have hpow := Nat.pow_le_pow_right (show 0 < 256 by decide) hle
  simp only [getUint16]
  omega

theorem toNat_getUint16 (p : List UInt8) (pos : Nat) :
    (UInt16.ofNat (ofLE ((p.drop pos).take 2))).toNat = getUint16 p pos := by
  have hlt := getUint16_lt p pos
  rw [UInt16.toNat_ofNat', ← getUint16]
  omega

theorem packetLen_read (p : List UInt8) :
    (NcpHeader.read p).packetLen.toNat = getUint16 p 2 :=
  toNat_getUint16 p 2

theorem headerOk_iff (p : List UInt8) :
    HeaderOk p ↔ crc8 ((p.drop 2).take 4) = p.getD 6 0 := by
  rw [HeaderOk, crc8_eq]
  rfl

theorem flags_read (p : List UInt8) :
    flags (p.getD 5 0) =
      { isACK := (NcpHeader.read p).isAck, isNACK := (NcpHeader.read p).isNack
        sequence := (NcpHeader.read p).packetSeq, ackSeq := (NcpHeader.read p).ackSeq } := by
  have hbits : ∀ n : Fin 256,
      flags (UInt8.ofNat n) =
        { isACK := n.val.testBit 0, isNACK := n.val.testBit 1
          sequence := Fin.ofNat 4 (n.val / 4), ackSeq := Fin.ofNat 4 (n.val / 16) } := by
    decide +kernel
  have hbyte := hbits ⟨(p.getD 5 0).toNat, (p.getD 5 0).toNat_lt⟩
  rwa [UInt8.ofNat_toNat] at hbyte

-- The flags of a frame that has been taken out of the buffer.
theorem flags_take {count : Nat} (h : 6 ≤ count) :
    flags ((p.take count).getD 5 0) = flags (p.getD 5 0) := by
  rw [List.getD_eq_getElem?_getD, List.getD_eq_getElem?_getD, List.getElem?_take_of_lt (by omega)]

theorem crc16_agrees (p : List UInt8) {packet_len : Nat} (h : 7 ≤ packet_len) :
    (crc16 ((p.take (packet_len + 2)).drop 9)).toNat = getUint16 (p.take (packet_len + 2)) 7 ↔
      Utils.crc16 ((p.drop 9).take (packet_len - 5 - 2)) =
        UInt16.ofNat (ofLE ((p.drop 7).take 2)) := by
  have hdata : (p.take (packet_len + 2)).drop 9 = (p.drop 9).take (packet_len - 5 - 2) := by
    rw [List.drop_take, show packet_len + 2 - 9 = packet_len - 5 - 2 by omega]
  have hfield : getUint16 (p.take (packet_len + 2)) 7 = getUint16 p 7 := by
    rw [getUint16, List.drop_take, List.take_take, min_eq_left (by omega), getUint16]
  rw [hdata, hfield, crc16_eq, ← toNat_getUint16 p 7, UInt16.toNat_inj]

-- A frame with a payload is taken with the verdict of its CRC16.
theorem payload_agrees (ok : Bool) (hstart : findStart p = some p) (hlen : 7 ≤ p.length)
    (hhdr : HeaderOk p) (hshort : ¬p.length < getUint16 p 2 + 2) (hge : 7 ≤ getUint16 p 2)
    (hok : Utils.crc16 ((p.drop 9).take (getUint16 p 2 - 5 - 2)) =
      UInt16.ofNat (ofLE ((p.drop 7).take 2)) ↔ ok = true) :
    ∃ found, scan p = .item found (p.drop (7 + 2 + (getUint16 p 2 - 5 - 2))) ∧
      ∀ stop, webFrame (found, stop) =
        some (Recognised.hideNacked
          { start := stop - (getUint16 p 2 + 2), stop, isNack := (NcpHeader.read p).isNack,
            payloadOk := some ok }) := by
  have hframe : (p.take (getUint16 p 2 + 2)).length = getUint16 p 2 + 2 := by simp; omega
  rw [scan_of_signature hstart hlen, if_neg (by omega),
    if_neg (not_not.mpr ((headerOk_iff p).mp hhdr)), if_neg hshort]
  refine ⟨_, by rw [show 7 + 2 + (getUint16 p 2 - 5 - 2) = getUint16 p 2 + 2 by omega],
    fun stop => ?_⟩
  simp only [webFrame, hframe, flags_take (show 6 ≤ getUint16 p 2 + 2 by omega), flags_read,
    crc16_agrees p hge, hok, Recognised.hideNacked]
  by_cases hnack : (NcpHeader.read p).isNack = true
  · simp [hnack]
  · simp [hnack, show ¬getUint16 p 2 ≤ 5 by omega]

-- Both parsers take the same frame, and take it to the same end.
theorem scan_agrees {it : Protocol.Item} {rest : List UInt8}
    (h : Protocol.scan stream = .item it rest) :
    ∃ found, scan stream = .item found rest ∧
      ∀ stop, webFrame (found, stop) = (firmwareFrame (it, stop)).map Recognised.hideNacked := by
  obtain ⟨p, hp, hlen, -, -⟩ := Protocol.scan_item h
  have hstart := findStart_of_findSignature hp (by omega)
  rw [Protocol.scan_eq_of_findSignature hp hlen,
    Protocol.scan_of_signature (Protocol.findSignature_self hp) hlen] at h
  rw [scan_eq_of_findStart hstart hlen]
  have hstart := findStart_self hstart
  have hsize : Protocol.HEADER_SIZE = 7 := rfl
  have hread := packetLen_read p
  dsimp only at h
  rw [hread] at h
  split_ifs at h with hhdr hshort hempty hbad hdata
  all_goals
    obtain ⟨rfl, rfl⟩ := Scan.item.inj h
  · rw [scan_of_signature hstart hlen, if_neg (by omega),
      if_neg (not_not.mpr ((headerOk_iff p).mp hhdr)), if_neg hshort, hempty]
    refine ⟨_, rfl, fun stop => ?_⟩
    have hframe : (p.take (5 + 2)).length = 5 + 2 := by simp; omega
    simp only [webFrame, firmwareFrame, hframe, hread, hempty,
      flags_take (show 6 ≤ 5 + 2 by decide), flags_read]
    simp [Recognised.hideNacked]
  · rw [scan_of_signature hstart hlen, if_pos ⟨hempty, hbad⟩]
    exact ⟨.skip, rfl, fun _ => rfl⟩
  · obtain ⟨found, hfound, hframe⟩ := payload_agrees false hstart hlen hhdr hshort
      (by omega) (by simpa [hsize] using hdata)
    refine ⟨found, by rw [hfound, hsize], fun stop => ?_⟩
    rw [hframe stop, firmwareFrame, hread, Option.map_some]
  · obtain ⟨found, hfound, hframe⟩ := payload_agrees true hstart hlen hhdr hshort
      (by omega) (by simpa [hsize] using hdata)
    refine ⟨found, by rw [hfound, hsize], fun stop => ?_⟩
    rw [hframe stop, firmwareFrame, hread, Option.map_some]
  · refine ⟨.skip, ?_, fun _ => rfl⟩
    rw [scan_of_signature hstart hlen]
    by_cases hbad : getUint16 p 2 ≠ 5 ∧ getUint16 p 2 < 7
    · rw [if_pos hbad]
    · rw [if_neg hbad, if_pos (mt (headerOk_iff p).mpr hhdr)]

-- Where the firmware waits, no frame of the web page is left. It may still
-- skip a malformed length of 6 for which the firmware wants one more byte.
theorem webFrames_of_wait {tail : List UInt8} (received : Nat)
    (h : Protocol.scan stream = .wait tail) :
    (scanner.cutAt received stream).1.filterMap webFrame = [] := by
  cases hstart : findStart stream with
  | none => rw [finds_scanner.cutAt_none received hstart]; rfl
  | some p =>
      have hp := findSignature_of_findStart hstart
      rw [finds_scanner.cutAt_some received hstart]
      have hstart := findStart_self hstart
      by_cases hlen : p.length < 7
      · obtain ⟨tail, hs⟩ := scan_wait_of_short hstart hlen
        rw [scanner.cutAt_wait hs]
        rfl
      rw [Protocol.scan_eq_of_findSignature hp (by omega),
        Protocol.scan_of_signature (Protocol.findSignature_self hp) (by omega)] at h
      dsimp only at h
      rw [packetLen_read] at h
      split_ifs at h with hhdr hshort
      have hs := scan_of_signature hstart (by omega)
      rw [if_neg (not_not.mpr ((headerOk_iff p).mp hhdr)), if_pos hshort] at hs
      by_cases hbad : getUint16 p 2 ≠ 5 ∧ getUint16 p 2 < 7
      · rw [if_pos hbad] at hs
        have hrest : scan (p.drop 2) = .wait (p.drop 2) := by
          rw [scan, if_pos (by simp; omega)]
        rw [scanner.cutAt_item hs, scanner.cutAt_wait hrest]
        rfl
      · rw [if_neg hbad] at hs
        rw [scanner.cutAt_wait hs]
        rfl

theorem cutAt_agrees (received : Nat) (stream : List UInt8) :
    (scanner.cutAt received stream).1.filterMap webFrame =
      ((Protocol.scanner.cutAt received stream).1.filterMap firmwareFrame).map
        Recognised.hideNacked := by
  induction stream using Protocol.scanner.cut_induction with
  | hwait stream tail hs =>
      rw [webFrames_of_wait received hs, Protocol.scanner.cutAt_wait hs]
      rfl
  | hitem stream it rest hs ih =>
      obtain ⟨found, hfound, hframe⟩ := scan_agrees hs
      rw [scanner.cutAt_item hfound, Protocol.scanner.cutAt_item hs]
      simp only [List.filterMap_cons, hframe, ih]
      cases firmwareFrame (it, received - rest.length) <;> simp

def Recognised.bytes (stream : List UInt8) (frame : Recognised) : List UInt8 :=
  (stream.drop frame.start).take (frame.stop - frame.start)

-- The range holds a frame with a valid header, and the verdict on its payload
-- is that of its CRC16.
structure IsFrame (stream : List UInt8) (frame : Recognised) : Prop where
  signature : (frame.bytes stream).take 2 = [0xde, 0xad]
  headerOk : HeaderOk (frame.bytes stream)
  length : (frame.bytes stream).length = getUint16 (frame.bytes stream) 2 + 2
  packetLen : getUint16 (frame.bytes stream) 2 = 5 ∨ 7 ≤ getUint16 (frame.bytes stream) 2
  isNack : frame.isNack = (NcpHeader.read (frame.bytes stream)).isNack
  payloadOk : frame.payloadOk =
    if getUint16 (frame.bytes stream) 2 = 5 then none
    else some (decide ((crc16 ((frame.bytes stream).drop 9)).toNat =
      getUint16 (frame.bytes stream) 7))

theorem isFrame_of_suffix {frame : Recognised} (hp : p <:+ stream)
    (hsig : p.take 2 = [0xde, 0xad]) (hhdr : HeaderOk p)
    (hlen : getUint16 p 2 = 5 ∨ 7 ≤ getUint16 p 2) (hfit : getUint16 p 2 + 2 ≤ p.length)
    (hstop : frame.stop = stream.length - (p.drop (getUint16 p 2 + 2)).length)
    (hstart : frame.start = frame.stop - (getUint16 p 2 + 2))
    (hnack : frame.isNack = (NcpHeader.read p).isNack)
    (hok : frame.payloadOk =
      if getUint16 p 2 = 5 then none
      else some (decide ((crc16 ((p.take (getUint16 p 2 + 2)).drop 9)).toNat =
        getUint16 (p.take (getUint16 p 2 + 2)) 7))) : IsFrame stream frame := by
  obtain ⟨front, rfl⟩ := hp
  have hbytes : frame.bytes (front ++ p) = p.take (getUint16 p 2 + 2) := by
    rw [List.length_append, List.length_drop] at hstop
    rw [Recognised.bytes, show frame.start = front.length by omega, List.drop_left,
      show frame.stop - front.length = getUint16 p 2 + 2 by omega]
  have hsplit := List.take_append_drop (getUint16 p 2 + 2) p
  have hsize : (p.take (getUint16 p 2 + 2)).length = getUint16 p 2 + 2 := by simp; omega
  have hfield : getUint16 (p.take (getUint16 p 2 + 2)) 2 = getUint16 p 2 := by
    rw [← getUint16_append (p.drop (getUint16 p 2 + 2)) (by omega), hsplit]
  have hread : NcpHeader.read (p.take (getUint16 p 2 + 2)) = NcpHeader.read p := by
    rw [← NcpHeader.read_append (p.drop (getUint16 p 2 + 2)) (by omega), hsplit]
  constructor
  · rw [hbytes, List.take_take, min_eq_left (by omega), hsig]
  · rw [hbytes, ← Protocol.headerOk_append (p.drop (getUint16 p 2 + 2)) (by omega), hsplit]
    exact hhdr
  · rw [hbytes, hfield, hsize]
  · rw [hbytes, hfield]
    exact hlen
  · rw [hbytes, hread, hnack]
  · rw [hbytes, hfield, hok]

theorem isFrame_of_scan {found rest : List UInt8} {it : Protocol.Item} {frame : Recognised}
    (hfound : found <:+ stream) (hscan : Protocol.scan found = .item it rest)
    (hframe : firmwareFrame (it, stream.length - rest.length) = some frame) :
    IsFrame stream frame := by
  obtain ⟨p, hp, hlen, -, -⟩ := Protocol.scan_item hscan
  obtain ⟨hsuffix, hsig⟩ := Protocol.findSignature_spec hp
  have hsig : p.take 2 = [0xde, 0xad] := by
    rcases hsig with rfl | ⟨tail, rfl⟩
    · simp at hlen
    · rfl
  rw [Protocol.scan_eq_of_findSignature hp hlen,
    Protocol.scan_of_signature (Protocol.findSignature_self hp) hlen] at hscan
  have hread := packetLen_read p
  have hsize : Protocol.HEADER_SIZE = 7 := rfl
  have hp := hsuffix.trans hfound
  dsimp only at hscan
  rw [hread] at hscan
  split_ifs at hscan with hhdr hshort hempty hbad hdata
  all_goals
    obtain ⟨rfl, rfl⟩ := Scan.item.inj hscan
  · cases hframe
    refine isFrame_of_suffix hp hsig hhdr (Or.inl hempty) (by omega) ?_ (by rw [hread]) rfl
      (by rw [if_pos hempty])
    rw [hempty, hsize]
  · simp [firmwareFrame] at hframe
  · have hcrc := crc16_agrees p (show 7 ≤ getUint16 p 2 by omega)
    cases hframe
    refine isFrame_of_suffix hp hsig hhdr (Or.inr (by omega)) (by omega) ?_ (by rw [hread]) rfl ?_
    · rw [show Protocol.HEADER_SIZE + 2 + (getUint16 p 2 - 5 - 2) = getUint16 p 2 + 2 by omega]
    · rw [if_neg hempty, decide_eq_false (mt hcrc.mp hdata)]
  · have hcrc := crc16_agrees p (show 7 ≤ getUint16 p 2 by omega)
    cases hframe
    refine isFrame_of_suffix hp hsig hhdr (Or.inr (by omega)) (by omega) ?_ (by rw [hread]) rfl ?_
    · rw [show Protocol.HEADER_SIZE + 2 + (getUint16 p 2 - 5 - 2) = getUint16 p 2 + 2 by omega]
    · rw [if_neg hempty, decide_eq_true (hcrc.mpr (not_not.mp hdata))]
  · simp [firmwareFrame] at hframe

theorem scan_suffix {found rest : List UInt8} {it : Protocol.Item}
    (h : Protocol.scan found = .item it rest) : rest <:+ found := by
  obtain ⟨p, hp, -, hsuffix, -⟩ := Protocol.scan_item h
  exact hsuffix.trans (Protocol.findSignature_spec hp).1

theorem firmwareFrames_of_stream {chunks : List (List UInt8)}
    (hfits : NeverOverflows Protocol.initInt chunks) :
    firmwareFrames 0 Protocol.initInt chunks =
      (Protocol.scanner.cutAt chunks.flatten.length chunks.flatten).1.filterMap firmwareFrame := by
  have hnone : (Protocol.scanner.cut Protocol.initInt.rxBuffer).1 = [] := by
    rw [Protocol.initInt, Protocol.cut_nil]
  rw [firmwareFrames_eq 0 hfits, Protocol.incremental_scanner.feed_eq 0 chunks hnone, Nat.zero_add]
  rfl

theorem webFrames_of_stream (chunks : List (List UInt8)) :
    webFrames 0 init chunks =
      (scanner.cutAt chunks.flatten.length chunks.flatten).1.filterMap webFrame := by
  have hnone : (scanner.cut init.buffer).1 = [] := by
    have hs : scanner.scan init.buffer = .wait [] := rfl
    rw [scanner.cut_wait hs]
  rw [webFrames_eq, incremental_scanner.feed_eq 0 chunks hnone, Nat.zero_add]
  rfl

theorem isFrame_firmwareFrames {chunks : List (List UInt8)} {frame : Recognised}
    (hfits : NeverOverflows Protocol.initInt chunks)
    (h : frame ∈ firmwareFrames 0 Protocol.initInt chunks) : IsFrame chunks.flatten frame := by
  rw [firmwareFrames_of_stream hfits, List.mem_filterMap] at h
  obtain ⟨⟨it, stop⟩, hmem, hframe⟩ := h
  obtain ⟨found, rest, hfound, hscan, rfl⟩ := Protocol.scanner.cutAt_mem scan_suffix hmem
  exact isFrame_of_scan hfound hscan hframe

-- However the stream is cut on either side, both parsers recognise the same
-- frames, and the verdicts agree on every payload the web page looks at.
theorem parsers_agree {fwChunks webChunks : List (List UInt8)}
    (hstream : fwChunks.flatten = webChunks.flatten)
    (hfits : NeverOverflows Protocol.initInt fwChunks) :
    webFrames 0 init webChunks =
        (firmwareFrames 0 Protocol.initInt fwChunks).map Recognised.hideNacked ∧
      ∀ frame ∈ firmwareFrames 0 Protocol.initInt fwChunks, IsFrame fwChunks.flatten frame := by
  refine ⟨?_, fun frame h => isFrame_firmwareFrames hfits h⟩
  rw [webFrames_of_stream, firmwareFrames_of_stream hfits, hstream]
  exact cutAt_agrees _ _

theorem parsers_agree_split :
    webFrames 0 init [(Protocol.zeroFrame 20).take 11, (Protocol.zeroFrame 20).drop 11] =
        (firmwareFrames 0 Protocol.initInt [Protocol.zeroFrame 20]).map Recognised.hideNacked ∧
      ∀ frame ∈ firmwareFrames 0 Protocol.initInt [Protocol.zeroFrame 20],
        IsFrame [Protocol.zeroFrame 20].flatten frame := by
  have hlen := Protocol.length_zeroFrame 20
  exact parsers_agree (by simp) (Protocol.neverOverflows_of_length
    (by simp [hlen, Protocol.initInt, Protocol.RX_BUFFER_SIZE]))

-- A data frame that is marked as a retransmission, with one byte of payload.
def retransmission : List UInt8 := [0xde, 0xad, 0x08, 0x00, 0x06, 0xc6, 0xba, 0x00, 0x00, 0x00]

theorem not_same_verdicts :
    ¬∀ fwChunks webChunks : List (List UInt8), fwChunks.flatten = webChunks.flatten →
      NeverOverflows Protocol.initInt fwChunks →
        webFrames 0 init webChunks = firmwareFrames 0 Protocol.initInt fwChunks := by
  intro h
  have hfits : NeverOverflows Protocol.initInt [retransmission] :=
    Protocol.neverOverflows_of_length (by decide)
  have hsame := h [retransmission] [retransmission] rfl hfits
  have hfw : Protocol.scanner.scan retransmission =
      .item (.packet (NcpHeader.read retransmission) [0]) [] := by decide +kernel
  have hweb : scanner.scan retransmission = .item (.frame 8 retransmission) [] := by
    decide +kernel
  have hnack : (flags (retransmission.getD 5 0)).isNACK = true := by decide
  have hfwEnd : Protocol.scanner.scan [] = .wait [] := rfl
  have hwebEnd : scanner.scan [] = .wait [] := rfl
  rw [firmwareFrames_of_stream hfits, webFrames_of_stream, List.flatten_singleton,
    Protocol.scanner.cutAt_item hfw, Protocol.scanner.cutAt_wait hfwEnd, scanner.cutAt_item hweb,
    scanner.cutAt_wait hwebEnd] at hsame
  have hverdicts := congrArg (fun frames => frames.map Recognised.payloadOk) hsame
  simp only [List.filterMap_cons, List.filterMap_nil, webFrame, firmwareFrame, hnack] at hverdicts
  simp at hverdicts

end EspCoordinator.ZbossSerial
