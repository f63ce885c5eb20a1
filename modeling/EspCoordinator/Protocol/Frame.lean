import EspCoordinator.Protocol.Lemmas

namespace EspCoordinator.Protocol

open Bytes

def payload (frame : List UInt8) : List UInt8 := frame.drop 9

-- A data frame of the host as it stands on the wire: first transmission, all
-- of it, with nothing wrong in it.
structure IsDataFrame (frame : List UInt8) : Prop where
  signature : frame.take 2 = [0xde, 0xad]
  headerOk : HeaderOk frame
  packetLen : (NcpHeader.read frame).packetLen.toNat + 2 = frame.length
  hasDataCrc : 7 ≤ (NcpHeader.read frame).packetLen.toNat
  packetType : (NcpHeader.read frame).packetType = ZBOSS_NCP_API_HL
  isAck : (NcpHeader.read frame).isAck = false
  isNack : (NcpHeader.read frame).isNack = false
  dataCrc : Utils.crc16 (payload frame) = UInt16.ofNat (ofLE ((frame.drop 7).take 2))

def frameSeq (frame : List UInt8) : Fin 4 := (NcpHeader.read frame).packetSeq

namespace IsDataFrame

variable {frame : List UInt8} (hf : IsDataFrame frame)

include hf

theorem length_ge : 9 ≤ frame.length := by
  have := hf.packetLen
  have := hf.hasDataCrc
  omega

theorem eq_cons : ∃ rest, frame = 0xde :: 0xad :: rest := by
  have hsig := hf.signature
  match frame, hf.length_ge with
  | first :: second :: rest, _ =>
      simp only [List.take_succ_cons, List.take_zero, List.cons.injEq, and_true] at hsig
      exact ⟨rest, by rw [hsig.1, hsig.2]⟩

theorem findSignature_append (rest : List UInt8) :
    findSignature (frame ++ rest) = some (frame ++ rest) := by
  obtain ⟨tail, rfl⟩ := hf.eq_cons
  exact findSignature_signature _

-- The frame is taken whole, whatever follows it.
theorem scan_append (rest : List UInt8) :
    scan (frame ++ rest) = .item (.packet (NcpHeader.read frame) (payload frame)) rest := by
  have hlen := hf.length_ge
  have hpl := hf.packetLen
  have hge := hf.hasDataCrc
  have hread := NcpHeader.read_append rest (show 7 ≤ frame.length by omega)
  have hok : HeaderOk (frame ++ rest) := (headerOk_append rest (by omega)).mpr hf.headerOk
  have hcrc : ((frame ++ rest).drop HEADER_SIZE).take 2 = (frame.drop 7).take 2 := by
    rw [HEADER_SIZE, List.drop_append_of_le_length (by omega),
      List.take_append_of_le_length (by simp; omega)]
  have hdata : ((frame ++ rest).drop (HEADER_SIZE + 2)).take (frame.length - 9) =
      payload frame := by
    rw [HEADER_SIZE, List.drop_append_of_le_length (by omega),
      List.take_append_of_le_length (by simp), List.take_of_length_le (by simp), payload]
  have hdata_len : (NcpHeader.read frame).packetLen.toNat - 5 - 2 = frame.length - 9 := by omega
  have hrest : (frame ++ rest).drop (HEADER_SIZE + 2 + (frame.length - 9)) = rest := by
    rw [HEADER_SIZE, show 7 + 2 + (frame.length - 9) = frame.length by omega, List.drop_left]
  unfold scan
  rw [if_neg (by simp only [List.length_append]; omega), hf.findSignature_append rest]
  simp only [List.length_append]
  rw [if_neg (by omega), if_neg (not_not.mpr hok), hread, if_neg (by omega), if_neg (by omega),
    if_neg (by omega), hdata_len, hdata, hcrc, hrest, if_neg (not_not.mpr hf.dataCrc)]

-- A frame that is still incomplete is kept until the rest arrives.
theorem scan_take {count : Nat} (hcount : count < frame.length) :
    scan (frame.take count) = .wait (frame.take count) := by
  have hlen : (frame.take count).length = count := by simp; omega
  unfold scan
  by_cases hshort : count < 7
  · rw [if_pos (by omega)]
  have hsig : findSignature (frame.take count) = some (frame.take count) := by
    obtain ⟨tail, rfl⟩ := hf.eq_cons
    obtain ⟨rest, rfl⟩ : ∃ rest, count = rest + 2 := ⟨count - 2, by omega⟩
    simpa using findSignature_signature (tail.take rest)
  have hsplit := List.take_append_drop count frame
  have hread : NcpHeader.read (frame.take count) = NcpHeader.read frame := by
    rw [← NcpHeader.read_append (frame.drop count) (by omega), hsplit]
  have hok : HeaderOk (frame.take count) := by
    rw [← headerOk_append (frame.drop count) (by omega), hsplit]
    exact hf.headerOk
  have hpl := hf.packetLen
  rw [if_neg (by omega), hsig]
  simp only [hlen, hread]
  rw [if_neg (by omega), if_neg (not_not.mpr hok), if_pos (by omega)]

end IsDataFrame

theorem NcpHeader.read_bytes (hdr : NcpHeader) (rest : List UInt8) :
    NcpHeader.read (hdr.bytes ++ rest) = hdr := by
  rw [NcpHeader.read_append rest (by simp [bytes, crcInput])]
  obtain ⟨packetLen, packetType, isAck, isNack, packetSeq, ackSeq, first, last, crc⟩ := hdr
  have hlen : UInt16.ofNat (ofLE (toLE 2 packetLen.toNat)) = packetLen := by
    rw [ofLE_toLE _ _ packetLen.toNat_lt, UInt16.ofNat_toNat]
  have hbits : ∀ (a n f l : Bool) (p q : Fin 4),
      let flags := (UInt8.ofNat (a.toNat + 2 * n.toNat + 4 * p + 16 * q + 64 * f.toNat +
        128 * l.toNat)).toNat
      flags.testBit 0 = a ∧ flags.testBit 1 = n ∧ Fin.ofNat 4 (flags / 4) = p ∧
        Fin.ofNat 4 (flags / 16) = q ∧ flags.testBit 6 = f ∧ flags.testBit 7 = l := by
    decide +kernel
  obtain ⟨h0, h1, h2, h3, h4, h5⟩ := hbits isAck isNack first last packetSeq ackSeq
  simp only [read, bytes, crcInput, flags, toLE, List.cons_append, List.nil_append,
    List.drop_succ_cons, List.drop_zero, List.take_succ_cons, List.take_zero, List.getD_cons_succ,
    List.getD_cons_zero, h0, h1, h2, h3, h4, h5]
  simp only [toLE] at hlen
  rw [hlen]

-- The frame with this header around `data`, its length and both CRCs filled in.
def encodeFrame (hdr : NcpHeader) (data : List UInt8) : List UInt8 :=
  { hdr with packetLen := UInt16.ofNat (data.length + HEADER_SIZE) }.withCrc.bytes ++
    toLE 2 (Utils.crc16 data).toNat ++ data

theorem NcpHeader.headerOk_withCrc (hdr : NcpHeader) (rest : List UInt8) :
    HeaderOk (hdr.withCrc.bytes ++ rest) := by
  rw [HeaderOk, NcpHeader.read_bytes]
  simp [withCrc, bytes, crcInput, toLE, flags]

@[simp] theorem NcpHeader.length_bytes (hdr : NcpHeader) : hdr.bytes.length = 7 := by
  simp [bytes, crcInput]

@[simp] theorem length_encodeFrame (hdr : NcpHeader) (data : List UInt8) :
    (encodeFrame hdr data).length = data.length + 9 := by
  simp [encodeFrame]
  omega

@[simp] theorem payload_encodeFrame (hdr : NcpHeader) (data : List UInt8) :
    payload (encodeFrame hdr data) = data := by
  simp [payload, encodeFrame, NcpHeader.bytes, NcpHeader.crcInput, toLE]

theorem isDataFrame_encodeFrame (hdr : NcpHeader) (data : List UInt8)
    (htype : hdr.packetType = ZBOSS_NCP_API_HL) (hack : hdr.isAck = false)
    (hnack : hdr.isNack = false) (hlen : data.length + 7 < 65536) :
    IsDataFrame (encodeFrame hdr data) := by
  have hread := NcpHeader.read_bytes
    { hdr with packetLen := UInt16.ofNat (data.length + HEADER_SIZE) }.withCrc
    (toLE 2 (Utils.crc16 data).toNat ++ data)
  rw [← List.append_assoc] at hread
  change NcpHeader.read (encodeFrame hdr data) = _ at hread
  have hsize : (NcpHeader.read (encodeFrame hdr data)).packetLen.toNat = data.length + 7 := by
    rw [hread]
    simp only [NcpHeader.withCrc, HEADER_SIZE, UInt16.toNat_ofNat']
    omega
  constructor
  · simp [encodeFrame, NcpHeader.bytes]
  · rw [encodeFrame, List.append_assoc]
    exact NcpHeader.headerOk_withCrc _ _
  · rw [hsize, length_encodeFrame]
  · omega
  · rw [hread]; exact htype
  · rw [hread]; exact hack
  · rw [hread]; exact hnack
  · have hcrc : ((encodeFrame hdr data).drop 7).take 2 = toLE 2 (Utils.crc16 data).toNat := by
      simp [encodeFrame, NcpHeader.bytes, NcpHeader.crcInput, toLE]
    rw [payload_encodeFrame, hcrc, ofLE_toLE _ _ (Utils.crc16 data).toNat_lt, UInt16.ofNat_toNat]

end EspCoordinator.Protocol
