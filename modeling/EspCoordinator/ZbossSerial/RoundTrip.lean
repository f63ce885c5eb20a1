import EspCoordinator.ZbossSerial.Agreement

namespace EspCoordinator

open Bytes

-- What send_data_int hands to transport::send.
def Protocol.SendData.sent : Protocol.SendData → Option (List UInt8)
  | .nothing => none
  | .tooLong => none
  | .frame hdr data => some (hdr.bytes ++ toLE 2 (Utils.crc16 data).toNat ++ data)

namespace ZbossSerial

open Protocol (NcpHeader HeaderOk IsDataFrame RX_BUFFER_SIZE encodeFrame)

variable {frame : List UInt8}

theorem findStart_skip {pre : List UInt8} (h : 0xde ∉ pre) (rest : List UInt8) :
    findStart (pre ++ rest) = findStart rest := by
  induction pre with
  | nil => rfl
  | cons byte pre ih =>
      have hbyte : ¬byte = 0xde := fun heq => h (by simp [heq])
      rw [List.cons_append, findStart, if_neg fun hsig => hbyte hsig.1]
      exact ih fun hmem => h (List.mem_cons_of_mem _ hmem)

theorem scan_dataFrame (hf : IsDataFrame frame) :
    scan frame = .item (.frame (frame.length - 2) frame) [] := by
  have hge := hf.length_ge
  have hlen := hf.packetLen
  have hdata := hf.hasDataCrc
  rw [packetLen_read] at hlen hdata
  obtain ⟨tail, htail⟩ := hf.eq_cons
  have hstart : findStart frame = some frame := by rw [htail, findStart_cons]
  rw [scan_of_signature hstart (by omega), if_neg (by omega),
    if_neg (not_not.mpr ((headerOk_iff frame).mp hf.headerOk)), if_neg (by omega), hlen,
    List.take_length, List.drop_length, show frame.length - 2 = getUint16 frame 2 by omega]

-- The payload is acknowledged and delivered.
theorem onFrame_dataFrame (hf : IsDataFrame frame) (s : State) :
    let next := { s with recvSeq := some (Protocol.frameSeq frame) }
    onFrame s (frame.length - 2) frame =
      ((deliver next (Protocol.payload frame)).1,
        .write (sendAck (Protocol.frameSeq frame)) ::
          (deliver next (Protocol.payload frame)).2) := by
  have hge := hf.length_ge
  have hlen := hf.packetLen
  have hdata := hf.hasDataCrc
  rw [packetLen_read] at hlen hdata
  have hcrc : (crc16 (frame.drop 9)).toNat = getUint16 frame 7 := by
    rw [← toNat_getUint16, crc16_eq, UInt16.toNat_inj]
    exact hf.dataCrc
  have hflags := flags_read frame
  rw [hf.isAck, hf.isNack] at hflags
  unfold onFrame
  rw [hflags]
  simp only [Bool.false_eq_true, if_false, false_and]
  rw [if_pos (show frame.length - 2 > 5 by omega), if_neg (not_not.mpr hcrc)]
  rfl

-- A frame behind bytes without a 0xDE is cut out, and then the bytes behind it.
theorem processBuffer_dataFrame (hf : IsDataFrame frame) (s : State) {pre : List UInt8}
    (hpre : 0xde ∉ pre) (post : List UInt8) :
    processBuffer { s with buffer := pre ++ frame ++ post } =
      let handled := onFrame s (frame.length - 2) frame
      let behind := processBuffer { handled.1 with buffer := post }
      (behind.1, handled.2 ++ behind.2) := by
  have hge := hf.length_ge
  obtain ⟨tail, htail⟩ := hf.eq_cons
  have hstart : findStart (pre ++ frame ++ post) = some (frame ++ post) := by
    rw [List.append_assoc, findStart_skip hpre, htail]
    exact findStart_cons (tail ++ post)
  have hscan : scanner.scan (pre ++ frame ++ post) =
      .item (.frame (frame.length - 2) frame) post := by
    have happ := scan_append (scan_dataFrame hf) post
    rw [List.nil_append] at happ
    exact (scan_eq_of_findStart hstart (by simp; omega)).trans happ
  rw [processBuffer_eq]
  simp only [scanner.cut_item hscan, handleAll_buffer, handleAll, handle, processBuffer_eq]

theorem isDataFrame_sendDataInt (link : Protocol.Link) {data : List UInt8} (hne : data ≠ [])
    (hlen : data.length ≤ 2039) :
    ∃ frame, (Protocol.sendDataInt link data).2.sent = some frame ∧ IsDataFrame frame ∧
      Protocol.payload frame = data ∧
      Protocol.frameSeq frame = Fin.ofNat 4 link.txSeq.toNat := by
  let hdr : NcpHeader :=
    { packetLen := 0, packetType := Protocol.ZBOSS_NCP_API_HL, isAck := false, isNack := false
      packetSeq := Fin.ofNat 4 link.txSeq.toNat, ackSeq := 0, firstFragment := true
      lastFragment := true, headerCrc := 0 }
  refine ⟨encodeFrame hdr data, ?_,
    Protocol.isDataFrame_encodeFrame hdr data rfl rfl rfl (by omega),
    Protocol.payload_encodeFrame hdr data, ?_⟩
  · have hfits : ¬data.length > Protocol.TX_BUFFER_SIZE - Protocol.HEADER_SIZE - 2 := by
      simp only [Protocol.TX_BUFFER_SIZE, Protocol.HEADER_SIZE]
      omega
    rw [Protocol.sendDataInt, if_neg hne, if_neg hfits]
    rfl
  · rw [Protocol.frameSeq, encodeFrame, List.append_assoc, NcpHeader.read_bytes]
    rfl

theorem sendDataInt_tooLong (link : Protocol.Link) {data : List UInt8} (h : 2039 < data.length) :
    Protocol.sendDataInt link data = (link, .tooLong) := by
  have hne : data ≠ [] := by
    rintro rfl
    simp at h
  rw [Protocol.sendDataInt, if_neg hne, if_pos]
  simp only [Protocol.TX_BUFFER_SIZE, Protocol.HEADER_SIZE]
  omega

-- The command header and payload inside the frame of sendCommand.
def reqData (s : State) (cmdId : UInt16) (payload : List UInt8) : List UInt8 :=
  [0, 0] ++ toLE 2 cmdId.toNat ++ [s.nextTsn] ++ payload

theorem length_reqData (s : State) (cmdId : UInt16) (payload : List UInt8) :
    (reqData s cmdId payload).length = 5 + payload.length := by
  simp [reqData]
  omega

-- The web page builds the frame that the protocol layer encodes.
theorem sendCommand_eq (s : State) (cmdId : UInt16) (payload : List UInt8)
    (hlen : 14 + payload.length ≤ RX_BUFFER_SIZE) :
    (sendCommand s cmdId payload).2 =
      encodeFrame
        { packetLen := 0, packetType := Protocol.ZBOSS_NCP_API_HL, isAck := false, isNack := false
          packetSeq := s.seq, ackSeq := s.recvSeq.getD 0, firstFragment := true
          lastFragment := true, headerCrc := 0 }
        (reqData s cmdId payload) := by
  have hflags : ∀ p q : Fin 4,
      (0xc0 : UInt8) ||| (UInt8.ofNat p <<< 2) ||| (UInt8.ofNat q <<< 4) =
        UInt8.ofNat (0 + 2 * 0 + 4 * p + 16 * q + 64 * 1 + 128 * 1) := by
    decide
  have hreq := length_reqData s cmdId payload
  have hsize : (UInt16.ofNat ((reqData s cmdId payload).length + Protocol.HEADER_SIZE)).toNat =
      7 + (reqData s cmdId payload).length := by
    simp only [RX_BUFFER_SIZE] at hlen
    simp only [UInt16.toNat_ofNat', Protocol.HEADER_SIZE]
    omega
  have hdata : [0, 0] ++ toLE 2 cmdId.toNat ++ [s.nextTsn] ++ payload =
      reqData s cmdId payload := rfl
  simp only [sendCommand, hdata, hflags, crc8_eq, crc16_eq, encodeFrame, NcpHeader.bytes,
    NcpHeader.withCrc, NcpHeader.crcInput, NcpHeader.flags, hsize]
  generalize reqData s cmdId payload = data
  simp [toLE, Protocol.ZBOSS_NCP_API_HL]

-- A header without a payload is cut out as an empty frame.
theorem scan_emptyFrame {rsp : NcpHeader} (hlen : rsp.packetLen = 5) :
    scan rsp.withCrc.bytes = .item (.frame 5 rsp.withCrc.bytes) [] := by
  have hread := NcpHeader.read_bytes rsp.withCrc []
  have hok := NcpHeader.headerOk_withCrc rsp []
  rw [List.append_nil] at hread hok
  have hsize := NcpHeader.length_bytes rsp.withCrc
  have hfield : getUint16 rsp.withCrc.bytes 2 = 5 := by
    rw [← packetLen_read, hread]
    simp [NcpHeader.withCrc, hlen]
  have hstart : findStart rsp.withCrc.bytes = some rsp.withCrc.bytes :=
    findStart_cons (rsp.withCrc.crcInput ++ [rsp.withCrc.headerCrc])
  rw [scan_of_signature hstart (by omega), hfield, if_neg (by decide),
    if_neg (not_not.mpr ((headerOk_iff _).mp hok)), if_neg (by omega),
    List.take_of_length_le (by omega), List.drop_of_length_le (by omega)]

-- The answer of the firmware to a data frame, as the web page decodes it.
theorem sendAck_decoded (link : Protocol.Link) (hdr : NcpHeader) :
    ∃ rsp, (Protocol.sendAck link hdr).2 = [.send rsp] ∧
      scan rsp.bytes = .item (.frame 5 rsp.bytes) [] ∧
      flags (rsp.bytes.getD 5 0) =
        { isACK := true, isNACK := false, sequence := Fin.ofNat 4 link.txSeq.toNat
          ackSeq := hdr.packetSeq } := by
  refine ⟨_, rfl, scan_emptyFrame rfl, ?_⟩
  have hread := fun rsp : NcpHeader => NcpHeader.read_bytes rsp []
  simp only [List.append_nil] at hread
  rw [flags_read, hread]
  rfl

theorem sendCommand_dataFrame {s : State} {cmdId : UInt16} {payload : List UInt8}
    (hlen : (sendCommand s cmdId payload).2.length ≤ RX_BUFFER_SIZE) :
    IsDataFrame (sendCommand s cmdId payload).2 ∧
      Protocol.payload (sendCommand s cmdId payload).2 = reqData s cmdId payload := by
  have hsmall : 14 + payload.length ≤ RX_BUFFER_SIZE := by
    simp only [sendCommand, List.length_append, length_toLE, List.length_cons, List.length_nil]
      at hlen
    omega
  rw [sendCommand_eq s cmdId payload hsmall]
  refine ⟨Protocol.isDataFrame_encodeFrame _ _ rfl rfl rfl ?_, Protocol.payload_encodeFrame _ _⟩
  simp only [length_reqData, RX_BUFFER_SIZE] at hsmall ⊢
  omega

-- Both directions of the link: what one side encodes the other decodes.
theorem frame_round_trip :
    (∀ (link : Protocol.Link) (data pre post : List UInt8) (s : State),
      data ≠ [] → data.length ≤ 2039 → 0xde ∉ pre →
        ∃ frame, (Protocol.sendDataInt link data).2.sent = some frame ∧
          processBuffer { s with buffer := pre ++ frame ++ post } =
            let next := { s with recvSeq := some (Fin.ofNat 4 link.txSeq.toNat) }
            let delivered := deliver next data
            let behind := processBuffer { delivered.1 with buffer := post }
            (behind.1, .write (sendAck (Fin.ofNat 4 link.txSeq.toNat)) :: delivered.2 ++
              behind.2)) ∧
      (∀ (link : Protocol.Link) (data : List UInt8), 2039 < data.length →
        (Protocol.sendDataInt link data).1 = link ∧
          (Protocol.sendDataInt link data).2.sent = none) ∧
      ∀ (s : State) (cmdId : UInt16) (payload : List UInt8) (link : Protocol.Link)
        (chunks : List (List UInt8)),
        (sendCommand s cmdId payload).2.length ≤ 1024 →
        chunks.flatten = (sendCommand s cmdId payload).2 →
          ∃ rsp,
            (Protocol.onRx { rxBuffer := [], link } chunks).2 =
              [.send rsp, .onRxData ([0, 0] ++ toLE 2 cmdId.toNat ++ [s.nextTsn] ++ payload)] ∧
            scan rsp.bytes = .item (.frame 5 rsp.bytes) [] ∧
            flags (rsp.bytes.getD 5 0) =
              { isACK := true, isNACK := false, sequence := Fin.ofNat 4 link.txSeq.toNat
                ackSeq := Protocol.frameSeq (sendCommand s cmdId payload).2 } := by
  refine ⟨fun link data pre post s hne hlen hpre => ?_, fun link data hlen => ?_,
    fun s cmdId payload link chunks hlen hcut => ?_⟩
  · obtain ⟨frame, hsent, hf, hpayload, hseq⟩ := isDataFrame_sendDataInt link hne hlen
    refine ⟨frame, hsent, ?_⟩
    rw [processBuffer_dataFrame hf s hpre, onFrame_dataFrame hf, hpayload, hseq]
  · have hlong := sendDataInt_tooLong link hlen
    exact ⟨by rw [hlong], by rw [hlong, Protocol.SendData.sent]⟩
  · obtain ⟨hf, hpayload⟩ := sendCommand_dataFrame hlen
    obtain ⟨rsp, hack, hscan, hflags⟩ :=
      sendAck_decoded link (NcpHeader.read (sendCommand s cmdId payload).2)
    refine ⟨rsp, ?_, hscan, hflags⟩
    rw [Protocol.onRx_dataFrame hf link hcut hlen, hack, hpayload]
    rfl

theorem frame_round_trip_ping :
    ∃ rsp,
      (Protocol.onRx Protocol.initInt [(sendCommand init 0x0002 [7]).2]).2 =
        [.send rsp, .onRxData ([0, 0] ++ toLE 2 0x0002 ++ [1] ++ [7])] ∧
      scan rsp.bytes = .item (.frame 5 rsp.bytes) [] ∧
      flags (rsp.bytes.getD 5 0) =
        { isACK := true, isNACK := false, sequence := Fin.ofNat 4 1
          ackSeq := Protocol.frameSeq (sendCommand init 0x0002 [7]).2 } :=
  frame_round_trip.2.2 init 0x0002 [7] Protocol.initInt.link _ (by decide) (by simp)

end ZbossSerial

end EspCoordinator
