import EspCoordinator.Lib.Checked
import EspCoordinator.Protocol.Buffer
import EspCoordinator.Protocol.Lemmas
import Mathlib.Data.List.DropRight

namespace EspCoordinator.Protocol.Buffer

open Checked

variable {rx : Rx} {index size count less start last rounds rxData rxDataSize : Nat}
  {data : List UInt8}

theorem minus_ok (h : less ≤ count) : minus count less = .ok (count - less) := if_pos h

theorem Rx.byte_ok (h : index < rx.rxBufferPos) : rx.byte index = .ok (rx.rxBuffer index) :=
  if_pos h

theorem Rx.bytes_ok (h : index + size ≤ rx.rxBufferPos) :
    rx.bytes index size = .ok (rx.rxBuffer.read index size) := if_pos h

theorem Rx.put_ok (h : index + data.length ≤ RX_BUFFER_SIZE) :
    rx.put index data = .ok { rx with rxBuffer := rx.rxBuffer.write index data } := if_pos h

-- The bytes from the front of the buffer are those from `index` on.
theorem findSignature_ok (hlast : last ≤ rx.rxBufferPos) (hstart : start ≤ last)
    (hrounds : last - start < rounds) :
    ∃ found, findSignature rx last rounds start = .ok found ∧ (∀ index ∈ found, index ≤ last) ∧
      Protocol.findSignature (rx.rxBuffer.read start (last - start)) =
        found.map fun index => rx.rxBuffer.read index (last - index) := by
  induction rounds generalizing start with
  | zero => omega
  | succ rounds ih =>
      by_cases hend : start = last
      · subst hend
        exact ⟨none, by simp [findSignature], by simp, by simp [Protocol.findSignature]⟩
      obtain ⟨later, hlater, hindex, hsuffix⟩ := @ih (start + 1) (by omega) (by omega)
      have hread : rx.rxBuffer.read start (last - start) =
          rx.rxBuffer start :: rx.rxBuffer.read (start + 1) (last - (start + 1)) := by
        rw [← Memory.read_succ, show last - start = last - (start + 1) + 1 by omega]
      rw [findSignature, if_neg hend, Rx.byte_ok (by omega), ok_bind]
      by_cases hbyte : rx.rxBuffer start = 0xde
      · rw [if_neg (by simpa using hbyte)]
        by_cases hnext : start + 1 = last
        · refine ⟨some start, by rw [if_pos hnext]; rfl, by simpa using hstart, ?_⟩
          subst hnext
          rw [hread, Protocol.findSignature, if_pos ⟨hbyte, .inl (by simp)⟩, Option.map_some, hread]
        have hhead : (rx.rxBuffer.read (start + 1) (last - (start + 1))).head? =
            some (rx.rxBuffer (start + 1)) := by
          rw [show last - (start + 1) = last - (start + 1) - 1 + 1 by omega, Memory.read_succ,
            List.head?_cons]
        have hmore : rx.rxBuffer.read (start + 1) (last - (start + 1)) ≠ [] := by
          intro hnil
          simp [hnil] at hhead
        rw [if_neg hnext, Rx.byte_ok (by omega), ok_bind]
        by_cases had : rx.rxBuffer (start + 1) = 0xad
        · refine ⟨some start, by rw [if_pos had]; rfl, by simpa using hstart, ?_⟩
          rw [hread, Protocol.findSignature, if_pos ⟨hbyte, .inr (hhead.trans (congrArg _ had))⟩,
            Option.map_some, hread]
        · refine ⟨later, by rw [if_neg had, hlater], hindex, ?_⟩
          have hpair : ¬(rx.rxBuffer start = 0xde ∧
              (rx.rxBuffer.read (start + 1) (last - (start + 1)) = [] ∨
                (rx.rxBuffer.read (start + 1) (last - (start + 1))).head? = some 0xad)) := by
            rw [hhead]
            rintro ⟨-, hnil | hsome⟩
            · exact hmore hnil
            · exact had (Option.some.inj hsome)
          rw [hread, Protocol.findSignature, if_neg hpair, hsuffix]
      · refine ⟨later, by rw [if_pos hbyte, hlater], hindex, ?_⟩
        rw [hread, Protocol.findSignature, if_neg (by simp [hbyte]), hsuffix]

-- The round as the scanner sees it.
def Round.toScan (rx : Rx) (found : Round) : Scan UInt8 Item :=
  match found.item? with
  | none => .wait (rx.rxBuffer.read found.rxData found.rxDataSize)
  | some item => .item item (rx.rxBuffer.read found.rxData found.rxDataSize)

-- The round stays in the part that has been received and finds there what the
-- scanner finds in its bytes.
def Finds (rx : Rx) (result : Except Fault Round) (scanned : Scan UInt8 Item) : Prop :=
  ∃ found, result = .ok found ∧ found.rxData + found.rxDataSize = rx.rxBufferPos ∧
    scanned = found.toScan rx

-- The index moves on by `count` bytes.
theorem finds_item (item : Item) (hview : rxData + rxDataSize = rx.rxBufferPos)
    (hcount : count ≤ rxDataSize) :
    Finds rx
      (do
        let rxDataSize ← minus rxDataSize count
        return { item? := some item, rxData := rxData + count, rxDataSize })
      (.item item ((rx.rxBuffer.read rxData rxDataSize).drop count)) := by
  rw [minus_ok hcount]
  refine ⟨_, rfl, ?_, ?_⟩
  · dsimp only
    omega
  · rw [Round.toScan, Memory.drop_read _ _ hcount]

theorem finds_wait (hview : rxData + rxDataSize = rx.rxBufferPos) :
    Finds rx (return { item? := none, rxData, rxDataSize })
      (.wait (rx.rxBuffer.read rxData rxDataSize)) :=
  ⟨_, rfl, hview, rfl⟩

-- What the scanner does behind the header CRC.
def scanPacket (hdr : NcpHeader) (p : List UInt8) : Scan UInt8 Item :=
  if p.length < hdr.packetLen.toNat + 2 then .wait p
  else if hdr.packetLen.toNat = 5 then .item (.empty hdr) (p.drop HEADER_SIZE)
  else if hdr.packetLen.toNat < 7 then .item .skip (p.drop 2)
  else
    let dataLen := hdr.packetLen.toNat - 5 - 2
    let data := (p.drop (HEADER_SIZE + 2)).take dataLen
    let item := if Utils.crc16 data ≠ UInt16.ofNat (Bytes.ofLE ((p.drop HEADER_SIZE).take 2)) then
      .badData hdr else .packet hdr data
    .item item (p.drop (HEADER_SIZE + 2 + dataLen))

theorem scan_signature {p : List UInt8} (hdata : ¬data.length < 7)
    (hsig : Protocol.findSignature data = some p) (hp : ¬p.length < 7) :
    scan data =
      if ¬HeaderOk p then .item .skip (p.drop 2) else scanPacket (NcpHeader.read p) p := by
  simp only [scan, if_neg hdata, hsig, if_neg hp, scanPacket]
  split_ifs <;> rfl

theorem packetRound_ok (hdr : NcpHeader) (hview : rxData + rxDataSize = rx.rxBufferPos)
    (hheader : ¬rxDataSize < 7) :
    Finds rx (packetRound rx hdr rxData rxDataSize)
      (scanPacket hdr (rx.rxBuffer.read rxData rxDataSize)) := by
  rw [packetRound, scanPacket, Memory.length_read]
  by_cases hmore : rxDataSize < hdr.packetLen.toNat + 2
  · rw [if_pos hmore, if_pos hmore]
    exact finds_wait hview
  rw [if_neg hmore, if_neg hmore]
  by_cases hempty : hdr.packetLen.toNat = 5
  · rw [if_pos hempty, if_pos hempty]
    exact finds_item _ hview (by simp only [HEADER_SIZE]; omega)
  rw [if_neg hempty, if_neg hempty]
  by_cases hless : hdr.packetLen.toNat < 7
  · rw [if_pos hless, if_pos hless]
    exact finds_item _ hview (by omega)
  have hcrcRead : ((rx.rxBuffer.read rxData rxDataSize).drop HEADER_SIZE).take 2 =
      rx.rxBuffer.read (rxData + HEADER_SIZE) 2 := by
    rw [Memory.drop_read _ _ (by simp only [HEADER_SIZE]; omega),
      Memory.take_read _ _ (by simp only [HEADER_SIZE]; omega)]
  have hpayloadRead :
      ((rx.rxBuffer.read rxData rxDataSize).drop (HEADER_SIZE + 2)).take
        (hdr.packetLen.toNat - 5 - 2) =
      rx.rxBuffer.read (rxData + HEADER_SIZE + 2) (hdr.packetLen.toNat - 5 - 2) := by
    rw [Memory.drop_read _ _ (by simp only [HEADER_SIZE]; omega),
      Memory.take_read _ _ (by simp only [HEADER_SIZE]; omega), Nat.add_assoc]
  rw [if_neg hless, if_neg hless, minus_ok (by omega), ok_bind, minus_ok (by omega), ok_bind,
    Rx.bytes_ok (by simp only [HEADER_SIZE]; omega), ok_bind,
    Rx.bytes_ok (by simp only [HEADER_SIZE]; omega), ok_bind]
  simp only [hcrcRead, hpayloadRead]
  exact finds_item _ hview (by simp only [HEADER_SIZE]; omega)

-- The header that is copied out is that of the bytes behind it as well.
theorem header_read (memory : Memory UInt8) (p : Nat) {size : Nat} (h : ¬size < 7) :
    NcpHeader.read (memory.read p HEADER_SIZE) = NcpHeader.read (memory.read p size) := by
  have hsplit : size = HEADER_SIZE + (size - HEADER_SIZE) := by
    simp only [HEADER_SIZE]
    omega
  rw [hsplit, Memory.read_add, NcpHeader.read_append]
  rw [Memory.length_read, HEADER_SIZE]

theorem headerOk_read (memory : Memory UInt8) (p : Nat) {size : Nat} (h : ¬size < 7) :
    HeaderOk (memory.read p size) ↔
      Utils.crc8 (memory.read (p + 2) 4) = (NcpHeader.read (memory.read p size)).headerCrc := by
  rw [HeaderOk, Memory.drop_read _ _ (by omega), Memory.take_read _ _ (by omega)]

theorem round_ok (hpos : rx.rxBufferPos ≤ RX_BUFFER_SIZE)
    (hview : rxData + rxDataSize = rx.rxBufferPos) :
    Finds rx (round rx rxData rxDataSize) (scan (rx.rxBuffer.read rxData rxDataSize)) := by
  rw [round]
  by_cases hshort : rxDataSize < 7
  · rw [if_pos hshort, scan, Memory.length_read, if_pos hshort]
    exact finds_wait hview
  obtain ⟨found, hfound, hlast, hsig⟩ :=
    @findSignature_ok rx rxData rx.rxBufferPos (RX_BUFFER_SIZE + 1) (Nat.le_refl _) (by omega)
      (by omega)
  rw [show rx.rxBufferPos - rxData = rxDataSize by omega] at hsig
  rw [if_neg hshort, hfound, ok_bind]
  cases found with
  | none =>
      rw [scan, Memory.length_read, if_neg hshort, hsig]
      exact finds_wait hview
  | some p =>
      have hp : p ≤ rx.rxBufferPos := hlast p rfl
      have hrest : p + (rx.rxBufferPos - p) = rx.rxBufferPos := by omega
      rw [Option.map_some] at hsig
      simp only [minus_ok hp, ok_bind]
      by_cases hheader : rx.rxBufferPos - p < 7
      · rw [if_pos hheader, scan, Memory.length_read, if_neg hshort, hsig]
        simp only [Memory.length_read, if_pos hheader]
        exact finds_wait hrest
      have hok := headerOk_read rx.rxBuffer p hheader
      rw [if_neg hheader, Rx.bytes_ok (by simp only [HEADER_SIZE]; omega), ok_bind,
        Rx.bytes_ok (by omega), ok_bind, header_read _ _ hheader,
        scan_signature (by rwa [Memory.length_read]) hsig (by rwa [Memory.length_read])]
      by_cases hbad : HeaderOk (rx.rxBuffer.read p (rx.rxBufferPos - p))
      · rw [if_neg (not_not.mpr (hok.mp hbad)), if_neg (not_not.mpr hbad)]
        exact packetRound_ok _ hrest hheader
      · rw [if_pos (mt hok.mpr hbad), if_pos hbad]
        exact finds_item _ hrest (by omega)

theorem onRxLoop_wait {tail : List UInt8} (h : scan data = .wait tail) (link : Link) :
    onRxLoop link data = (link, [], tail) := by
  rw [onRxLoop]
  split <;> simp_all

theorem onRxLoop_item {item : Item} {rest : List UInt8} (h : scan data = .item item rest)
    (link : Link) :
    onRxLoop link data =
      ((onRxLoop (handle link item).1 rest).1,
        (handle link item).2 ++ (onRxLoop (handle link item).1 rest).2.1,
        (onRxLoop (handle link item).1 rest).2.2) := by
  rw [onRxLoop]
  split <;> simp_all

-- Every round but the last takes bytes off the front, so there is an end, and
-- it is the same however many rounds there could be.
theorem loop_ok (hpos : rx.rxBufferPos ≤ RX_BUFFER_SIZE)
    (hview : rxData + rxDataSize = rx.rxBufferPos) (link : Link) :
    ∃ final size, final + size = rx.rxBufferPos ∧ ∃ link' actions,
      (∀ rounds > rxDataSize,
        loop rx rounds link rxData rxDataSize = .ok (link', actions, final, size)) ∧
      onRxLoop link (rx.rxBuffer.read rxData rxDataSize) =
        (link', actions, rx.rxBuffer.read final size) := by
  induction rxDataSize using Nat.strongRecOn generalizing link rxData with
  | ind rxDataSize ih =>
      obtain ⟨found, hfound, hrest, hscan⟩ := round_ok hpos hview
      rw [Round.toScan] at hscan
      cases hitem : found.item? with
      | none =>
          rw [hitem] at hscan
          refine ⟨found.rxData, found.rxDataSize, hrest, link, [], ?_, onRxLoop_wait hscan link⟩
          intro rounds hrounds
          obtain ⟨rounds, rfl⟩ := Nat.exists_eq_add_of_lt hrounds
          simp only [loop, hfound, ok_bind, hitem, pure_eq]
      | some item =>
          rw [hitem] at hscan
          have hshrinks := scan_shrinks hscan
          rw [Memory.length_read, Memory.length_read] at hshrinks
          obtain ⟨final, size, hend, link', actions, hloop, hlist⟩ :=
            ih found.rxDataSize hshrinks hrest (handle link item).1
          refine ⟨final, size, hend, link', (handle link item).2 ++ actions, ?_, ?_⟩
          · intro rounds hrounds
            obtain ⟨rounds, rfl⟩ := Nat.exists_eq_add_of_lt hrounds
            simp only [loop, hfound, ok_bind, hitem, hloop _ (show rxDataSize + rounds >
              found.rxDataSize by omega), pure_eq]
          · rw [onRxLoop_item hscan, hlist]

theorem Rx.length_contents (rx : Rx) : rx.contents.length = rx.rxBufferPos :=
  Memory.length_read _ _ _

-- The first `size` bytes of the buffer are those that were written there.
theorem contents_put_front {rxBuffer : Memory UInt8} (h : data.length = size) :
    Rx.contents { rxBuffer := rxBuffer.write 0 data, rxBufferPos := size } = data := by
  subst h
  exact Memory.read_write rxBuffer 0 data

-- What the new bytes leave of the old ones.
theorem makeRoom_ok (hpos : rx.rxBufferPos ≤ RX_BUFFER_SIZE) (hsize : size ≤ RX_BUFFER_SIZE) :
    ∃ after, makeRoom rx size = .ok after ∧ after.rxBufferPos + size ≤ RX_BUFFER_SIZE ∧
      after.contents = rx.contents.drop (rx.rxBufferPos + size - RX_BUFFER_SIZE) := by
  by_cases hfull : rx.rxBufferPos + size > RX_BUFFER_SIZE
  · rw [makeRoom, if_pos hfull, minus_ok (by omega), ok_bind, discard]
    by_cases hkept : rx.rxBufferPos + size - RX_BUFFER_SIZE < rx.rxBufferPos
    · rw [if_pos hkept, minus_ok (by omega), ok_bind, Rx.bytes_ok (by omega), ok_bind,
        Rx.put_ok (by rw [Memory.length_read]; omega), ok_bind, minus_ok hsize, ok_bind]
      refine ⟨_, rfl, by dsimp only; omega, ?_⟩
      rw [contents_put_front (by rw [Memory.length_read]; omega), Rx.contents,
        Memory.drop_read _ _ (by omega), Nat.zero_add]
    · rw [if_neg hkept, ok_bind, minus_ok hsize, ok_bind]
      refine ⟨_, rfl, by dsimp only; omega, ?_⟩
      rw [List.drop_of_length_le (by rw [Rx.length_contents]; omega), Rx.contents,
        show RX_BUFFER_SIZE - size = 0 by omega, Memory.read_zero]
  · rw [makeRoom, if_neg hfull]
    refine ⟨rx, rfl, by omega, ?_⟩
    rw [Nat.sub_eq_zero_of_le (by omega), List.drop_zero]

theorem appendRx_ok (hpos : rx.rxBufferPos ≤ RX_BUFFER_SIZE) (hdata : data.length ≤ RX_BUFFER_SIZE) :
    ∃ after, appendRx rx data = .ok after ∧ after.rxBufferPos ≤ RX_BUFFER_SIZE ∧
      after.contents = Protocol.appendRx rx.contents data := by
  obtain ⟨room, hroom, hfits, hold⟩ := makeRoom_ok hpos hdata
  rw [appendRx, hroom, ok_bind, Rx.put_ok hfits]
  refine ⟨_, rfl, hfits, ?_⟩
  calc (room.rxBuffer.write room.rxBufferPos data).read 0 (room.rxBufferPos + data.length)
      = room.contents ++ data := Memory.read_write_end _ _ _
    _ = (rx.contents ++ data).drop (rx.rxBufferPos + data.length - RX_BUFFER_SIZE) := by
        rw [hold, List.drop_append_of_le_length (by rw [Rx.length_contents]; omega)]
    _ = Protocol.appendRx rx.contents data := by
        rw [Protocol.appendRx_eq hdata, Rx.length_contents]

theorem keepTail_ok (hpos : rx.rxBufferPos ≤ RX_BUFFER_SIZE)
    (hview : rxData + rxDataSize = rx.rxBufferPos) :
    ∃ after, keepTail rx rxData rxDataSize = .ok after ∧
      after.rxBuffer.read 0 rxDataSize = rx.rxBuffer.read rxData rxDataSize := by
  by_cases hmove : rxData ≠ 0 ∧ rxDataSize ≠ 0
  · rw [keepTail, if_pos hmove, Rx.bytes_ok (by omega), ok_bind,
      Rx.put_ok (by rw [Memory.length_read]; omega)]
    exact ⟨_, rfl, contents_put_front (Memory.length_read _ _ _)⟩
  · refine ⟨rx, if_neg hmove, ?_⟩
    rcases Nat.eq_zero_or_pos rxData with rfl | hfront
    · rfl
    · obtain rfl : rxDataSize = 0 := by omega
      rfl

-- on_rx_int ends without a fault, and it does to the bytes of the buffer what
-- `Protocol.onRxInt` does.
theorem onRxInt_ok (hpos : rx.rxBufferPos ≤ RX_BUFFER_SIZE) (hdata : data.length ≤ RX_BUFFER_SIZE)
    (link : Link) :
    ∃ after link' actions,
      (∀ rounds > RX_BUFFER_SIZE, onRxInt rounds rx link data = .ok (after, link', actions)) ∧
      after.rxBufferPos ≤ RX_BUFFER_SIZE ∧
      Protocol.onRxInt { rxBuffer := rx.contents, link } data =
        ({ rxBuffer := after.contents, link := link' }, actions) := by
  obtain ⟨filled, hfilled, hfilledPos, hcontents⟩ := appendRx_ok hpos hdata
  obtain ⟨final, size, hend, link', actions, hloop, hlist⟩ :=
    loop_ok hfilledPos (Nat.zero_add _) link
  obtain ⟨moved, hmoved, htail⟩ := keepTail_ok hfilledPos hend
  refine ⟨{ moved with rxBufferPos := size }, link', actions, ?_, by dsimp only; omega, ?_⟩
  · intro rounds hrounds
    simp only [onRxInt, hfilled, ok_bind, hloop rounds (by omega), hmoved, pure_eq]
  · simp only [Protocol.onRxInt, ← hcontents]
    simp only [Rx.contents] at hlist ⊢
    rw [hlist, htail]

-- A look at a byte that has not been received, a write that does not fit and
-- a negative length are faults, and so is a loop without an end.
theorem receive_total (rx : Rx) (link : Link) (data : List UInt8)
    (hpos : rx.rxBufferPos ≤ RX_BUFFER_SIZE) (hdata : data.length ≤ RX_BUFFER_SIZE) :
    (∃ appended, appendRx rx data = .ok appended ∧
      appended.contents =
        (rx.contents ++ data).rtake (min RX_BUFFER_SIZE (rx.rxBufferPos + data.length))) ∧
    ∃ after link' actions,
      (∀ rounds > RX_BUFFER_SIZE, onRxInt rounds rx link data = .ok (after, link', actions)) ∧
      after.rxBufferPos ≤ RX_BUFFER_SIZE := by
  constructor
  · obtain ⟨appended, happended, -, hcontents⟩ := appendRx_ok hpos hdata
    refine ⟨appended, happended, ?_⟩
    have hcount : rx.rxBufferPos + data.length -
        min RX_BUFFER_SIZE (rx.rxBufferPos + data.length) =
        rx.rxBufferPos + data.length - RX_BUFFER_SIZE := by omega
    rw [hcontents, Protocol.appendRx_eq hdata, List.rtake, List.length_append, Rx.length_contents,
      hcount]
  · obtain ⟨after, link', actions, hafter, hafterPos, -⟩ := onRxInt_ok hpos hdata link
    exact ⟨after, link', actions, hafter, hafterPos⟩

-- A header with packet_len 6, behind a buffer that is full.
theorem receive_total_crafted :
    let rx : Rx := { rxBuffer := Memory.fill 0xde, rxBufferPos := RX_BUFFER_SIZE }
    let data := (NcpHeader.withCrc ⟨6, 6, false, false, 0, 0, true, true, 0⟩).bytes
    ∃ after link' actions,
      (∀ rounds > RX_BUFFER_SIZE,
        onRxInt rounds rx initInt.link data = .ok (after, link', actions)) ∧
      after.rxBufferPos ≤ RX_BUFFER_SIZE :=
  (receive_total _ initInt.link _ (Nat.le_refl _) (by decide)).2

end EspCoordinator.Protocol.Buffer
