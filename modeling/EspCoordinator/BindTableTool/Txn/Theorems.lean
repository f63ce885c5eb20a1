import EspCoordinator.BindTableTool.Txn
import EspCoordinator.Lib.Channel
import EspCoordinator.Utils.Crc

namespace EspCoordinator.BindTableTool

open Bytes
open Protocol (IsDataFrame Link NcpHeader RX_BUFFER_SIZE)
open Restore (Layout)

section Tool

variable {cmdId : UInt16} {buf tail rest : List UInt8} {piece : Piece}

theorem scan_wait (h : scan buf = .wait tail) : tail = buf := by
  unfold scan at h
  dsimp only at h
  split_ifs at h <;> (cases h; rfl)

theorem scan_append (h : scan buf = .item piece rest) (more : List UInt8) :
    scan (buf ++ more) = .item piece (rest ++ more) := by
  unfold scan at h
  dsimp only at h
  by_cases hlen : buf.length < 9
  · rw [if_pos hlen] at h
    cases h
  have hget (i : Nat) (hi : i < 9) : (buf ++ more).getD i 0 = buf.getD i 0 := by
    simp only [List.getD_eq_getElem?_getD, List.getElem?_append_left (show i < buf.length by omega)]
  have hplen : ((buf ++ more).drop 2).take 2 = (buf.drop 2).take 2 := by
    rw [List.drop_append_of_le_length (by omega),
      List.take_append_of_le_length (by rw [List.length_drop]; omega)]
  have hlong : ¬(buf ++ more).length < 9 := by
    rw [List.length_append]
    omega
  unfold scan
  rw [if_neg hlong, hget 0 (by omega), hget 1 (by omega)]
  dsimp only
  rw [hplen]
  rw [if_neg hlen] at h
  split_ifs at h with hsig hshort
  · cases h
    rw [if_pos hsig, List.drop_append_of_le_length (by omega)]
  · cases h
    have hfits : ¬2 + ofLE ((buf.drop 2).take 2) > (buf ++ more).length := by
      rw [List.length_append]
      omega
    rw [if_neg hsig, if_neg hfits, List.take_append_of_le_length (by omega),
      List.drop_append_of_le_length (by omega)]

theorem incremental_scanner : scanner.Incremental where
  item := scan_append
  wait {buf tail} h more received := by rw [scan_wait h]

-- How txn ends at the bytes, if it does
def seen (cmdId : UInt16) (bytes : List UInt8) : Option (Except Exit Answer) :=
  (scanner.cut bytes).1.findSome? (examine cmdId)

theorem seen_wait (h : scan buf = .wait buf) : seen cmdId buf = none := by
  rw [seen, scanner.cut_wait h]
  rfl

theorem seen_short (h : buf.length < 9) : seen cmdId buf = none :=
  seen_wait (by rw [scan, if_pos h])

theorem seen_item (h : scan buf = .item piece rest) :
    seen cmdId buf = (examine cmdId piece).or (seen cmdId rest) := by
  rw [seen, seen, scanner.cut_item h, List.findSome?_cons]
  cases examine cmdId piece <;> rfl

-- More bytes cannot take an end away.
theorem seen_of_append (more : List UInt8) (h : seen cmdId (buf ++ more) = none) :
    seen cmdId buf = none := by
  have hcut := congrArg (List.map Prod.fst) (incremental_scanner.cutAt_append buf more 0)
  rw [List.map_append, Scanner.map_fst_cutAt, Scanner.map_fst_cutAt] at hcut
  rw [seen, hcut, List.findSome?_append, Option.or_eq_none_iff] at h
  exact h.1

theorem framePass_wait (h : scan buf = .wait tail) : framePass cmdId buf = .wait tail := by
  rw [framePass]
  split <;> simp_all

theorem framePass_item (h : scan buf = .item piece rest) :
    framePass cmdId buf = ((examine cmdId piece).map .ended).getD (framePass cmdId rest) := by
  rw [framePass]
  split
  · simp_all
  · next hscan =>
      rw [h] at hscan
      cases hscan
      cases examine cmdId piece <;> rfl

theorem framePass_eq (cmdId : UInt16) (buf : List UInt8) :
    framePass cmdId buf = ((seen cmdId buf).map .ended).getD (.wait (scanner.cut buf).2) := by
  induction buf using scanner.cut_induction with
  | hwait buf tail hs =>
      obtain rfl := scan_wait hs
      rw [framePass_wait hs, seen_wait hs, scanner.cut_wait hs]
      rfl
  | hitem buf piece rest hs ih =>
      rw [framePass_item hs, seen_item hs, scanner.cut_item hs, ih]
      cases examine cmdId piece <;> rfl

def outcome (r : Option (Except Exit Answer)) : Except Exit (Option Answer) :=
  match r with
  | some r => r.map some
  | none => .ok none

-- It does not matter how the bytes come in.
theorem awaitAnswer_eq (cmdId : UInt16) {buf : List UInt8} (hbuf : (scanner.cut buf).1 = [])
    (reads : List (List UInt8)) :
    awaitAnswer cmdId buf reads = outcome (seen cmdId (buf ++ reads.flatten)) := by
  suffices h : ∀ received, awaitAnswer cmdId buf reads =
      outcome (((scanner.feed received buf reads).1.map Prod.fst).findSome? (examine cmdId)) by
    rw [h 0, incremental_scanner.feed_eq 0 reads hbuf, Scanner.map_fst_cutAt]
    rfl
  clear hbuf
  induction reads generalizing buf with
  | nil => exact fun _ => rfl
  | cons chunk reads ih =>
      intro received
      have hpass := framePass_eq cmdId (buf ++ chunk)
      simp only [Scanner.feed, List.map_append, Scanner.map_fst_cutAt, Scanner.cutAt_snd,
        List.findSome?_append]
      change _ = outcome ((seen cmdId (buf ++ chunk)).or _)
      rw [awaitAnswer, hpass]
      cases seen cmdId (buf ++ chunk) with
      | some r => rfl
      | none => exact ih (received + chunk.length)

end Tool

section Frames

variable {cmdId : UInt16} {f : List UInt8}

theorem scan_framed (hf : Framed f) (rest : List UInt8) (hlen : 9 ≤ (f ++ rest).length) :
    scan (f ++ rest) = .item (.frame f) rest := by
  have hplen := hf.plen
  have hheader := hf.header
  have hword : ((f ++ rest).drop 2).take 2 = (f.drop 2).take 2 := by
    rw [List.drop_append_of_le_length (by omega),
      List.take_append_of_le_length (by rw [List.length_drop]; omega)]
  have hmark : ¬((f ++ rest).getD 0 0 ≠ 0xDE ∨ (f ++ rest).getD 1 0 ≠ 0xAD) := by
    obtain ⟨tail, rfl⟩ := hf.signature
    simp
  have hfits : ¬2 + ofLE ((f.drop 2).take 2) > (f ++ rest).length := by
    rw [List.length_append]
    omega
  rw [scan, if_neg (by omega), if_neg hmark]
  dsimp only
  rw [hword, if_neg hfits, show 2 + ofLE ((f.drop 2).take 2) = f.length by omega,
    List.take_left, List.drop_left]

-- An incomplete frame is waited for.
theorem seen_incomplete (hf : Framed f) {count : Nat} (h : count < f.length) :
    seen cmdId (f.take count) = none := by
  have hplen := hf.plen
  have htake : (f.take count).length = count := List.length_take_of_le (by omega)
  by_cases hshort : count < 9
  · exact seen_short (by omega)
  have hword : ((f.take count).drop 2).take 2 = (f.drop 2).take 2 := by
    rw [List.drop_take, List.take_take, Nat.min_eq_left (by omega)]
  have hmark : ¬((f.take count).getD 0 0 ≠ 0xDE ∨ (f.take count).getD 1 0 ≠ 0xAD) := by
    obtain ⟨tail, rfl⟩ := hf.signature
    obtain ⟨left, rfl⟩ : ∃ left, count = left + 2 := ⟨count - 2, by omega⟩
    simp
  refine seen_wait ?_
  rw [scan, if_neg (by omega), if_neg hmark]
  dsimp only
  rw [hword, if_pos (by omega)]

theorem examine_frame (cmdId : UInt16) (hlen : 6 ≤ f.length) :
    examine cmdId (.frame f) =
      if (NcpHeader.read f).isAck then none
      else (readAnswer cmdId (Protocol.payload f)).map .ok := by
  have hack : (NcpHeader.read f).isAck = decide (f.getD 5 0 &&& 0x01 = 1) :=
    (congrArg ZbossSerial.Flags.isACK (ZbossSerial.flags_read f)).symm
  have hget : f[5]? = some (f.getD 5 0) := by
    rw [List.getD_eq_getElem?_getD, List.getElem?_eq_getElem (by omega)]
    rfl
  have hbit : ∀ n : Fin 256, UInt8.ofNat n &&& 0x01 ≠ 0 ↔ UInt8.ofNat n &&& 0x01 = 1 := by
    decide +kernel
  have hflags := hbit ⟨(f.getD 5 0).toNat, (f.getD 5 0).toNat_lt⟩
  rw [UInt8.ofNat_toNat] at hflags
  simp only [examine, hget, hack, hflags, decide_eq_true_eq]
  rfl

theorem framed_dataFrame (hf : IsDataFrame f) : Framed f where
  signature := hf.eq_cons
  plen := by
    have hplen := hf.packetLen
    rw [ZbossSerial.packetLen_read] at hplen
    exact hplen
  header := by
    have hlen := hf.length_ge
    omega

-- If there are any bytes, they start like a frame.
def Opens (bytes : List UInt8) : Prop := ∀ b, bytes.head? = some b → b = 0xDE

theorem opens_nil : Opens [] := nofun

theorem Opens.append {first second : List UInt8} (hfirst : Opens first) (hsecond : Opens second) :
    Opens (first ++ second) := by
  cases first with
  | nil => exact hsecond
  | cons b rest => exact hfirst

theorem Opens.take {bytes : List UInt8} (h : Opens bytes) (count : Nat) :
    Opens (bytes.take count) := by
  cases bytes with
  | nil => simpa using opens_nil
  | cons b rest =>
      cases count with
      | zero => exact opens_nil
      | succ count => exact h

theorem Framed.opens (hf : Framed f) : Opens f := by
  obtain ⟨tail, rfl⟩ := hf.signature
  rintro _ ⟨⟩
  rfl

-- Whole frames, one behind the other, and the answer that is seen in them
structure Shows (cmdId : UInt16) (bytes : List UInt8) (answer : Option Answer) : Prop where
  opens : Opens bytes
  seen_append : ∀ rest, seen cmdId (bytes ++ rest) = (answer.map .ok).or (seen cmdId rest)

theorem shows_nil : Shows cmdId [] none := ⟨opens_nil, fun _ => rfl⟩

theorem Shows.append {first second : List UInt8} {answer other : Option Answer}
    (hfirst : Shows cmdId first answer) (hsecond : Shows cmdId second other) :
    Shows cmdId (first ++ second) (answer.or other) := by
  refine ⟨hfirst.opens.append hsecond.opens, fun rest => ?_⟩
  rw [List.append_assoc, hfirst.seen_append, hsecond.seen_append]
  cases answer <;> rfl

theorem Shows.cons {first second data : List UInt8} {datas : List (List UInt8)}
    (hfirst : Shows cmdId first (readAnswer cmdId data))
    (hsecond : Shows cmdId second (datas.findSome? (readAnswer cmdId))) :
    Shows cmdId (first ++ second) ((data :: datas).findSome? (readAnswer cmdId)) := by
  rw [← List.singleton_append, List.findSome?_append, List.findSome?_singleton]
  exact hfirst.append hsecond

theorem Shows.seen_eq {bytes : List UInt8} {answer : Option Answer} (h : Shows cmdId bytes answer) :
    seen cmdId bytes = answer.map .ok := by
  have hseen := h.seen_append []
  have hnil : seen cmdId [] = none := seen_short (show ([] : List UInt8).length < 9 by decide)
  rwa [List.append_nil, hnil, Option.or_none] at hseen

theorem shows_dataFrame (hf : IsDataFrame f) :
    Shows cmdId f (readAnswer cmdId (Protocol.payload f)) := by
  refine ⟨(framed_dataFrame hf).opens, fun rest => ?_⟩
  have hlen := hf.length_ge
  have hscan := scan_framed (framed_dataFrame hf) rest
    (by rw [List.length_append]; omega)
  rw [seen_item hscan, examine_frame cmdId (by omega), hf.isAck]
  rfl

-- An acknowledgement is passed over. As long as it is the last thing that has
-- come, it is not even looked at.
theorem shows_ack {rsp : NcpHeader} (hpacket : rsp.packetLen = 5) (hack : rsp.isAck = true) :
    Shows cmdId rsp.withCrc.bytes none := by
  have hsize := NcpHeader.length_bytes rsp.withCrc
  have hread := NcpHeader.read_bytes rsp.withCrc []
  rw [List.append_nil] at hread
  have hlen : rsp.withCrc.packetLen = 5 := by simp [NcpHeader.withCrc, hpacket]
  have hflag : rsp.withCrc.isAck = true := by simp [NcpHeader.withCrc, hack]
  have hframed : Framed rsp.withCrc.bytes := by
    refine ⟨⟨_, rfl⟩, ?_, hsize.ge⟩
    have hplen := ZbossSerial.packetLen_read rsp.withCrc.bytes
    rw [hread, hlen] at hplen
    rw [hsize]
    exact congrArg (· + 2) hplen.symm
  refine ⟨hframed.opens, fun rest => ?_⟩
  by_cases hshort : rest.length < 2
  · rw [seen_short (by rw [List.length_append]; omega), seen_short (by omega)]
    rfl
  · have hscan := scan_framed hframed rest (by rw [List.length_append]; omega)
    rw [seen_item hscan, examine_frame cmdId (by omega), hread, hflag]
    rfl

theorem sendData_sent (link : Link) {data : List UInt8} (hlen : data.length ≤ 2039) :
    (data = [] ∧ (Session.sendData link data).2 = []) ∨
      IsDataFrame (Session.sendData link data).2 ∧
        Protocol.payload (Session.sendData link data).2 = data := by
  by_cases hne : data = []
  · subst hne
    exact .inl ⟨rfl, rfl⟩
  · obtain ⟨frame, hsent, hf, hpayload, -⟩ := ZbossSerial.isDataFrame_sendDataInt link hne hlen
    have hbytes : (Session.sendData link data).2 = frame := by
      simp only [Session.sendData, hsent]
      rfl
    rw [hbytes]
    exact .inr ⟨hf, hpayload⟩

theorem shows_sendData (link : Link) {data : List UInt8} (hlen : data.length ≤ 2039) :
    Shows cmdId (Session.sendData link data).2 (readAnswer cmdId data) := by
  rcases sendData_sent link hlen with ⟨rfl, hnone⟩ | ⟨hf, hpayload⟩
  · rw [hnone]
    exact shows_nil
  · have hshows : Shows cmdId _ _ := shows_dataFrame hf
    rwa [hpayload] at hshows

theorem sendAll_append (link : Link) (datas more : List (List UInt8)) :
    (Session.sendAll link (datas ++ more)).2 =
      (Session.sendAll link datas).2 ++
        (Session.sendAll (Session.sendAll link datas).1 more).2 := by
  induction datas generalizing link with
  | nil => rfl
  | cons data rest ih => simp only [List.cons_append, Session.sendAll, ih, List.append_assoc]

theorem shows_sendAll (link : Link) {datas : List (List UInt8)}
    (hlen : ∀ data ∈ datas, data.length ≤ 2039) :
    Shows cmdId (Session.sendAll link datas).2 (datas.findSome? (readAnswer cmdId)) := by
  induction datas generalizing link with
  | nil => exact shows_nil
  | cons data datas ih =>
      exact (shows_sendData link (hlen data List.mem_cons_self)).cons
        (ih (Session.sendData link data).1
          fun other hother => hlen other (List.mem_cons_of_mem data hother))

-- The rest of a frame is passed over byte by byte, as long as there is nothing
-- in it that looks like a frame.
theorem seen_torn {torn rest : List UInt8} (htorn : ¬[0xDE, 0xAD] <:+: torn) (hrest : Opens rest) :
    seen cmdId (torn ++ rest) = seen cmdId rest := by
  induction torn with
  | nil => rfl
  | cons b tail ih =>
      have htail := ih fun hinfix => htorn (List.infix_cons hinfix)
      rw [← htail, List.cons_append]
      by_cases hshort : (b :: (tail ++ rest)).length < 9
      · rw [seen_short hshort, seen_short (by rw [List.length_cons] at hshort; omega)]
      · have hmark : (b :: (tail ++ rest)).getD 0 0 ≠ 0xDE ∨
            (b :: (tail ++ rest)).getD 1 0 ≠ 0xAD := by
          by_contra hsigned
          obtain ⟨hfirst, hsecond⟩ := not_or.mp hsigned
          obtain rfl : b = 0xDE := not_not.mp hfirst
          cases tail with
          | nil =>
              cases rest with
              | nil => exact hsecond (by decide)
              | cons next rest =>
                  have hopen := hrest next rfl
                  refine hsecond ?_
                  rw [hopen]
                  exact show (0xDE : UInt8) ≠ 0xAD by decide
          | cons next tail =>
              obtain rfl : next = 0xAD := not_not.mp hsecond
              exact htorn (List.prefix_append [0xDE, 0xAD] tail).isInfix
        have hscan : scan (b :: (tail ++ rest)) = .item .other (tail ++ rest) := by
          rw [scan, if_neg hshort, if_pos hmark, List.drop_one, List.tail_cons]
        rw [seen_item hscan]
        rfl

-- A rest that looks like a frame of three bytes has txn raise.
theorem seen_torn_raises (rest : List UInt8) (hlen : 5 ≤ rest.length) :
    seen cmdId ([0xDE, 0xAD, 0x03, 0x00] ++ rest) = some (.error .raised) := by
  obtain ⟨b, tail, rfl⟩ := List.exists_cons_of_length_pos (show 0 < rest.length by omega)
  have hlong : ¬([0xDE, 0xAD, 0x03, 0x00] ++ b :: tail).length < 9 := by
    rw [List.length_append]
    exact Nat.not_lt.mpr (Nat.add_le_add_left hlen 4)
  have hscan : scan ([0xDE, 0xAD, 0x03, 0x00] ++ b :: tail) =
      .item (.frame [0xDE, 0xAD, 0x03, 0x00, b]) tail := by
    rw [scan, if_neg hlong]
    have hplen : ofLE ((([0xDE, 0xAD, 0x03, 0x00] ++ b :: tail).drop 2).take 2) = 3 := rfl
    simp only [hplen]
    simp
  rw [seen_item hscan]
  rfl

-- The last byte of what has to come is missing.
theorem seen_dropLast {front : List UInt8} (hfront : Shows cmdId front none)
    (hf : f = [] ∨ Framed f) : seen cmdId (front ++ f).dropLast = none := by
  rcases hf with rfl | hf
  · rw [List.append_nil, List.dropLast_eq_take]
    refine seen_of_append (front.drop (front.length - 1)) ?_
    rw [List.take_append_drop, hfront.seen_eq]
    rfl
  · have hheader := hf.header
    have hne : f ≠ [] := List.ne_nil_of_length_pos (by omega)
    rw [List.dropLast_append_of_ne_nil hne, hfront.seen_append, List.dropLast_eq_take]
    exact seen_incomplete hf (by omega)

end Frames

section Device

variable {σ : Type*} (handlers : ZbNcp.Handlers σ)

theorem flatten_chunks (counts : List Nat) (bytes : List UInt8) :
    (chunks counts bytes).flatten = bytes := by
  induction counts generalizing bytes with
  | nil => exact List.append_nil bytes
  | cons count counts ih => rw [chunks, List.flatten_cons, ih, List.take_append_drop]

theorem handleAll_append (link : Link) (app : σ) (first second : List Protocol.Item) :
    Session.handleAll false handlers link app (first ++ second) =
      let handled := Session.handleAll false handlers link app first
      let behind := Session.handleAll false handlers handled.1 handled.2.1 second
      (behind.1, behind.2.1, handled.2.2 ++ behind.2.2) := by
  induction first generalizing link app with
  | nil => rfl
  | cons it rest ih => simp only [List.cons_append, Session.handleAll, ih, List.append_assoc]

-- As long as the receive buffer has room for all of it, the chunks do not matter.
theorem receive_eq (d : Session.Device σ) (received : Nat) (reads : List (List UInt8))
    (hfits : d.protocol.rxBuffer.length + reads.flatten.length ≤ RX_BUFFER_SIZE) :
    let fed := Protocol.scanner.feed received d.protocol.rxBuffer reads
    let handled :=
      Session.handleAll false handlers d.protocol.link d.app (fed.1.map Prod.fst)
    receive handlers d reads =
      ({ protocol := { rxBuffer := fed.2, link := handled.1 }, app := handled.2.1 },
        handled.2.2) := by
  induction reads generalizing d received with
  | nil => rfl
  | cons chunk rest ih =>
      rw [List.flatten_cons, List.length_append] at hfits
      have hroom : Protocol.appendRx d.protocol.rxBuffer chunk = d.protocol.rxBuffer ++ chunk :=
        Protocol.appendRx_fits (by omega)
      have hleft := Protocol.scanner.sum_size_cut Protocol.Item.size Protocol.scan_wait_length
        Protocol.scan_item_size (d.protocol.rxBuffer ++ chunk)
      rw [List.length_append] at hleft
      have hrest := ih (Session.onRx false handlers d chunk).1 (received + chunk.length)
        (by simp only [Session.onRx, hroom]; omega)
      simp only [Session.onRx, hroom] at hrest
      simp only [receive, Session.onRx, hroom, hrest, Scanner.feed, List.map_append,
        Scanner.map_fst_cutAt, Scanner.cutAt_snd, handleAll_append]

theorem handle_request {frame : List UInt8} (hf : IsDataFrame frame) (link : Link) :
    ∃ (next : Link) (rsp : NcpHeader), Protocol.handle link (Protocol.frameItem frame) =
        (next, [.send rsp.withCrc, .onRxData (Protocol.payload frame)]) ∧
      rsp.packetLen = 5 ∧ rsp.isAck = true := by
  simp only [Protocol.frameItem, Protocol.handle, Protocol.onRxPacket, hf.isAck, hf.isNack,
    hf.packetType, Protocol.sendAck, Protocol.reply]
  exact ⟨_, _, rfl, rfl, rfl⟩

-- An idle receiver takes a frame out whole.
theorem receive_dataFrame {frame : List UInt8} (hf : IsDataFrame frame) {d : Session.Device σ}
    (hidle : d.protocol.rxBuffer = []) {reads : List (List UInt8)} (hcut : reads.flatten = frame)
    (hfits : frame.length ≤ RX_BUFFER_SIZE) :
    let handled := Session.handleAll false handlers d.protocol.link d.app
      [Protocol.frameItem frame]
    receive handlers d reads =
      ({ protocol := { rxBuffer := [], link := handled.1 }, app := handled.2.1 }, handled.2.2) := by
  have hnone : (Protocol.scanner.cut []).1 = [] := by rw [Protocol.cut_nil]
  have hscan : Protocol.scanner.scan frame = .item (Protocol.frameItem frame) [] := by
    have happ := hf.scan_append []
    rwa [List.append_nil] at happ
  have hitems : (Protocol.scanner.feed 0 [] reads).1.map Prod.fst = [Protocol.frameItem frame] := by
    rw [Protocol.incremental_scanner.feed_eq 0 reads hnone, Scanner.map_fst_cutAt,
      List.nil_append, hcut, Protocol.scanner.cut_item hscan, Protocol.cut_nil]
  have hnothing : (Protocol.scanner.feed 0 [] reads).2 = [] := by
    have hsum := Scanner.sum_size_feed (S := Protocol.scanner) Protocol.Item.size
      Protocol.scan_wait_length Protocol.scan_item_size 0 [] reads
    have hone := congrArg (List.map Protocol.Item.size) hitems
    have hlen := hf.length_ge
    rw [List.map_map] at hone
    rw [show (Protocol.scanner.feed 0 [] reads).1.map (fun found => found.1.size) =
      [(Protocol.frameItem frame).size] from hone, hcut] at hsum
    simp only [Protocol.frameItem, Protocol.Item.size, Protocol.payload, List.length_drop,
      List.sum_singleton, List.length_nil] at hsum
    exact List.length_eq_zero_iff.mp (by omega)
  have hreceive := receive_eq handlers d 0 reads
    (by rw [hidle, hcut, List.length_nil]; omega)
  simp only [hidle, hitems, hnothing] at hreceive
  exact hreceive

theorem buildRequest_eq (req : Request) (hlen : 14 + req.payload.length ≤ RX_BUFFER_SIZE) :
    buildRequest req =
      Protocol.encodeFrame
        { packetLen := 0, packetType := Protocol.ZBOSS_NCP_API_HL, isAck := false, isNack := false
          packetSeq := 0, ackSeq := 0, firstFragment := true, lastFragment := true
          headerCrc := 0 }
        (inner req) := by
  have hinner : (inner req).length = 5 + req.payload.length := by
    simp [inner]
    omega
  have hsize : (UInt16.ofNat ((inner req).length + Protocol.HEADER_SIZE)).toNat =
      7 + (inner req).length := by
    simp only [RX_BUFFER_SIZE] at hlen
    simp only [UInt16.toNat_ofNat', Protocol.HEADER_SIZE]
    omega
  simp only [buildRequest, Utils.bindTableTool_crc8_eq, ← Utils.bindTableTool_crc16_eq,
    Protocol.encodeFrame, NcpHeader.bytes, NcpHeader.withCrc, NcpHeader.crcInput, NcpHeader.flags,
    hsize]
  generalize inner req = data
  simp [toLE, Protocol.ZBOSS_NCP_API_HL]

theorem onRxData_request (s : σ) {req : Request} {id : CommandId}
    (hid : CommandId.find req.cmdId = some id) :
    ZbNcp.onRxData false handlers s (inner req) = handlers id s req.cmd req.payload := by
  have hinner : inner req = req.cmd.bytes ++ req.payload := rfl
  have hlong : ¬(req.cmd.bytes ++ req.payload).length < CMD_SIZE := by
    rw [List.length_append, Cmd.length_bytes]
    omega
  have hdrop : (req.cmd.bytes ++ req.payload).drop CMD_SIZE = req.payload := rfl
  have hfind : CommandId.find req.cmd.commandId = some id := hid
  rw [hinner, ZbNcp.onRxData, if_neg hlong, ZbNcp.readCmd_bytes]
  simp only [hdrop, hfind, Bool.false_eq_true, if_false]
  rfl

-- A request is acknowledged and carried out once, in whatever chunks it comes
-- and whatever frame was the last one.
theorem receive_request {d : Session.Device σ} (hidle : d.protocol.rxBuffer = []) {req : Request}
    {id : CommandId} (hid : CommandId.find req.cmdId = some id)
    (hlen : 14 + req.payload.length ≤ RX_BUFFER_SIZE) (counts : List Nat) :
    let handled := handlers id d.app req.cmd req.payload
    ∃ (link : Link) (rsp : NcpHeader),
      receive handlers d (chunks counts (buildRequest req)) =
          ({ protocol := { rxBuffer := [], link := (Session.sendAll link handled.2).1 }
             app := handled.1 },
            rsp.withCrc.bytes ++ (Session.sendAll link handled.2).2) ∧
        rsp.packetLen = 5 ∧ rsp.isAck = true := by
  intro handled
  have hbuild := buildRequest_eq req hlen
  have hinner : (inner req).length = 5 + req.payload.length := by
    simp [inner]
    omega
  have hf : IsDataFrame (buildRequest req) := by
    rw [hbuild]
    refine Protocol.isDataFrame_encodeFrame _ _ rfl rfl rfl ?_
    simp only [RX_BUFFER_SIZE] at hlen
    omega
  have hpayload : Protocol.payload (buildRequest req) = inner req := by
    rw [hbuild, Protocol.payload_encodeFrame]
  have hsize : (buildRequest req).length = (inner req).length + 9 := by
    rw [hbuild, Protocol.length_encodeFrame]
  have hreceive := receive_dataFrame handlers hf hidle
    (flatten_chunks counts (buildRequest req)) (by rw [hsize]; omega)
  obtain ⟨link, rsp, hhandle, hpacket, hack⟩ := handle_request hf d.protocol.link
  rw [hpayload] at hhandle
  refine ⟨link, rsp, hreceive.trans ?_, hpacket, hack⟩
  have hserve := onRxData_request handlers d.app hid
  simp only [Session.handleAll, hhandle, Session.perform, hserve, List.append_nil]
  rfl

end Device

end EspCoordinator.BindTableTool
