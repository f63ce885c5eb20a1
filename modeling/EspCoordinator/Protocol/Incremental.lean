import EspCoordinator.Lib.Incremental
import EspCoordinator.Protocol.Chunking

namespace EspCoordinator.Protocol

open Bytes

variable {rxData p : List UInt8}

theorem findSignature_self (h : findSignature rxData = some p) : findSignature p = some p := by
  rcases (findSignature_spec h).2 with rfl | ⟨rest, rfl⟩
  · rfl
  · exact findSignature_signature rest

-- The bytes in front of the signature can be forgotten, even when only its
-- 0xDE has arrived.
theorem findSignature_append (h : findSignature rxData = some p) (more : List UInt8) :
    findSignature (rxData ++ more) = findSignature (p ++ more) := by
  refine findSignature_induction
    (motive := fun data => findSignature (data ++ more) = findSignature (p ++ more)) h
    (fun _ _ _ => rfl) fun byte rest hrest hnot ih => ?_
  cases rest with
  | nil => simp [findSignature] at hrest
  | cons next rest =>
      have hskip : ¬(byte = 0xde ∧
          (next :: rest ++ more = [] ∨ (next :: rest ++ more).head? = some 0xad)) := by
        simpa using hnot
      rw [List.cons_append, findSignature, if_neg hskip]
      exact ih

theorem findSignature_append_of_length (h : findSignature rxData = some p) (hlen : 2 ≤ p.length)
    (more : List UInt8) : findSignature (rxData ++ more) = some (p ++ more) := by
  rw [findSignature_append h]
  rcases (findSignature_spec h).2 with rfl | ⟨rest, rfl⟩
  · simp at hlen
  · exact findSignature_signature (rest ++ more)

-- The loop looks at nothing in front of the signature.
theorem scan_eq_of_findSignature (h : findSignature rxData = some p) (hlen : 7 ≤ p.length) :
    scan rxData = scan p := by
  have hle := findSignature_length h
  unfold scan
  rw [if_neg (by omega), if_neg (by omega), h, findSignature_self h]

theorem scan_wait_of_short (h : findSignature rxData = some p) (hlen : p.length < 7) :
    ∃ tail, scan rxData = .wait tail := by
  by_cases hshort : rxData.length < 7
  · exact ⟨rxData, by rw [scan, if_pos hshort]⟩
  · refine ⟨p, ?_⟩
    unfold scan
    rw [if_neg hshort, h]
    exact if_pos hlen

theorem finds_scanner : scanner.Finds findSignature where
  none {rxData} h := by
    refine ⟨rxData, ?_⟩
    change scan rxData = .wait rxData
    unfold scan
    split
    · rfl
    · rw [h]
  some {rxData p} h := by
    by_cases hlen : p.length < 7
    · exact Or.inr ⟨scan_wait_of_short h hlen, scan_wait_of_short (findSignature_self h) hlen⟩
    · exact Or.inl (scan_eq_of_findSignature h (by omega))

-- What the loop finds once the signature is in front.
theorem scan_of_signature (h : findSignature p = some p) (hlen : 7 ≤ p.length) :
    scan p =
      let hdr := NcpHeader.read p
      let data := (p.drop (HEADER_SIZE + 2)).take (hdr.packetLen.toNat - 5 - 2)
      let rest := p.drop (HEADER_SIZE + 2 + (hdr.packetLen.toNat - 5 - 2))
      if ¬HeaderOk p then .item .skip (p.drop 2)
      else if p.length < hdr.packetLen.toNat + 2 then .wait p
      else if hdr.packetLen.toNat = 5 then .item (.empty hdr) (p.drop HEADER_SIZE)
      else if hdr.packetLen.toNat < 7 then .item .skip (p.drop 2)
      else if Utils.crc16 data ≠ UInt16.ofNat (ofLE ((p.drop HEADER_SIZE).take 2)) then
        .item (.badData hdr) rest
      else .item (.packet hdr data) rest := by
  unfold scan
  rw [if_neg (by omega), h]
  exact if_neg (by omega)

-- An item that has been found does not depend on what arrives behind it.
theorem scan_append {rest : List UInt8} {it : Item} (h : scan rxData = .item it rest)
    (more : List UInt8) : scan (rxData ++ more) = .item it (rest ++ more) := by
  obtain ⟨p, hp, hlen, -, -⟩ := scan_item h
  have hpm := findSignature_append_of_length hp (by omega) more
  have hlenm : 7 ≤ (p ++ more).length := by simp; omega
  have hdrop (count : Nat) (hc : count ≤ p.length) :
      (p ++ more).drop count = p.drop count ++ more := List.drop_append_of_le_length hc
  have hslice (start len : Nat) (hsl : start + len ≤ p.length) :
      ((p ++ more).drop start).take len = (p.drop start).take len := by
    rw [hdrop start (by omega), List.take_append_of_le_length (by simp; omega)]
  have hok := headerOk_append more hlen
  have hsize : HEADER_SIZE = 7 := rfl
  rw [scan_eq_of_findSignature hp hlen, scan_of_signature (findSignature_self hp) hlen] at h
  rw [scan_eq_of_findSignature hpm hlenm, scan_of_signature (findSignature_self hpm) hlenm,
    NcpHeader.read_append more hlen]
  dsimp only at h ⊢
  split_ifs at h with hhdr hshort hempty hbad hdata
  all_goals
    obtain ⟨rfl, rfl⟩ := Scan.item.inj h
  · rw [if_neg (not_not.mpr (hok.mpr hhdr)), if_neg (by simp; omega), if_pos hempty,
      hdrop HEADER_SIZE hlen]
  · rw [if_neg (not_not.mpr (hok.mpr hhdr)), if_neg (by simp; omega), if_neg hempty, if_pos hbad,
      hdrop 2 (by omega)]
  · rw [if_neg (not_not.mpr (hok.mpr hhdr)), if_neg (by simp; omega), if_neg hempty, if_neg hbad,
      hslice (HEADER_SIZE + 2) _ (by omega), hslice HEADER_SIZE 2 (by omega), if_pos hdata,
      hdrop _ (by omega)]
  · rw [if_neg (not_not.mpr (hok.mpr hhdr)), if_neg (by simp; omega), if_neg hempty, if_neg hbad,
      hslice (HEADER_SIZE + 2) _ (by omega), hslice HEADER_SIZE 2 (by omega), if_neg hdata,
      hdrop _ (by omega)]
  · rw [if_pos (mt hok.mp hhdr), hdrop 2 (by omega)]

-- The receiver of the protocol layer may be fed in any chunks.
theorem incremental_scanner : scanner.Incremental where
  item := scan_append
  wait {input tail} hs more received := by
    rcases scan_wait hs with ⟨rfl, -⟩ | ⟨hp, -⟩
    · rfl
    · exact finds_scanner.cutAt_congr received (findSignature_append hp more)

-- In no call the received bytes have to give way to a chunk.
def NeverOverflows (s : State) (chunks : List (List UInt8)) : Prop :=
  ∀ past chunk, past ++ [chunk] <+: chunks →
    (onRx s past).1.rxBuffer.length + chunk.length ≤ RX_BUFFER_SIZE

theorem NeverOverflows.head {s : State} {chunk : List UInt8} {rest : List (List UInt8)}
    (h : NeverOverflows s (chunk :: rest)) :
    s.rxBuffer.length + chunk.length ≤ RX_BUFFER_SIZE :=
  h [] chunk (by simp)

theorem NeverOverflows.tail {s : State} {chunk : List UInt8} {rest : List (List UInt8)}
    (h : NeverOverflows s (chunk :: rest)) : NeverOverflows (onRxInt s chunk).1 rest :=
  fun past next hpre => h (chunk :: past) next (by simpa using hpre)

theorem NeverOverflows.cons {s : State} {chunk : List UInt8} {rest : List (List UInt8)}
    (hchunk : s.rxBuffer.length + chunk.length ≤ RX_BUFFER_SIZE)
    (hrest : NeverOverflows (onRxInt s chunk).1 rest) : NeverOverflows s (chunk :: rest) := by
  intro past next hpre
  cases past with
  | nil =>
      obtain rfl : next = chunk := by simpa using hpre
      exact hchunk
  | cons first past =>
      obtain ⟨rfl, hpast⟩ := List.cons_prefix_cons.mp hpre
      exact hrest past next hpast

-- No way of cutting a stream that fits the buffer as a whole overflows.
theorem neverOverflows_of_length {s : State} {chunks : List (List UInt8)}
    (h : s.rxBuffer.length + chunks.flatten.length ≤ RX_BUFFER_SIZE) : NeverOverflows s chunks := by
  induction chunks generalizing s with
  | nil => exact fun past next hpre => by simp at hpre
  | cons chunk rest ih =>
      rw [List.flatten_cons, List.length_append] at h
      have hleft := wireSize_onRxInt s chunk
      rw [length_appendRx (by omega)] at hleft
      exact NeverOverflows.cons (by omega) (ih (by omega))

-- A run without overflow handles the items of the chunks fed to the scanner.
theorem onRx_eq_feed {s : State} {chunks : List (List UInt8)} (received : Nat)
    (hfits : NeverOverflows s chunks) :
    let fed := scanner.feed received s.rxBuffer chunks
    onRx s chunks =
      ({ rxBuffer := fed.2, link := (handleAll s.link (fed.1.map Prod.fst)).1 },
        (handleAll s.link (fed.1.map Prod.fst)).2) := by
  induction chunks generalizing s received with
  | nil => rfl
  | cons chunk rest ih =>
      have hrest := ih (received + chunk.length) hfits.tail
      have hcall := onRxInt_eq s chunk
      rw [appendRx_fits hfits.head, ← scanner.map_fst_cutAt (received + chunk.length),
        ← scanner.cutAt_snd (received + chunk.length)] at hcall
      simp only [hcall] at hrest
      simp only [onRx, hcall, hrest, Scanner.feed, List.map_append, handleAll_append]

-- An idle receiver acknowledges and dispatches a frame that fits the buffer,
-- in whatever chunks it arrives.
theorem onRx_dataFrame {frame : List UInt8} (hf : IsDataFrame frame) (link : Link)
    {chunks : List (List UInt8)} (hcut : chunks.flatten = frame)
    (hfits : frame.length ≤ RX_BUFFER_SIZE) :
    (onRx { rxBuffer := [], link } chunks).2 =
      (sendAck link (NcpHeader.read frame)).2 ++ [.onRxData (payload frame)] := by
  have hnone : (scanner.cut []).1 = [] := by rw [cut_nil]
  have hnever : NeverOverflows { rxBuffer := [], link } chunks :=
    neverOverflows_of_length (by rw [hcut, List.length_nil, Nat.zero_add]; exact hfits)
  have hitems : (scanner.feed 0 [] chunks).1.map Prod.fst = [frameItem frame] := by
    have hs : scanner.scan frame = .item (frameItem frame) [] := by
      have happ := hf.scan_append []
      rwa [List.append_nil] at happ
    rw [incremental_scanner.feed_eq 0 chunks hnone, scanner.map_fst_cutAt, List.nil_append, hcut,
      scanner.cut_item hs, cut_nil]
  rw [onRx_eq_feed 0 hnever]
  simp only [hitems, handleAll, handle, frameItem, onRxPacket, hf.isAck, hf.isNack, hf.packetType]
  simp

-- Any two ways of cutting the same bytes lead to the same actions.
theorem onRx_actions_of_flatten_eq {first second : List (List UInt8)}
    (hflat : first.flatten = second.flatten) (hfirst : NeverOverflows initInt first)
    (hsecond : NeverOverflows initInt second) :
    (onRx initInt first).2 = (onRx initInt second).2 := by
  have hnone : (scanner.cut initInt.rxBuffer).1 = [] := by rw [initInt, cut_nil]
  have hsame : (scanner.feed 0 initInt.rxBuffer first).1 =
      (scanner.feed 0 initInt.rxBuffer second).1 := by
    rw [incremental_scanner.feed_eq 0 first hnone, incremental_scanner.feed_eq 0 second hnone,
      hflat]
  rw [onRx_eq_feed 0 hfirst, onRx_eq_feed 0 hsecond]
  simp only [hsame]

theorem onRx_actions_of_flatten_eq_split :
    (onRx initInt [zeroFrame 20]).2 =
      (onRx initInt [(zeroFrame 20).take 11, (zeroFrame 20).drop 11]).2 := by
  have hlen := length_zeroFrame 20
  exact onRx_actions_of_flatten_eq (by simp)
    (neverOverflows_of_length (by simp [hlen, initInt, RX_BUFFER_SIZE]))
    (neverOverflows_of_length (by simp [hlen, initInt, RX_BUFFER_SIZE]))

end EspCoordinator.Protocol
