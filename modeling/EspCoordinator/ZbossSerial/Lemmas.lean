import EspCoordinator.Lib.Incremental
import EspCoordinator.Protocol.Incremental
import EspCoordinator.ZbossSerial

namespace EspCoordinator.ZbossSerial

open Bytes

variable {buffer p : List UInt8}

-- The tables of the two sides are the same.
theorem crc8_eq (buf : List UInt8) : crc8 buf = Utils.crc8 buf := by
  have htable : crc8_table = Utils.crc8_table := rfl
  simp only [crc8, Utils.crc8, htable]

theorem crc16_eq (buf : List UInt8) : crc16 buf = Utils.crc16 buf := by
  have htable : crc16_table = Utils.crc16_table := rfl
  simp only [crc16, Utils.crc16, htable]

theorem findStart_cons (rest : List UInt8) :
    findStart (0xde :: 0xad :: rest) = some (0xde :: 0xad :: rest) := by
  simp [findStart]

theorem findStart_spec (h : findStart buffer = some p) :
    p <:+ buffer ∧ ∃ rest, p = 0xde :: 0xad :: rest := by
  induction buffer with
  | nil => simp [findStart] at h
  | cons byte rest ih =>
      rw [findStart] at h
      split at h
      · rename_i hsig
        cases h
        obtain ⟨rfl, hnext⟩ := hsig
        cases rest with
        | nil => simp at hnext
        | cons next rest =>
            cases hnext
            exact ⟨List.suffix_refl _, rest, rfl⟩
      · obtain ⟨hsuffix, hp⟩ := ih h
        exact ⟨hsuffix.trans (List.suffix_cons _ _), hp⟩

theorem findStart_self (h : findStart buffer = some p) : findStart p = some p := by
  obtain ⟨-, rest, rfl⟩ := findStart_spec h
  exact findStart_cons rest

theorem findStart_append (h : findStart buffer = some p) (more : List UInt8) :
    findStart (buffer ++ more) = some (p ++ more) := by
  induction buffer with
  | nil => simp [findStart] at h
  | cons byte rest ih =>
      cases rest with
      | nil => simp [findStart] at h
      | cons next rest =>
          have hsame : (next :: rest ++ more).head? = (next :: rest).head? := rfl
          rw [findStart] at h
          rw [List.cons_append, findStart, hsame]
          split at h
          · rename_i hsig
            cases h
            rw [if_pos hsig]
            rfl
          · rename_i hnot
            rw [if_neg hnot]
            exact ih h

-- Garbage without a signature hides none that is completed later.
theorem findStart_dropGarbage (h : findStart buffer = none) (more : List UInt8) :
    findStart (buffer ++ more) = findStart (dropGarbage buffer ++ more) := by
  induction buffer with
  | nil => rfl
  | cons byte rest ih =>
      rw [findStart] at h
      split at h
      · simp at h
      · rename_i hnot
        cases rest with
        | nil =>
            by_cases hbyte : byte = 0xde
            · rw [hbyte]
              rfl
            · simp [findStart, dropGarbage, hbyte]
        | cons next rest =>
            have hskip : ¬(byte = 0xde ∧ (next :: rest ++ more).head? = some 0xad) := by
              simpa using hnot
            have hlast : dropGarbage (byte :: next :: rest) = dropGarbage (next :: rest) := by
              simp only [dropGarbage, List.getLast?_cons_cons]
            rw [List.cons_append, findStart, if_neg hskip, hlast]
            exact ih h

-- The two searches differ in a 0xDE at the very end only.
theorem findSignature_of_findStart (h : findStart buffer = some p) :
    Protocol.findSignature buffer = some p := by
  induction buffer with
  | nil => simp [findStart] at h
  | cons byte rest ih =>
      rw [findStart] at h
      rw [Protocol.findSignature]
      split at h
      · rename_i hsig
        rw [if_pos ⟨hsig.1, Or.inr hsig.2⟩]
        exact h
      · rename_i hnot
        have hskip : ¬(byte = 0xde ∧ (rest = [] ∨ rest.head? = some 0xad)) := by
          rintro ⟨hbyte, rfl | hnext⟩
          · simp [findStart] at h
          · exact hnot ⟨hbyte, hnext⟩
        rw [if_neg hskip]
        exact ih h

theorem findStart_of_findSignature (h : Protocol.findSignature buffer = some p)
    (hlen : 2 ≤ p.length) : findStart buffer = some p := by
  induction buffer with
  | nil => simp [Protocol.findSignature] at h
  | cons byte rest ih =>
      rw [Protocol.findSignature] at h
      rw [findStart]
      split at h
      · rename_i hsig
        cases h
        rcases hsig with ⟨hbyte, rfl | hnext⟩
        · simp at hlen
        · rw [if_pos ⟨hbyte, hnext⟩]
      · rename_i hnot
        rw [if_neg fun hsig => hnot ⟨hsig.1, Or.inr hsig.2⟩]
        exact ih h

theorem scan_eq_of_findStart (h : findStart buffer = some p) (hlen : 7 ≤ p.length) :
    scan buffer = scan p := by
  have hle := findStart_length h
  unfold scan
  rw [if_neg (by omega), if_neg (by omega), h, findStart_self h]

theorem scan_wait_of_short (h : findStart buffer = some p) (hlen : p.length < 7) :
    ∃ tail, scan buffer = .wait tail := by
  by_cases hshort : buffer.length < 7
  · exact ⟨buffer, by rw [scan, if_pos hshort]⟩
  · refine ⟨p, ?_⟩
    unfold scan
    rw [if_neg hshort, h]
    exact if_pos hlen

theorem finds_scanner : scanner.Finds findStart where
  none {buffer} h := by
    by_cases hshort : buffer.length < 7
    · refine ⟨buffer, ?_⟩
      change scan buffer = .wait buffer
      rw [scan, if_pos hshort]
    · refine ⟨dropGarbage buffer, ?_⟩
      change scan buffer = .wait (dropGarbage buffer)
      unfold scan
      rw [if_neg hshort, h]
  some {buffer p} h := by
    by_cases hlen : p.length < 7
    · exact Or.inr ⟨scan_wait_of_short h hlen, scan_wait_of_short (findStart_self h) hlen⟩
    · exact Or.inl (scan_eq_of_findStart h (by omega))

theorem getUint16_append {pos : Nat} (more : List UInt8) (h : pos + 2 ≤ buffer.length) :
    getUint16 (buffer ++ more) pos = getUint16 buffer pos := by
  rw [getUint16, List.drop_append_of_le_length (by omega),
    List.take_append_of_le_length (by simp; omega), getUint16]

-- What one iteration finds once the signature is in front.
theorem scan_of_signature (h : findStart p = some p) (hlen : 7 ≤ p.length) :
    scan p =
      if getUint16 p 2 ≠ 5 ∧ getUint16 p 2 < 7 then .item .skip (p.drop 2)
      else if crc8 ((p.drop 2).take 4) ≠ p.getD 6 0 then .item .skip (p.drop 2)
      else if p.length < getUint16 p 2 + 2 then .wait p
      else .item (.frame (getUint16 p 2) (p.take (getUint16 p 2 + 2)))
        (p.drop (getUint16 p 2 + 2)) := by
  unfold scan
  rw [if_neg (by omega), h]
  exact if_neg (by omega)

theorem scan_item_find {it : Item} {rest : List UInt8} (h : scan buffer = .item it rest) :
    ∃ p, findStart buffer = some p ∧ 7 ≤ p.length := by
  unfold scan at h
  split at h
  · simp at h
  split at h
  · simp at h
  rename_i p hp
  split at h
  · simp at h
  exact ⟨p, hp, by omega⟩

theorem scan_append {it : Item} {rest : List UInt8} (h : scan buffer = .item it rest)
    (more : List UInt8) : scan (buffer ++ more) = .item it (rest ++ more) := by
  obtain ⟨p, hp, hlen⟩ := scan_item_find h
  have hpm := findStart_append hp more
  have hlenm : 7 ≤ (p ++ more).length := by simp; omega
  rw [scan_eq_of_findStart hp hlen, scan_of_signature (findStart_self hp) hlen] at h
  rw [scan_eq_of_findStart hpm hlenm, scan_of_signature (findStart_self hpm) hlenm,
    getUint16_append more (by omega)]
  have hdrop (count : Nat) (hc : count ≤ p.length) :
      (p ++ more).drop count = p.drop count ++ more := List.drop_append_of_le_length hc
  have hinput : ((p ++ more).drop 2).take 4 = (p.drop 2).take 4 := by
    rw [hdrop 2 (by omega), List.take_append_of_le_length (by simp; omega)]
  have hcrc : (p ++ more).getD 6 0 = p.getD 6 0 := by
    rw [List.getD_eq_getElem?_getD, List.getD_eq_getElem?_getD,
      List.getElem?_append_left (by omega)]
  rw [hinput, hcrc]
  split_ifs at h with hbad hhdr hshort
  all_goals
    obtain ⟨rfl, rfl⟩ := Scan.item.inj h
  · rw [if_pos hbad, hdrop 2 (by omega)]
  · rw [if_neg hbad, if_pos hhdr, hdrop 2 (by omega)]
  · rw [if_neg hbad, if_neg hhdr, if_neg (by simp; omega), hdrop _ (by omega),
      List.take_append_of_le_length (by omega)]

theorem scan_wait {tail : List UInt8} (h : scan buffer = .wait tail) :
    tail = buffer ∨ (findStart buffer = none ∧ tail = dropGarbage buffer) ∨
      findStart buffer = some tail := by
  unfold scan at h
  split at h
  · exact Or.inl (Scan.wait.inj h).symm
  split at h
  · rename_i hnone
    exact Or.inr (Or.inl ⟨hnone, (Scan.wait.inj h).symm⟩)
  rename_i p hp
  split at h
  · obtain rfl := Scan.wait.inj h
    exact Or.inr (Or.inr hp)
  dsimp only at h
  split_ifs at h
  obtain rfl := Scan.wait.inj h
  exact Or.inr (Or.inr hp)

-- The buffer of the web page may be fed in any chunks.
theorem incremental_scanner : scanner.Incremental where
  item := scan_append
  wait {buffer tail} hs more received := by
    rcases scan_wait hs with rfl | ⟨hnone, rfl⟩ | hp
    · rfl
    · exact finds_scanner.cutAt_congr received (findStart_dropGarbage hnone more)
    · refine finds_scanner.cutAt_congr received ?_
      rw [findStart_append hp, findStart_append (findStart_self hp)]

def handleAll (s : State) : List Item → State × List Action
  | [] => (s, [])
  | it :: rest =>
      let (s, actions) := handle s it
      let (s, more) := handleAll s rest
      (s, actions ++ more)

-- Handling a frame neither looks at the buffer nor changes it.
theorem handle_buffer (s : State) (buffer : List UInt8) (it : Item) :
    handle { s with buffer } it = ({ (handle s it).1 with buffer }, (handle s it).2) := by
  cases it with
  | skip => rfl
  | frame packet_len frame =>
      simp only [handle, onFrame]
      split
      · rfl
      split
      · rfl
      split
      · split
        · rfl
        · simp only [deliver]
          split
          · rfl
          · split <;> rfl
      · rfl

theorem handleAll_buffer (s : State) (buffer : List UInt8) (items : List Item) :
    handleAll { s with buffer } items =
      ({ (handleAll s items).1 with buffer }, (handleAll s items).2) := by
  induction items generalizing s with
  | nil => rfl
  | cons it rest ih => simp only [handleAll, handle_buffer, ih]

-- What is cut from the buffer does not depend on how the frames are handled.
theorem processBuffer_eq (s : State) :
    processBuffer s =
      ({ (handleAll s (scanner.cut s.buffer).1).1 with buffer := (scanner.cut s.buffer).2 },
        (handleAll s (scanner.cut s.buffer).1).2) := by
  induction hb : s.buffer using scanner.cut_induction generalizing s with
  | hwait input tail hs =>
      rw [scanner.cut_wait hs, processBuffer]
      split <;> simp_all [scanner, handleAll]
  | hitem input it rest hs ih =>
      rw [scanner.cut_item hs, processBuffer]
      split
      · simp_all [scanner]
      · rename_i it' rest' hs'
        obtain ⟨rfl, rfl⟩ : it' = it ∧ rest' = rest := by
          rw [hb] at hs'
          simpa [scanner, hs'] using hs
        have hnext := ih { (handle s it').1 with buffer := rest' } rfl
        rw [handleAll_buffer] at hnext
        simp only [handle_buffer, hnext, handleAll]

theorem read_eq (s : State) (value : List UInt8) :
    let cut := scanner.cut (s.buffer ++ value)
    read s value =
      ({ (handleAll s cut.1).1 with buffer := cut.2 }, (handleAll s cut.1).2) := by
  simp only [read, processBuffer_eq, handleAll_buffer]

end EspCoordinator.ZbossSerial
