import EspCoordinator.Protocol.Frame

namespace EspCoordinator.Protocol

-- The bytes start with a whole header that the loop takes for genuine.
def Announced (rxData : List UInt8) : Prop :=
  rxData.take 2 = [0xde, 0xad] ∧ 7 ≤ rxData.length ∧ HeaderOk rxData

def announcedLen (rxData : List UInt8) : Nat := (NcpHeader.read rxData).packetLen.toNat + 2

-- An awaited frame can still be completed in the receive buffer.
def TailFits (tail : List UInt8) : Prop :=
  Announced tail → announcedLen tail ≤ RX_BUFFER_SIZE

-- An oversized header stands where a frame starts: before it lie only bytes
-- that the loop skips and frames that are complete.
inductive Oversized : List UInt8 → Prop where
  | header {p} : Announced p → RX_BUFFER_SIZE < announcedLen p → Oversized p
  | garbage {byte rest} : (byte :: rest).take 2 ≠ [0xde, 0xad] → Oversized rest →
      Oversized (byte :: rest)
  | badCrc {p} : p.take 2 = [0xde, 0xad] → ¬HeaderOk p → Oversized (p.drop 2) → Oversized p
  | badLen {p} : Announced p → announcedLen p ≤ p.length →
      announcedLen p < 9 → announcedLen p ≠ 7 → Oversized (p.drop 2) → Oversized p
  | frame {p} : Announced p → announcedLen p ≤ p.length →
      announcedLen p = 7 ∨ 9 ≤ announcedLen p → Oversized (p.drop (announcedLen p)) → Oversized p

theorem Oversized.length_ge {rxData : List UInt8} (h : Oversized rxData) : 7 ≤ rxData.length := by
  induction h with
  | header hp => exact hp.2.1
  | garbage _ _ ih => simp only [List.length_cons]; omega
  | badCrc _ _ _ ih => simp only [List.length_drop] at ih; omega
  | badLen hp => exact hp.2.1
  | frame hp => exact hp.2.1

-- Only the bytes from the signature on count.
theorem oversized_findSignature {rxData p : List UInt8} (h : findSignature rxData = some p) :
    Oversized rxData ↔ Oversized p := by
  refine findSignature_induction (motive := fun data => Oversized data ↔ Oversized p) h
    (fun _ _ _ => Iff.rfl) fun byte rest _ hnot ih => Iff.trans ?_ ih
  have htake : (byte :: rest).take 2 ≠ [0xde, 0xad] := by
    cases rest <;> simp_all
  constructor
  · intro ho
    cases ho with
    | header hp => exact absurd hp.1 htake
    | garbage _ ho => exact ho
    | badCrc hp => exact absurd hp htake
    | badLen hp => exact absurd hp.1 htake
    | frame hp => exact absurd hp.1 htake
  · exact Oversized.garbage htake

theorem take_of_findSignature_none {rxData : List UInt8} (h : findSignature rxData = none) :
    rxData.take 2 ≠ [0xde, 0xad] := by
  intro htake
  match rxData with
  | [] => simp at htake
  | [_] => simp at htake
  | first :: second :: rest =>
      simp only [List.take_succ_cons, List.take_zero, List.cons.injEq, and_true] at htake
      obtain ⟨rfl, rfl⟩ := htake
      simp [findSignature_signature] at h

theorem not_oversized_of_findSignature_none {rxData : List UInt8}
    (h : findSignature rxData = none) : ¬Oversized rxData := by
  induction rxData with
  | nil => exact fun ho => absurd ho.length_ge (by simp)
  | cons byte rest ih =>
      have htake := take_of_findSignature_none h
      simp only [findSignature] at h
      split at h
      · simp at h
      · intro ho
        cases ho with
        | header hp => exact htake hp.1
        | garbage _ ho => exact ih h ho
        | badCrc hp => exact htake hp
        | badLen hp => exact htake hp.1
        | frame hp => exact htake hp.1

theorem take_of_findSignature {rxData p : List UInt8} (h : findSignature rxData = some p)
    (hlen : 7 ≤ p.length) : p.take 2 = [0xde, 0xad] := by
  obtain ⟨-, rfl | ⟨rest, rfl⟩⟩ := findSignature_spec h
  · simp at hlen
  · rfl

theorem not_tailFits_iff {tail : List UInt8} :
    ¬TailFits tail ↔ Announced tail ∧ RX_BUFFER_SIZE < announcedLen tail := by
  simp [TailFits]

-- Where the loop goes on after an item.
theorem scan_rest {rxData rest : List UInt8} {it : Item} (h : scan rxData = .item it rest) :
    ∃ p, findSignature rxData = some p ∧ 7 ≤ p.length ∧
      (rest = p.drop 2 ∧
          (¬HeaderOk p ∨ HeaderOk p ∧ announcedLen p ≤ p.length ∧ announcedLen p < 9 ∧
            announcedLen p ≠ 7) ∨
        rest = p.drop (announcedLen p) ∧ HeaderOk p ∧ announcedLen p ≤ p.length ∧
          (announcedLen p = 7 ∨ 9 ≤ announcedLen p)) := by
  unfold scan at h
  split at h
  · simp at h
  split at h
  · simp at h
  rename_i p hp
  split at h
  · simp at h
  rename_i hlen
  have hann : announcedLen p = (NcpHeader.read p).packetLen.toNat + 2 := rfl
  refine ⟨p, hp, by omega, ?_⟩
  dsimp only at h
  split_ifs at h with hcrc hwait hempty hshort hdata <;>
    simp only [Scan.item.injEq] at h <;> obtain ⟨-, rfl⟩ := h
  · refine Or.inr ⟨?_, hcrc, by omega, Or.inl (by omega)⟩
    rw [hann, hempty, HEADER_SIZE]
  · exact Or.inl ⟨rfl, Or.inr ⟨hcrc, by omega, by omega, by omega⟩⟩
  · refine Or.inr ⟨?_, hcrc, by omega, Or.inr (by omega)⟩
    rw [hann, HEADER_SIZE]
    congr 1
    omega
  · refine Or.inr ⟨?_, hcrc, by omega, Or.inr (by omega)⟩
    rw [hann, HEADER_SIZE]
    congr 1
    omega
  · exact Or.inl ⟨rfl, Or.inl hcrc⟩

theorem oversized_scan {rxData rest : List UInt8} {it : Item} (h : scan rxData = .item it rest)
    (hlen : rxData.length ≤ RX_BUFFER_SIZE) : Oversized rxData ↔ Oversized rest := by
  obtain ⟨p, hp, hge, hrest⟩ := scan_rest h
  have hsig := take_of_findSignature hp hge
  have hle := findSignature_length hp
  rw [oversized_findSignature hp]
  constructor
  · intro ho
    cases ho with
    | header hann hbig =>
        rcases hrest with ⟨-, hbad | ⟨-, hfull, -⟩⟩ | ⟨-, -, hfull, -⟩
        · exact absurd hann.2.2 hbad
        · omega
        · omega
    | garbage htake _ => exact absurd hsig htake
    | badCrc _ hbad ho =>
        rcases hrest with ⟨rfl, -⟩ | ⟨-, hok, -⟩
        · exact ho
        · exact absurd hok hbad
    | badLen _ hfull hshort hne ho =>
        rcases hrest with ⟨rfl, -⟩ | ⟨-, -, -, hkind⟩
        · exact ho
        · omega
    | frame hann hfull hkind ho =>
        rcases hrest with ⟨-, hbad | ⟨-, -, hshort, hne⟩⟩ | ⟨rfl, -⟩
        · exact absurd hann.2.2 hbad
        · omega
        · exact ho
  · intro ho
    rcases hrest with ⟨rfl, hbad | ⟨hok, hfull, hshort, hne⟩⟩ | ⟨rfl, hok, hfull, hkind⟩
    · exact Oversized.badCrc hsig hbad ho
    · exact Oversized.badLen ⟨hsig, hge, hok⟩ hfull hshort hne ho
    · exact Oversized.frame ⟨hsig, hge, hok⟩ hfull hkind ho

theorem oversized_tail {rxData tail : List UInt8} (h : scan rxData = .wait tail) :
    Announced tail ∧ RX_BUFFER_SIZE < announcedLen tail ↔ Oversized rxData := by
  rcases scan_wait h with ⟨rfl, hshort | hnone⟩ | ⟨hp, hshort | ⟨hok, hincomplete⟩⟩
  · exact ⟨fun h => absurd h.1.2.1 (by omega), fun h => absurd h.length_ge (by omega)⟩
  · exact ⟨fun h => absurd h.1.1 (take_of_findSignature_none hnone),
      fun h => absurd h (not_oversized_of_findSignature_none hnone)⟩
  · rw [oversized_findSignature hp]
    exact ⟨fun h => absurd h.1.2.1 (by omega), fun h => absurd h.length_ge (by omega)⟩
  · rw [oversized_findSignature hp]
    constructor
    · exact fun h => Oversized.header h.1 h.2
    · intro ho
      have hge := ho.length_ge
      have hann : announcedLen tail = (NcpHeader.read tail).packetLen.toNat + 2 := rfl
      cases ho with
      | header hp hbig => exact ⟨hp, hbig⟩
      | garbage htake _ => exact absurd (take_of_findSignature hp hge) htake
      | badCrc _ hbad => exact absurd hok hbad
      | badLen _ hcomplete => omega
      | frame _ hcomplete => omega

-- The loop stops in front of an oversized header exactly when there is one
-- on its way.
theorem not_tailFits_cut_iff {rxData : List UInt8} (hlen : rxData.length ≤ RX_BUFFER_SIZE) :
    ¬TailFits (scanner.cut rxData).2 ↔ Oversized rxData := by
  induction rxData using scanner.cut_induction with
  | hwait rxData tail hs =>
      rw [scanner.cut_wait hs, not_tailFits_iff]
      exact oversized_tail hs
  | hitem rxData it rest hs ih =>
      have hrest := scan_shrinks hs
      rw [scanner.cut_item hs, ih (by omega), oversized_scan hs hlen]

theorem tailFits_onRxInt_iff (s : State) {data : List UInt8} (hd : data.length ≤ RX_BUFFER_SIZE) :
    TailFits (onRxInt s data).1.rxBuffer ↔ ¬Oversized (appendRx s.rxBuffer data) := by
  rw [onRxInt_eq, ← not_tailFits_cut_iff, not_not]
  rw [length_appendRx hd]
  exact min_le_left _ _

-- In every run, each call leaves a tail that fits exactly when no call meets
-- an oversized header where a frame starts.
theorem tailFits_iff_not_oversized {chunks : List (List UInt8)}
    (hc : ∀ chunk ∈ chunks, chunk.length ≤ RX_BUFFER_SIZE) :
    (∀ past, past <+: chunks → TailFits (onRx initInt past).1.rxBuffer) ↔
      ∀ past chunk, past ++ [chunk] <+: chunks →
        ¬Oversized (appendRx (onRx initInt past).1.rxBuffer chunk) := by
  have hstep (past : List (List UInt8)) (chunk : List UInt8) (hb : past ++ [chunk] <+: chunks) :
      TailFits (onRx initInt (past ++ [chunk])).1.rxBuffer ↔
        ¬Oversized (appendRx (onRx initInt past).1.rxBuffer chunk) := by
    rw [onRx_append]
    exact tailFits_onRxInt_iff _ (hc chunk (hb.subset (by simp)))
  constructor
  · exact fun h past chunk hb => (hstep past chunk hb).mp (h _ hb)
  · intro h past hpast
    rcases List.eq_nil_or_concat' past with rfl | ⟨before, chunk, rfl⟩
    · exact fun hann => absurd hann.2.1 (by simp [onRx, initInt])
    · exact (hstep before chunk hpast).mpr (h before chunk hpast)

-- A header with a valid CRC that announces `len + 2` bytes.
def announceHeader (len : UInt16) : NcpHeader :=
  NcpHeader.withCrc
    { packetLen := len, packetType := ZBOSS_NCP_API_HL, isAck := false, isNack := false
      packetSeq := 0, ackSeq := 0, firstFragment := true, lastFragment := true, headerCrc := 0 }

theorem announced_announceHeader (len : UInt16) :
    Announced (announceHeader len).bytes ∧
      announcedLen (announceHeader len).bytes = len.toNat + 2 := by
  have hread := NcpHeader.read_bytes (announceHeader len) []
  have hok : HeaderOk ((announceHeader len).bytes ++ []) := NcpHeader.headerOk_withCrc _ _
  rw [List.append_nil] at hread hok
  refine ⟨⟨by simp [NcpHeader.bytes], by rw [NcpHeader.length_bytes], hok⟩, ?_⟩
  rw [announcedLen, hread]
  rfl

theorem not_oversized_of_announced {p : List UInt8} (hann : Announced p)
    (hfits : announcedLen p ≤ RX_BUFFER_SIZE) (hpart : p.length < announcedLen p) :
    ¬Oversized p := by
  intro ho
  cases ho with
  | header _ hbig => omega
  | garbage htake _ => exact htake hann.1
  | badCrc _ hbad => exact hbad hann.2.2
  | badLen _ hfull => omega
  | frame _ hfull => omega

theorem tailFits_iff_not_oversized_header :
    TailFits (onRx initInt [(announceHeader 1022).bytes]).1.rxBuffer := by
  have hlen : ∀ chunk ∈ [(announceHeader 1022).bytes], chunk.length ≤ RX_BUFFER_SIZE := by
    simp [RX_BUFFER_SIZE]
  have hall := (tailFits_iff_not_oversized hlen).mpr
  obtain ⟨hann, hsize⟩ := announced_announceHeader 1022
  refine hall (fun past chunk hb => ?_) _ (List.prefix_refl _)
  obtain ⟨rfl, rfl⟩ : past = [] ∧ chunk = (announceHeader 1022).bytes := by
    cases past <;> simp_all
  rw [appendRx_fits (by simp [onRx, initInt, RX_BUFFER_SIZE])]
  refine not_oversized_of_announced hann ?_ ?_
  · change announcedLen (announceHeader 1022).bytes ≤ RX_BUFFER_SIZE
    rw [hsize]
    decide
  · change (announceHeader 1022).bytes.length < announcedLen (announceHeader 1022).bytes
    rw [hsize, NcpHeader.length_bytes]
    decide

-- Seven bytes are enough: the loop then waits for 65537 bytes.
theorem not_tailFits_of_announceHeader :
    let chunk := (announceHeader 65535).bytes
    (1 ≤ chunk.length ∧ chunk.length ≤ RX_BUFFER_SIZE) ∧
      ¬TailFits (onRx initInt [chunk]).1.rxBuffer := by
  intro chunk
  have hlen : chunk.length = 7 := NcpHeader.length_bytes _
  obtain ⟨hann, hbig⟩ := announced_announceHeader 65535
  refine ⟨by simp [hlen, RX_BUFFER_SIZE], ?_⟩
  simp only [onRx]
  rw [tailFits_onRxInt_iff _ (by simp [hlen, RX_BUFFER_SIZE]), not_not,
    appendRx_fits (by simp [initInt, hlen, RX_BUFFER_SIZE])]
  refine Oversized.header hann ?_
  change RX_BUFFER_SIZE < announcedLen (announceHeader 65535).bytes
  rw [hbig]
  decide

end EspCoordinator.Protocol
