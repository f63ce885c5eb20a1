import EspCoordinator.Protocol
import Mathlib.Data.List.TakeDrop

namespace EspCoordinator.Protocol

open Bytes

-- The parts of a header that depend on its first seven bytes only.
theorem NcpHeader.read_append {front : List UInt8} (rest : List UInt8) (h : 7 ≤ front.length) :
    NcpHeader.read (front ++ rest) = NcpHeader.read front := by
  have hget (i : Nat) (hi : i < 7) : (front ++ rest).getD i 0 = front.getD i 0 := by
    rw [List.getD_eq_getElem?_getD, List.getD_eq_getElem?_getD,
      List.getElem?_append_left (by omega)]
  have hlen : ((front ++ rest).drop 2).take 2 = (front.drop 2).take 2 := by
    rw [List.drop_append_of_le_length (by omega), List.take_append_of_le_length (by simp; omega)]
  simp only [NcpHeader.read, hlen, hget 4 (by omega), hget 5 (by omega), hget 6 (by omega)]

theorem headerOk_append {front : List UInt8} (rest : List UInt8) (h : 7 ≤ front.length) :
    HeaderOk (front ++ rest) ↔ HeaderOk front := by
  have htake : ((front ++ rest).drop 2).take 4 = (front.drop 2).take 4 := by
    rw [List.drop_append_of_le_length (by omega), List.take_append_of_le_length (by simp; omega)]
  simp only [HeaderOk, NcpHeader.read_append rest h, htake]

theorem findSignature_signature (rest : List UInt8) :
    findSignature (0xde :: 0xad :: rest) = some (0xde :: 0xad :: rest) := by
  simp [findSignature]

-- What is found is a suffix, and it starts with a signature or is a lone 0xDE.
theorem findSignature_spec {rxData p : List UInt8} (h : findSignature rxData = some p) :
    p <:+ rxData ∧ (p = [0xde] ∨ ∃ rest, p = 0xde :: 0xad :: rest) := by
  refine findSignature_induction
    (motive := fun data => p <:+ data ∧ (p = [0xde] ∨ ∃ rest, p = 0xde :: 0xad :: rest)) h ?_ ?_
  · rintro rest rfl (rfl | hnext)
    · exact ⟨List.suffix_refl _, .inl rfl⟩
    · obtain ⟨tail, rfl⟩ := List.head?_eq_some_iff.mp hnext
      exact ⟨List.suffix_refl _, .inr ⟨tail, rfl⟩⟩
  · rintro byte rest - - ⟨hsuffix, hp⟩
    exact ⟨hsuffix.trans (List.suffix_cons _ _), hp⟩

-- The bytes an item is known to take from the input.
def Item.size : Item → Nat
  | .skip => 2
  | .empty _ => 7
  | .badData _ => 9
  | .packet _ data => data.length + 9

-- Everything one iteration of the loop can consume.
theorem scan_item {rxData rest : List UInt8} {it : Item} (h : scan rxData = .item it rest) :
    ∃ p, findSignature rxData = some p ∧ 7 ≤ p.length ∧ rest <:+ p ∧
      it.size + rest.length ≤ p.length := by
  unfold scan at h
  split at h
  · simp at h
  split at h
  · simp at h
  rename_i p hp
  split at h
  · simp at h
  refine ⟨p, hp, by omega, ?_⟩
  dsimp only at h
  split_ifs at h <;> simp only [Scan.item.injEq] at h <;> obtain ⟨rfl, rfl⟩ := h <;>
    refine ⟨List.drop_suffix _ _, ?_⟩ <;>
    simp only [Item.size, List.length_drop, List.length_take, HEADER_SIZE] <;>
    omega

-- Everything the loop can stop with.
theorem scan_wait {rxData tail : List UInt8} (h : scan rxData = .wait tail) :
    (tail = rxData ∧ (rxData.length < 7 ∨ findSignature rxData = none)) ∨
    (findSignature rxData = some tail ∧
      (tail.length < 7 ∨
        HeaderOk tail ∧ tail.length < (NcpHeader.read tail).packetLen.toNat + 2)) := by
  unfold scan at h
  split at h
  · rename_i hshort
    obtain rfl := Scan.wait.inj h
    exact Or.inl ⟨rfl, Or.inl hshort⟩
  split at h
  · rename_i hnone
    obtain rfl := Scan.wait.inj h
    exact Or.inl ⟨rfl, Or.inr hnone⟩
  rename_i p hp
  split at h
  · rename_i hshort
    obtain rfl := Scan.wait.inj h
    exact Or.inr ⟨hp, Or.inl hshort⟩
  dsimp only at h
  split_ifs at h with hcrc hlen
  obtain rfl := Scan.wait.inj h
  exact Or.inr ⟨hp, Or.inr ⟨hcrc, hlen⟩⟩

theorem scan_wait_length {rxData tail : List UInt8} (h : scan rxData = .wait tail) :
    tail.length ≤ rxData.length := by
  rcases scan_wait h with ⟨rfl, -⟩ | ⟨hp, -⟩
  · exact Nat.le_refl _
  · exact findSignature_length hp

theorem scan_item_size {rxData rest : List UInt8} {it : Item} (h : scan rxData = .item it rest) :
    it.size + rest.length ≤ rxData.length := by
  obtain ⟨p, hp, -, -, hsize⟩ := scan_item h
  exact hsize.trans (findSignature_length hp)

def Action.data? : Action → Option (List UInt8)
  | .onRxData data => some data
  | .send _ => none

-- An ACK names the packet_seq it acknowledges. With is_nack it is a NACK.
def NcpHeader.ack? (rsp : NcpHeader) : Option (Fin 4) :=
  if rsp.isAck && !rsp.isNack then some rsp.ackSeq else none

def Action.rsp? : Action → Option NcpHeader
  | .send rsp => some rsp
  | .onRxData _ => none

def dispatched (actions : List Action) : List (List UInt8) := actions.filterMap Action.data?

def responses (actions : List Action) : List NcpHeader := actions.filterMap Action.rsp?

def acked (actions : List Action) : List (Fin 4) :=
  (responses actions).filterMap NcpHeader.ack?

@[simp] theorem dispatched_nil : dispatched [] = [] := rfl

@[simp] theorem dispatched_send (rsp : NcpHeader) (rest : List Action) :
    dispatched (.send rsp :: rest) = dispatched rest := rfl

@[simp] theorem dispatched_onRxData (data : List UInt8) (rest : List Action) :
    dispatched (.onRxData data :: rest) = data :: dispatched rest := rfl

@[simp] theorem dispatched_append (first second : List Action) :
    dispatched (first ++ second) = dispatched first ++ dispatched second :=
  List.filterMap_append

@[simp] theorem responses_nil : responses [] = [] := rfl

@[simp] theorem responses_send (rsp : NcpHeader) (rest : List Action) :
    responses (.send rsp :: rest) = rsp :: responses rest := rfl

@[simp] theorem responses_onRxData (data : List UInt8) (rest : List Action) :
    responses (.onRxData data :: rest) = responses rest := rfl

@[simp] theorem acked_append (first second : List Action) :
    acked (first ++ second) = acked first ++ acked second := by
  rw [acked, responses, List.filterMap_append, List.filterMap_append]
  rfl

def handleAll (link : Link) : List Item → Link × List Action
  | [] => (link, [])
  | it :: rest =>
      let (link, actions) := handle link it
      let (link, more) := handleAll link rest
      (link, actions ++ more)

theorem handleAll_append (link : Link) (first second : List Item) :
    handleAll link (first ++ second) =
      ((handleAll (handleAll link first).1 second).1,
        (handleAll link first).2 ++ (handleAll (handleAll link first).1 second).2) := by
  induction first generalizing link with
  | nil => rfl
  | cons it rest ih => simp only [List.cons_append, handleAll, ih, List.append_assoc]

-- What is cut from the bytes does not depend on how the items are handled.
theorem onRxLoop_eq (link : Link) (rxData : List UInt8) :
    onRxLoop link rxData =
      ((handleAll link (scanner.cut rxData).1).1, (handleAll link (scanner.cut rxData).1).2,
        (scanner.cut rxData).2) := by
  induction rxData using scanner.cut_induction generalizing link with
  | hwait rxData tail hs =>
      rw [scanner.cut_wait hs, onRxLoop]
      split <;> simp_all [scanner, handleAll]
  | hitem rxData it rest hs ih =>
      rw [scanner.cut_item hs, onRxLoop]
      split
      · simp_all [scanner]
      · rename_i it' rest' hs'
        obtain ⟨rfl, rfl⟩ : it' = it ∧ rest' = rest := by simpa [scanner, hs'] using hs
        simp only [ih, handleAll]

theorem onRxInt_eq (s : State) (data : List UInt8) :
    onRxInt s data =
      ({ rxBuffer := (scanner.cut (appendRx s.rxBuffer data)).2
         link := (handleAll s.link (scanner.cut (appendRx s.rxBuffer data)).1).1 },
        (handleAll s.link (scanner.cut (appendRx s.rxBuffer data)).1).2) := by
  simp only [onRxInt, onRxLoop_eq]

theorem onRx_append (s : State) (first second : List (List UInt8)) :
    onRx s (first ++ second) =
      ((onRx (onRx s first).1 second).1,
        (onRx s first).2 ++ (onRx (onRx s first).1 second).2) := by
  induction first generalizing s with
  | nil => rfl
  | cons data rest ih => simp only [List.cons_append, onRx, ih, List.append_assoc]

theorem appendRx_fits {rxBuffer data : List UInt8}
    (h : rxBuffer.length + data.length ≤ RX_BUFFER_SIZE) :
    appendRx rxBuffer data = rxBuffer ++ data := by
  rw [appendRx, if_neg (by omega)]

-- The buffer keeps the last RX_BUFFER_SIZE bytes.
theorem appendRx_eq {rxBuffer data : List UInt8} (h : data.length ≤ RX_BUFFER_SIZE) :
    appendRx rxBuffer data =
      (rxBuffer ++ data).drop (rxBuffer.length + data.length - RX_BUFFER_SIZE) := by
  by_cases hfits : rxBuffer.length + data.length ≤ RX_BUFFER_SIZE
  · rw [appendRx_fits hfits, Nat.sub_eq_zero_of_le hfits, List.drop_zero]
  rw [appendRx, if_pos (by omega)]
  by_cases hover : rxBuffer.length + data.length - RX_BUFFER_SIZE < rxBuffer.length
  · simp only [if_pos hover]
    rw [List.drop_append_of_le_length (by omega), List.take_of_length_le]
    simp only [List.length_drop]
    omega
  · have hfull : data.length = RX_BUFFER_SIZE := by omega
    simp [hfull]

theorem length_appendRx {rxBuffer data : List UInt8} (h : data.length ≤ RX_BUFFER_SIZE) :
    (appendRx rxBuffer data).length = min RX_BUFFER_SIZE (rxBuffer.length + data.length) := by
  rw [appendRx_eq h, List.length_drop, List.length_append]
  omega

end EspCoordinator.Protocol
