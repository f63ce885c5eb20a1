import Mathlib.Data.List.Basic
import Mathlib.Logic.Nontrivial.Basic

namespace EspCoordinator

-- What a buffer holds at each index. How long it is, its owner says.
def Memory (β : Type*) := Nat → β

namespace Memory

variable {β : Type*} {memory other : Memory β} {offset size index : Nat} {bytes : List β}

def fill (byte : β) : Memory β := fun _ => byte

def read (memory : Memory β) (offset size : Nat) : List β :=
  (List.range size).map fun index => memory (offset + index)

def write (memory : Memory β) (offset : Nat) (bytes : List β) : Memory β := fun index =>
  if offset ≤ index then (bytes[index - offset]?).getD (memory index) else memory index

@[simp] theorem length_read (memory : Memory β) (offset size : Nat) :
    (memory.read offset size).length = size := by
  simp [read]

@[simp] theorem read_zero (memory : Memory β) (offset : Nat) : memory.read offset 0 = [] := rfl

theorem getElem?_read (memory : Memory β) (offset : Nat) (h : index < size) :
    (memory.read offset size)[index]? = some (memory (offset + index)) := by
  rw [read, List.getElem?_map, List.getElem?_range h, Option.map_some]

theorem read_congr {start : Nat}
    (h : ∀ index < size, memory (offset + index) = other (start + index)) :
    memory.read offset size = other.read start size :=
  List.map_congr_left fun index hindex => h index (List.mem_range.mp hindex)

theorem read_add (memory : Memory β) (offset first second : Nat) :
    memory.read offset (first + second) =
      memory.read offset first ++ memory.read (offset + first) second := by
  simp only [read, List.range_add, List.map_append, List.map_map, Function.comp_def, Nat.add_assoc]

theorem read_succ (memory : Memory β) (offset size : Nat) :
    memory.read offset (size + 1) = memory offset :: memory.read (offset + 1) size := by
  rw [Nat.add_comm, read_add]
  rfl

theorem take_read (memory : Memory β) (offset : Nat) {count size : Nat} (h : count ≤ size) :
    (memory.read offset size).take count = memory.read offset count := by
  obtain ⟨rest, rfl⟩ := Nat.exists_eq_add_of_le h
  rw [read_add, List.take_left' (length_read _ _ _)]

theorem drop_read (memory : Memory β) (offset : Nat) {count size : Nat} (h : count ≤ size) :
    (memory.read offset size).drop count = memory.read (offset + count) (size - count) := by
  obtain ⟨rest, rfl⟩ := Nat.exists_eq_add_of_le h
  rw [read_add, List.drop_left' (length_read _ _ _), Nat.add_sub_cancel_left]

theorem write_outside (h : index < offset ∨ offset + bytes.length ≤ index) :
    memory.write offset bytes index = memory index := by
  unfold write
  split
  · rw [List.getElem?_eq_none (by omega), Option.getD_none]
  · rfl

theorem write_inside (h : index < bytes.length) :
    memory.write offset bytes (offset + index) = bytes[index] := by
  rw [write, if_pos (Nat.le_add_right _ _), Nat.add_sub_cancel_left, List.getElem?_eq_getElem h,
    Option.getD_some]

theorem read_write (memory : Memory β) (offset : Nat) (bytes : List β) :
    (memory.write offset bytes).read offset bytes.length = bytes := by
  apply List.ext_getElem?
  intro index
  by_cases hindex : index < bytes.length
  · rw [getElem?_read _ _ hindex, write_inside hindex, List.getElem?_eq_getElem hindex]
  · rw [List.getElem?_eq_none (by rw [length_read]; omega), List.getElem?_eq_none (by omega)]

theorem read_write_outside {start : Nat}
    (h : start + size ≤ offset ∨ offset + bytes.length ≤ start) :
    (memory.write offset bytes).read start size = memory.read start size :=
  read_congr fun index hindex => write_outside (by omega)

-- What lies in front of the bytes that are written, and the bytes.
theorem read_write_end (memory : Memory β) (offset : Nat) (bytes : List β) :
    (memory.write offset bytes).read 0 (offset + bytes.length) = memory.read 0 offset ++ bytes := by
  rw [read_add, read_write_outside (.inl (by omega)), Nat.zero_add, read_write]

-- One write of a function into its buffer.
structure Store (β : Type*) where
  offset : Nat
  bytes : List β
deriving DecidableEq, Repr

def Store.Covers (store : Store β) (index : Nat) : Prop :=
  store.offset ≤ index ∧ index < store.offset + store.bytes.length

instance (store : Store β) (index : Nat) : Decidable (store.Covers index) :=
  inferInstanceAs (Decidable (_ ∧ _))

def storeAll (memory : Memory β) (stores : List (Store β)) : Memory β :=
  stores.foldl (fun memory store => memory.write store.offset store.bytes) memory

def Covered (stores : List (Store β)) (index : Nat) : Prop := ∃ store ∈ stores, store.Covers index

instance (stores : List (Store β)) (index : Nat) : Decidable (Covered stores index) :=
  inferInstanceAs (Decidable (∃ _ ∈ stores, _))

variable {stores : List (Store β)} {store : Store β}

@[simp] theorem covered_append (first second : List (Store β)) :
    Covered (first ++ second) index ↔ Covered first index ∨ Covered second index := by
  simp [Covered, or_and_right, exists_or]

theorem covered_cons {rest : List (Store β)} :
    Covered (store :: rest) index ↔ store.Covers index ∨ Covered rest index := by
  simp [Covered]

-- Nothing that is written reaches that far.
theorem not_covered_of_within (h : ∀ store ∈ stores, store.offset + store.bytes.length ≤ index) :
    ¬Covered stores index := by
  rintro ⟨store, hmem, hcovers⟩
  exact Nat.not_lt.mpr (h store hmem) hcovers.2

theorem write_congr (store : Store β) (h : store.Covers index ∨ memory index = other index) :
    memory.write store.offset store.bytes index = other.write store.offset store.bytes index := by
  by_cases hcovers : store.Covers index
  · obtain ⟨inner, rfl⟩ := Nat.exists_eq_add_of_le hcovers.1
    have hinner : inner < store.bytes.length := by
      have hend := hcovers.2
      omega
    rw [write_inside hinner, write_inside hinner]
  · have hout : index < store.offset ∨ store.offset + store.bytes.length ≤ index := by
      simp only [Store.Covers] at hcovers
      omega
    rw [write_outside hout, write_outside hout]
    exact h.resolve_left hcovers

-- What was there before matters only where nothing has been written.
theorem storeAll_congr (stores : List (Store β))
    (h : Covered stores index ∨ memory index = other index) :
    memory.storeAll stores index = other.storeAll stores index := by
  induction stores generalizing memory other with
  | nil => exact h.resolve_left (by simp [Covered])
  | cons store rest ih =>
      apply ih
      rcases h with ⟨found, hmem, hcovers⟩ | heq
      · rcases List.mem_cons.mp hmem with rfl | hmem
        · exact .inr (write_congr found (.inl hcovers))
        · exact .inl ⟨found, hmem, hcovers⟩
      · exact .inr (write_congr store (.inr heq))

theorem storeAll_not_covered (stores : List (Store β)) (h : ¬Covered stores index) :
    memory.storeAll stores index = memory index := by
  induction stores generalizing memory with
  | nil => rfl
  | cons store rest ih =>
      have hrest : ¬Covered rest index := fun ⟨found, hmem, hcovers⟩ =>
        h ⟨found, List.mem_cons_of_mem _ hmem, hcovers⟩
      have hstore : ¬store.Covers index := fun hcovers => h ⟨store, List.mem_cons_self, hcovers⟩
      refine (ih hrest).trans (write_outside ?_)
      simp only [Store.Covers] at hstore
      omega

-- The bytes that are read are the same whatever was there before, just when
-- every one of them has been written.
theorem read_storeAll_iff [Nontrivial β] (stores : List (Store β)) (offset size : Nat) :
    (∀ memory other : Memory β,
      (memory.storeAll stores).read offset size = (other.storeAll stores).read offset size) ↔
      ∀ index < size, Covered stores (offset + index) := by
  constructor
  · intro hsame index hindex
    by_contra huncovered
    obtain ⟨byte, another, hne⟩ := exists_pair_ne β
    have hget := congrArg (·[index]?) (hsame (fill byte) (fill another))
    rw [getElem?_read _ _ hindex, getElem?_read _ _ hindex, storeAll_not_covered _ huncovered,
      storeAll_not_covered _ huncovered] at hget
    exact hne (Option.some.inj hget)
  · exact fun hcovered memory other =>
      read_congr fun index hindex => storeAll_congr stores (.inl (hcovered index hindex))

theorem storeAll_append (memory : Memory β) (first second : List (Store β)) :
    memory.storeAll (first ++ second) = (memory.storeAll first).storeAll second :=
  List.foldl_append

theorem write_write (memory : Memory β) (offset : Nat) (first second : List β) :
    (memory.write offset first).write (offset + first.length) second =
      memory.write offset (first ++ second) := by
  funext index
  simp only [write]
  by_cases hfront : offset + first.length ≤ index
  · have hinner : index - offset - first.length = index - (offset + first.length) := by omega
    have hbehind : first[index - offset]? = none := List.getElem?_eq_none (by omega)
    rw [if_pos hfront, if_pos (by omega), if_pos (by omega),
      List.getElem?_append_right (by omega), hinner, hbehind, Option.getD_none]
  · rw [if_neg hfront]
    by_cases hstart : offset ≤ index
    · rw [if_pos hstart, if_pos hstart, List.getElem?_append_left (by omega)]
    · rw [if_neg hstart, if_neg hstart]

-- A second write to the first index.
theorem write_head (memory : Memory β) (offset : Nat) (byte new : β) (rest : List β) :
    (memory.write offset (byte :: rest)).write offset [new] = memory.write offset (new :: rest) := by
  funext index
  simp only [write]
  by_cases hstart : offset ≤ index
  · rw [if_pos hstart, if_pos hstart, if_pos hstart]
    cases hinner : index - offset with
    | zero => rfl
    | succ inner => simp
  · rw [if_neg hstart, if_neg hstart, if_neg hstart]

-- One write right behind the other.
def consecutive (offset : Nat) : List (List β) → List (Store β)
  | [] => []
  | part :: rest => { offset, bytes := part } :: consecutive (offset + part.length) rest

theorem consecutive_append (offset : Nat) (first second : List (List β)) :
    consecutive offset (first ++ second) =
      consecutive offset first ++ consecutive (offset + first.flatten.length) second := by
  induction first generalizing offset with
  | nil => rfl
  | cons part rest ih =>
      rw [List.cons_append, consecutive, consecutive, ih, List.flatten_cons, List.length_append,
        Nat.add_assoc, List.cons_append]

theorem storeAll_consecutive (memory : Memory β) (offset : Nat) (parts : List (List β)) :
    memory.storeAll (consecutive offset parts) = memory.write offset parts.flatten := by
  induction parts generalizing memory offset with
  | nil =>
      funext index
      simp [consecutive, storeAll, write]
  | cons part rest ih =>
      change (memory.write offset part).storeAll (consecutive (offset + part.length) rest) = _
      rw [ih, List.flatten_cons, write_write]

theorem consecutive_within (parts : List (List β)) (offset size : Nat) (hne : parts ≠ []) :
    (∀ store ∈ consecutive offset parts, store.offset + store.bytes.length ≤ size) ↔
      offset + parts.flatten.length ≤ size := by
  induction parts generalizing offset with
  | nil => exact absurd rfl hne
  | cons part rest ih =>
      rw [consecutive, List.forall_mem_cons, List.flatten_cons, List.length_append]
      cases rest with
      | nil => simp [consecutive]
      | cons next rest =>
          rw [ih _ (List.cons_ne_nil _ _)]
          dsimp only
          omega

theorem covered_consecutive (parts : List (List β)) (offset : Nat) :
    Covered (consecutive offset parts) index ↔
      offset ≤ index ∧ index < offset + parts.flatten.length := by
  induction parts generalizing offset with
  | nil => simp [consecutive, Covered]
  | cons part rest ih =>
      rw [consecutive, covered_cons, ih, Store.Covers, List.flatten_cons, List.length_append]
      dsimp only
      omega

theorem covered_single (bytes : List β) :
    Covered [{ offset, bytes }] index ↔ offset ≤ index ∧ index < offset + bytes.length := by
  simp [Covered, Store.Covers]

-- The memory from `distance` on.
def above (memory : Memory β) (distance : Nat) : Memory β := fun index => memory (distance + index)

def Store.shift (distance : Nat) (store : Store β) : Store β :=
  { store with offset := distance + store.offset }

theorem read_above (memory : Memory β) (distance offset size : Nat) :
    (memory.above distance).read offset size = memory.read (distance + offset) size :=
  List.map_congr_left fun index _ => congrArg memory (Nat.add_assoc distance offset index).symm

theorem above_write (memory : Memory β) (distance offset : Nat) (bytes : List β) :
    (memory.write (distance + offset) bytes).above distance =
      (memory.above distance).write offset bytes := by
  funext index
  simp only [above, write, Nat.add_le_add_iff_left, Nat.add_sub_add_left]

theorem above_storeAll (memory : Memory β) (distance : Nat) (stores : List (Store β)) :
    (memory.storeAll (stores.map (Store.shift distance))).above distance =
      (memory.above distance).storeAll stores := by
  induction stores generalizing memory with
  | nil => rfl
  | cons store rest ih =>
      have hwrite := above_write memory distance store.offset store.bytes
      exact (ih _).trans (congrArg (storeAll · rest) hwrite)

theorem above_surjective (distance : Nat) (memory : Memory β) :
    ∃ whole : Memory β, whole.above distance = memory :=
  ⟨fun index => memory (index - distance),
    funext fun index => congrArg memory (Nat.add_sub_cancel_left distance index)⟩

theorem covered_shift (stores : List (Store β)) (distance : Nat) :
    Covered (stores.map (Store.shift distance)) (distance + index) ↔ Covered stores index := by
  have hcovers (store : Store β) :
      (store.shift distance).Covers (distance + index) ↔ store.Covers index := by
    simp only [Store.Covers, Store.shift]
    omega
  simp [Covered, hcovers]

end Memory

end EspCoordinator
