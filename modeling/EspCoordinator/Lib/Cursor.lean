import EspCoordinator.Lib.Memory
import Mathlib.Order.Interval.Set.Basic

namespace EspCoordinator

-- A buffer that is written from front to back, apart from gaps that are
-- filled later.
structure Cursor (β : Type*) where
  stores : List (Memory.Store β)
  pos : Nat

namespace Cursor

variable {β : Type*} {c : Cursor β} {gaps : Set Nat} {memory : Memory β} {bytes : List β}

def start : Cursor β := { stores := [], pos := 0 }

def put (c : Cursor β) (bytes : List β) : Cursor β :=
  { stores := c.stores ++ [{ offset := c.pos, bytes }], pos := c.pos + bytes.length }

def skip (c : Cursor β) (width : Nat) : Cursor β := { c with pos := c.pos + width }

def patch (c : Cursor β) (offset : Nat) (bytes : List β) : Cursor β :=
  { c with stores := c.stores ++ [{ offset, bytes }] }

-- Everything up to the cursor has been written, apart from the gaps.
def Filled (c : Cursor β) (gaps : Set Nat) : Prop :=
  ∀ index < c.pos, index ∉ gaps → Memory.Covered c.stores index

theorem filled_start : (start : Cursor β).Filled ∅ :=
  fun index hindex => absurd hindex (Nat.not_lt_zero index)

theorem Filled.put (h : c.Filled gaps) (bytes : List β) : (c.put bytes).Filled gaps := by
  intro index hindex hgap
  rw [Cursor.put, Memory.covered_append]
  by_cases hbefore : index < c.pos
  · exact .inl (h index hbefore hgap)
  · exact .inr ⟨_, List.mem_singleton_self _, Nat.le_of_not_lt hbefore, hindex⟩

theorem Filled.skip (h : c.Filled gaps) (width : Nat) :
    (c.skip width).Filled (gaps ∪ Set.Ico c.pos (c.pos + width)) := by
  intro index hindex hgap
  rw [Set.mem_union, not_or, Set.mem_Ico] at hgap
  refine h index ?_ hgap.1
  by_contra hbehind
  exact hgap.2 ⟨Nat.le_of_not_lt hbehind, hindex⟩

theorem Filled.patch (h : c.Filled gaps) (offset : Nat) (bytes : List β) :
    (c.patch offset bytes).Filled (gaps \ Set.Ico offset (offset + bytes.length)) := by
  intro index hindex hgap
  rw [Cursor.patch, Memory.covered_append]
  by_cases hin : index ∈ Set.Ico offset (offset + bytes.length)
  · exact .inr ⟨_, List.mem_singleton_self _, hin⟩
  · exact .inl (h index hindex fun hmem => hgap ⟨hmem, hin⟩)

theorem Filled.mono {others : Set Nat} (h : c.Filled gaps)
    (hsub : ∀ index ∈ gaps, index ∈ others) : c.Filled others :=
  fun index hindex hgap => h index hindex fun hmem => hgap (hsub index hmem)

-- What the buffer holds up to the cursor, when it held `memory` at the start.
-- Nothing has been written behind.
structure Holds (c : Cursor β) (memory : Memory β) (bytes : List β) : Prop where
  read : (memory.storeAll c.stores).read 0 c.pos = bytes
  within : ∀ store ∈ c.stores, store.offset + store.bytes.length ≤ c.pos

theorem holds_start (memory : Memory β) : start.Holds memory [] :=
  { read := rfl, within := fun _ hmem => absurd hmem List.not_mem_nil }

theorem Holds.length (h : c.Holds memory bytes) : bytes.length = c.pos := by
  rw [← h.read, Memory.length_read]

theorem Holds.put (h : c.Holds memory bytes) (more : List β) :
    (c.put more).Holds memory (bytes ++ more) where
  read := by
    have hend := Memory.read_write_end (memory.storeAll c.stores) c.pos more
    rw [h.read] at hend
    rwa [Cursor.put, Memory.storeAll_append]
  within := by
    intro store hmem
    rcases List.mem_append.mp hmem with hmem | hmem
    · exact (h.within store hmem).trans (Nat.le_add_right _ _)
    · rw [List.mem_singleton.mp hmem]
      exact Nat.le_refl _

theorem Holds.ahead (h : c.Holds memory bytes) (width : Nat) :
    (memory.storeAll c.stores).read c.pos width = memory.read c.pos width := by
  refine Memory.read_congr fun index _ => Memory.storeAll_not_covered _ ?_
  exact Memory.not_covered_of_within fun store hmem =>
    (h.within store hmem).trans (Nat.le_add_right _ _)

theorem Holds.skip (h : c.Holds memory bytes) (width : Nat) :
    (c.skip width).Holds memory (bytes ++ memory.read c.pos width) where
  read := by rw [Cursor.skip, Memory.read_add, h.read, Nat.zero_add, h.ahead]
  within store hmem := (h.within store hmem).trans (Nat.le_add_right _ _)

theorem Holds.patch (h : c.Holds memory bytes) {offset : Nat} {more : List β}
    (hfits : offset + more.length ≤ c.pos) :
    (c.patch offset more).Holds memory
      (bytes.take offset ++ (more ++ bytes.drop (offset + more.length))) where
  read := by
    have hsplit : c.pos = offset + (more.length + (c.pos - (offset + more.length))) := by omega
    rw [Cursor.patch, Memory.storeAll_append]
    change ((memory.storeAll c.stores).write offset more).read 0 c.pos = _
    conv_lhs => rw [hsplit]
    rw [Memory.read_add, Memory.read_add, Nat.zero_add, Memory.read_write,
      Memory.read_write_outside (.inl (by omega)), Memory.read_write_outside (.inr (Nat.le_refl _)),
      ← h.read, Memory.take_read _ _ (by omega), Memory.drop_read _ _ hfits, Nat.zero_add]
  within := by
    intro store hmem
    rcases List.mem_append.mp hmem with hmem | hmem
    · exact h.within store hmem
    · rw [List.mem_singleton.mp hmem]
      exact hfits

-- The last bytes are replaced.
theorem Holds.patch_last {front old more : List β} (h : c.Holds memory (front ++ old))
    (hlength : more.length = old.length) :
    (c.patch front.length more).Holds memory (front ++ more) := by
  have hpos : front.length + more.length = c.pos := by
    rw [← h.length, List.length_append, hlength]
  have hpatch := h.patch (Nat.le_of_eq hpos)
  have hend : (front ++ old).drop (front.length + more.length) = [] :=
    List.drop_of_length_le (by rw [hpos, h.length])
  rwa [List.take_left, hend, List.append_nil] at hpatch

end Cursor

end EspCoordinator
