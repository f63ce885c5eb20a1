import EspCoordinator.Lib.Bytes

-- Packed structures: values that lie in memory field by field, as they are cast
-- to and from bytes.
namespace EspCoordinator

structure Packed (α : Type) where
  size : Nat
  write : α → List UInt8
  -- A cast looks at the first `size` bytes, whatever follows.
  read : List UInt8 → α
  length_write : ∀ value, (write value).length = size
  read_write : ∀ value rest, read (write value ++ rest) = value
  write_read : ∀ bytes, size ≤ bytes.length → write (read bytes) = bytes.take size

namespace Packed

open Bytes

variable {α β : Type}

-- Memory that is long enough starts with a value.
theorem exists_write (p : Packed α) {bytes : List UInt8} (h : p.size ≤ bytes.length) :
    ∃ value, bytes = p.write value ++ bytes.drop p.size :=
  ⟨p.read bytes, by rw [p.write_read bytes h, List.take_append_drop]⟩

theorem le_length_append (p : Packed α) (value : α) (rest : List UInt8) :
    p.size ≤ (p.write value ++ rest).length := by
  rw [List.length_append, p.length_write]
  exact Nat.le_add_right _ _

-- A number of `width` bytes
def littleEndian (width : Nat) (toNat : α → Nat) (ofNat : Nat → α)
    (hlt : ∀ value, toNat value < 256 ^ width) (hofNat : ∀ value, ofNat (toNat value) = value)
    (htoNat : ∀ number < 256 ^ width, toNat (ofNat number) = number) : Packed α where
  size := width
  write value := toLE width (toNat value)
  read bytes := ofNat (ofLE (bytes.take width))
  length_write value := length_toLE width (toNat value)
  read_write value rest := by
    rw [List.take_left' (length_toLE width _), ofLE_toLE width _ (hlt value), hofNat]
  write_read bytes h := by
    have hlen : (bytes.take width).length = width := by
      rw [List.length_take]
      omega
    have hsmall := ofLE_lt (bytes.take width)
    rw [hlen] at hsmall
    have hsame := toLE_ofLE (bytes.take width)
    rw [hlen] at hsame
    rw [htoNat _ hsmall, hsame]

def u8 : Packed UInt8 :=
  littleEndian 1 UInt8.toNat UInt8.ofNat UInt8.toNat_lt (fun _ => UInt8.ofNat_toNat)
    fun _ h => by rw [UInt8.toNat_ofNat']; exact Nat.mod_eq_of_lt h

def u16 : Packed UInt16 :=
  littleEndian 2 UInt16.toNat UInt16.ofNat UInt16.toNat_lt (fun _ => UInt16.ofNat_toNat)
    fun _ h => by rw [UInt16.toNat_ofNat']; exact Nat.mod_eq_of_lt h

def u64 : Packed UInt64 :=
  littleEndian 8 UInt64.toNat UInt64.ofNat UInt64.toNat_lt (fun _ => UInt64.ofNat_toNat)
    fun _ h => by rw [UInt64.toNat_ofNat']; exact Nat.mod_eq_of_lt h

-- An array of bytes
abbrev Block (size : Nat) := { bytes : List UInt8 // bytes.length = size }

def block (size : Nat) : Packed (Block size) where
  size := size
  write value := value.val
  read bytes := ⟨(bytes ++ List.replicate size 0).take size, by simp⟩
  length_write value := value.property
  read_write value rest := by
    apply Subtype.ext
    simp only [List.append_assoc]
    exact List.take_left' value.property
  write_read bytes h := List.take_append_of_le_length h

theorem write_u8 (value : UInt8) : u8.write value = [value] :=
  congrArg (fun byte => [byte]) UInt8.ofNat_toNat

-- Two fields, one behind the other
def pair (p : Packed α) (q : Packed β) : Packed (α × β) where
  size := p.size + q.size
  write value := p.write value.1 ++ q.write value.2
  read bytes := (p.read bytes, q.read (bytes.drop p.size))
  length_write value := by rw [List.length_append, p.length_write, q.length_write]
  read_write value rest := by
    rw [List.append_assoc, p.read_write, List.drop_left' (p.length_write _), q.read_write]
  write_read bytes h := by
    rw [p.write_read bytes (by omega), q.write_read _ (by rw [List.length_drop]; omega),
      List.take_add]

@[simp] theorem write_pair (p : Packed α) (q : Packed β) (value : α × β) :
    (p.pair q).write value = p.write value.1 ++ q.write value.2 := rfl

-- A structure of these fields
def iso (p : Packed α) (e : α ≃ β) : Packed β where
  size := p.size
  write value := p.write (e.symm value)
  read bytes := e (p.read bytes)
  length_write value := p.length_write _
  read_write value rest := by rw [p.read_write, e.apply_symm_apply]
  write_read bytes h := by rw [e.symm_apply_apply, p.write_read bytes h]

end Packed

end EspCoordinator
