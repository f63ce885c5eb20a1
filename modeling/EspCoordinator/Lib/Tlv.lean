import EspCoordinator.Lib.Bytes

namespace EspCoordinator

open Bytes

-- A value behind its tag and its 16-bit length.
structure Tlv where
  tag : UInt8
  value : List UInt8
  fits : value.length < 2 ^ 16
deriving DecidableEq

namespace Tlv

def encode (t : Tlv) : List UInt8 := t.tag :: (toLE 2 t.value.length ++ t.value)

@[simp] theorem length_encode (t : Tlv) : t.encode.length = 3 + t.value.length := by
  simp only [encode, List.length_cons, List.length_append, length_toLE]
  omega

-- The value of declared length `len` at the front of `rest`; it is cut short
-- where the input ends.
def front (tag : UInt8) (len : Nat) (h : len < 2 ^ 16) (rest : List UInt8) : Tlv :=
  { tag, value := rest.take len, fits := by rw [List.length_take]; omega }

-- Whoever reads the length in front of a value finds the value.
theorem encode_append (t : Tlv) (tail : List UInt8) :
    ∃ lo hi, ofLE [lo, hi] = t.value.length ∧
      t.encode ++ tail = t.tag :: lo :: hi :: (t.value ++ tail) := by
  refine ⟨UInt8.ofNat t.value.length, UInt8.ofNat (t.value.length / 256), ?_, ?_⟩
  · exact ofLE_toLE 2 t.value.length t.fits
  · simp only [encode, toLE, List.cons_append, List.nil_append]

theorem front_append (t : Tlv) (tail : List UInt8) (h : t.value.length < 2 ^ 16) :
    front t.tag t.value.length h (t.value ++ tail) = t := by
  simp only [front, List.take_left]

end Tlv

end EspCoordinator
