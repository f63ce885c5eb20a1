import Mathlib.Data.List.Basic
import Mathlib.Data.UInt
import Mathlib.Tactic.Ring

namespace EspCoordinator.Bytes

-- The value of a little-endian byte string.
def ofLE : List UInt8 → Nat
  | [] => 0
  | byte :: rest => byte.toNat + 256 * ofLE rest

-- The low `width` bytes of a value, least significant first.
def toLE : Nat → Nat → List UInt8
  | 0, _ => []
  | width + 1, value => UInt8.ofNat value :: toLE width (value / 256)

@[simp] theorem length_toLE (width value : Nat) : (toLE width value).length = width := by
  induction width generalizing value with
  | zero => rfl
  | succ width ih => simp [toLE, ih]

theorem ofLE_lt (bytes : List UInt8) : ofLE bytes < 256 ^ bytes.length := by
  induction bytes with
  | nil => simp [ofLE]
  | cons byte rest ih =>
      have hb := byte.toNat_lt
      simp only [ofLE, List.length_cons, Nat.pow_succ]
      omega

theorem ofLE_pair_lt (lo hi : UInt8) : ofLE [lo, hi] < 2 ^ 16 := by
  have hlt := ofLE_lt [lo, hi]
  simpa only [List.length_cons, List.length_nil, Nat.reduceAdd, Nat.reducePow] using hlt

theorem ofLE_toLE (width value : Nat) (h : value < 256 ^ width) :
    ofLE (toLE width value) = value := by
  induction width generalizing value with
  | zero =>
      have : value = 0 := by simpa using h
      simp [ofLE, toLE, this]
  | succ width ih =>
      have hdiv : value / 256 < 256 ^ width := by
        rw [Nat.div_lt_iff_lt_mul (by decide)]
        simpa only [Nat.pow_succ] using h
      simp only [toLE, ofLE, ih _ hdiv, UInt8.toNat_ofNat']
      omega

theorem toLE_ofLE (bytes : List UInt8) : toLE bytes.length (ofLE bytes) = bytes := by
  induction bytes with
  | nil => simp [toLE]
  | cons byte rest ih =>
      have hbyte := byte.toNat_lt
      have hlow : UInt8.ofNat (byte.toNat + 256 * ofLE rest) = byte := by
        rw [← UInt8.toNat_inj, UInt8.toNat_ofNat']
        omega
      have hhigh : (byte.toNat + 256 * ofLE rest) / 256 = ofLE rest := by omega
      simp only [List.length_cons, toLE, ofLE, hlow, hhigh, ih]

-- Values of 16 bits one after the other.
def words (values : List UInt16) : List UInt8 := values.flatMap fun value => toLE 2 value.toNat

@[simp] theorem words_nil : words [] = [] := rfl

theorem words_cons (value : UInt16) (rest : List UInt16) :
    words (value :: rest) = toLE 2 value.toNat ++ words rest :=
  List.flatMap_cons

@[simp] theorem words_append (first second : List UInt16) :
    words (first ++ second) = words first ++ words second :=
  List.flatMap_append

@[simp] theorem length_words (values : List UInt16) : (words values).length = 2 * values.length := by
  induction values with
  | nil => rfl
  | cons value rest ih =>
      rw [words_cons, List.length_append, length_toLE, ih, List.length_cons]
      omega

theorem take_words (values : List UInt16) (count : Nat) :
    (words values).take (2 * count) = words (values.take count) := by
  by_cases hcount : count ≤ values.length
  · have hlen : (words (values.take count)).length = 2 * count := by
      rw [length_words, List.length_take]
      omega
    conv_lhs => rw [← List.take_append_drop count values, words_append]
    rw [List.take_left' hlen]
  · rw [List.take_of_length_le (by rw [length_words]; omega), List.take_of_length_le (by omega)]

-- An even number of bytes is a sequence of such values.
theorem exists_words {bytes : List UInt8} {count : Nat} (h : bytes.length = 2 * count) :
    ∃ values : List UInt16, values.length = count ∧ bytes = words values := by
  induction count generalizing bytes with
  | zero => exact ⟨[], rfl, List.length_eq_zero_iff.mp h⟩
  | succ count ih =>
      match bytes, h with
      | lo :: hi :: rest, h =>
          have hrest : rest.length = 2 * count := by
            rw [List.length_cons, List.length_cons] at h
            omega
          obtain ⟨values, hlen, rfl⟩ := ih hrest
          have hvalue : (UInt16.ofNat (ofLE [lo, hi])).toNat = ofLE [lo, hi] := by
            rw [UInt16.toNat_ofNat']
            exact Nat.mod_eq_of_lt (ofLE_pair_lt lo hi)
          refine ⟨UInt16.ofNat (ofLE [lo, hi]) :: values, by rw [List.length_cons, hlen], ?_⟩
          rw [words_cons, hvalue]
          exact congrArg (· ++ words values) (toLE_ofLE [lo, hi]).symm
      | [], h => simp at h
      | [_], h => simp at h; omega

end EspCoordinator.Bytes
