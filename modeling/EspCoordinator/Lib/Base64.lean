import Mathlib.Data.List.Basic
import Mathlib.Data.List.Nodup
import Mathlib.Data.UInt

namespace EspCoordinator.Base64

-- The symbols for the 64 values of six bits, and the one that fills up the
-- last group.
structure Alphabet (α : Type*) where
  digits : List α
  pad : α
  length_digits : digits.length = 64
  nodup : digits.Nodup
  pad_notMem : pad ∉ digits

variable {α : Type*} [DecidableEq α] (A : Alphabet α)

def Alphabet.digit (value : Nat) : α := A.digits.getD value A.pad

def Alphabet.value (symbol : α) : Option Nat := A.digits.idxOf? symbol

-- Three bytes are four times six bits.
def sextets : List UInt8 → List Nat
  | a :: b :: c :: rest =>
      a.toNat / 4 :: (a.toNat % 4 * 16 + b.toNat / 16) :: (b.toNat % 16 * 4 + c.toNat / 64) ::
        c.toNat % 64 :: sextets rest
  | [a, b] => [a.toNat / 4, a.toNat % 4 * 16 + b.toNat / 16, b.toNat % 16 * 4]
  | [a] => [a.toNat / 4, a.toNat % 4 * 16]
  | [] => []

-- The bits of a last group that do not make a byte are dropped.
def bytes : List Nat → Option (List UInt8)
  | p :: q :: r :: s :: rest =>
      (bytes rest).map fun more =>
        UInt8.ofNat (p * 4 + q / 16) :: UInt8.ofNat (q % 16 * 16 + r / 4) ::
          UInt8.ofNat (r % 4 * 64 + s) :: more
  | [p, q, r] => some [UInt8.ofNat (p * 4 + q / 16), UInt8.ofNat (q % 16 * 16 + r / 4)]
  | [p, q] => some [UInt8.ofNat (p * 4 + q / 16)]
  | [_] => none
  | [] => some []

def padding (length : Nat) : Nat := (3 - length % 3) % 3

def encode (data : List UInt8) : List α :=
  (sextets data).map A.digit ++ List.replicate (padding data.length) A.pad

-- Up to two pads behind whole groups.
def stripPadding (text : List α) : List α :=
  if text.length % 4 = 0 then
    if text.getLast? = some A.pad then
      if text.dropLast.getLast? = some A.pad then text.dropLast.dropLast else text.dropLast
    else text
  else text

def decode (text : List α) : Option (List UInt8) :=
  ((stripPadding A text).mapM A.value).bind bytes

theorem bytes_sextets (data : List UInt8) : bytes (sextets data) = some data := by
  have hbyte (value : Nat) (byte : UInt8) (h : value = byte.toNat) : UInt8.ofNat value = byte := by
    rw [h, UInt8.ofNat_toNat]
  induction data using sextets.induct with
  | case1 a b c rest ih =>
      have ha := a.toNat_lt
      have hb := b.toNat_lt
      have hc := c.toNat_lt
      rw [sextets, bytes, ih, Option.map_some, hbyte _ a (by omega), hbyte _ b (by omega),
        hbyte _ c (by omega)]
  | case2 a b =>
      have ha := a.toNat_lt
      have hb := b.toNat_lt
      rw [sextets, bytes, hbyte _ a (by omega), hbyte _ b (by omega)]
  | case3 a =>
      have ha := a.toNat_lt
      rw [sextets, bytes, hbyte _ a (by omega)]
  | case4 => rfl

theorem sextets_lt {data : List UInt8} {value : Nat} (h : value ∈ sextets data) : value < 64 := by
  induction data using sextets.induct with
  | case1 a b c rest ih =>
      have ha := a.toNat_lt
      have hb := b.toNat_lt
      have hc := c.toNat_lt
      simp only [sextets, List.mem_cons] at h
      rcases h with rfl | rfl | rfl | rfl | h
      · omega
      · omega
      · omega
      · omega
      · exact ih h
  | case2 a b =>
      have ha := a.toNat_lt
      have hb := b.toNat_lt
      simp only [sextets, List.mem_cons, List.not_mem_nil, or_false] at h
      omega
  | case3 a =>
      have ha := a.toNat_lt
      simp only [sextets, List.mem_cons, List.not_mem_nil, or_false] at h
      omega
  | case4 => simp [sextets] at h

-- The padding makes the last group a whole one.
theorem length_sextets (data : List UInt8) :
    ((sextets data).length + padding data.length) % 4 = 0 ∧ padding data.length ≤ 2 := by
  induction data using sextets.induct with
  | case1 a b c rest ih =>
      have hmod : padding (a :: b :: c :: rest).length = padding rest.length := by
        simp only [padding, List.length_cons]
        omega
      rw [hmod]
      simp only [sextets, List.length_cons]
      omega
  | case2 a b => simp [sextets, padding]
  | case3 a => simp [sextets, padding]
  | case4 => simp [sextets, padding]

omit [DecidableEq α] in
theorem Alphabet.digit_eq {value : Nat} (h : value < A.digits.length) :
    A.digit value = A.digits[value] := by
  simp [Alphabet.digit, h]

omit [DecidableEq α] in
theorem Alphabet.digit_mem {value : Nat} (h : value < 64) : A.digit value ∈ A.digits := by
  have hlen : value < A.digits.length := A.length_digits ▸ h
  rw [A.digit_eq hlen]
  exact List.getElem_mem hlen

theorem Alphabet.value_digit {value : Nat} (h : value < 64) :
    A.value (A.digit value) = some value := by
  have hlen : value < A.digits.length := A.length_digits ▸ h
  rw [Alphabet.value, A.digit_eq hlen, List.idxOf?_eq_some_iff]
  refine ⟨hlen, rfl, fun other hother heq => ?_⟩
  exact absurd (A.nodup.getElem_inj_iff.mp heq) (Nat.ne_of_lt hother)

theorem mapM_value {values : List Nat} (h : ∀ value ∈ values, value < 64) :
    (values.map A.digit).mapM A.value = some values := by
  induction values with
  | nil => rfl
  | cons value rest ih =>
      rw [List.map_cons, List.mapM_cons, A.value_digit (h value (by simp)),
        ih fun other hother => h other (List.mem_cons_of_mem _ hother)]
      rfl

theorem stripPadding_append {body : List α} {count : Nat} (hbody : A.pad ∉ body)
    (hcount : count ≤ 2) (hwhole : (body.length + count) % 4 = 0) :
    stripPadding A (body ++ List.replicate count A.pad) = body := by
  have hlast : body.getLast? ≠ some A.pad := fun heq => hbody (List.mem_of_getLast? heq)
  rw [stripPadding, List.length_append, List.length_replicate, if_pos hwhole]
  match count, hcount with
  | 0, _ => simp [hlast]
  | 1, _ => simp [hlast]
  | 2, _ =>
      have hpads : body ++ List.replicate 2 A.pad = (body ++ [A.pad]) ++ [A.pad] := by simp
      rw [hpads, List.getLast?_concat, List.dropLast_concat, List.getLast?_concat,
        List.dropLast_concat]
      simp

omit [DecidableEq α] in
theorem pad_notMem_sextets (data : List UInt8) : A.pad ∉ (sextets data).map A.digit := by
  intro hmem
  obtain ⟨value, hvalue, heq⟩ := List.mem_map.mp hmem
  exact A.pad_notMem (heq ▸ A.digit_mem (sextets_lt hvalue))

theorem decode_encode (data : List UInt8) : decode A (encode A data) = some data := by
  obtain ⟨hwhole, hcount⟩ := length_sextets data
  rw [decode, encode, stripPadding_append A (pad_notMem_sextets A data) hcount
    (by rw [List.length_map]; exact hwhole), mapM_value A fun _ => sextets_lt, Option.bind_some,
    bytes_sextets]

-- Only symbols of the alphabet and pads are written.
omit [DecidableEq α] in
theorem mem_encode {data : List UInt8} {symbol : α} (h : symbol ∈ encode A data) :
    symbol ∈ A.digits ∨ symbol = A.pad := by
  rcases List.mem_append.mp h with hdigit | hpad
  · obtain ⟨value, hvalue, rfl⟩ := List.mem_map.mp hdigit
    exact .inl (A.digit_mem (sextets_lt hvalue))
  · exact .inr (List.eq_of_mem_replicate hpad)

end EspCoordinator.Base64
