import Mathlib.Data.List.Basic

namespace EspCoordinator

-- A flash partition. An erase sets every bit, programming can only clear bits.
structure Nor (size : Nat) where
  bytes : List UInt8
  length_eq : bytes.length = size
deriving DecidableEq

namespace Nor

variable {size : Nat}

-- A call that fails may leave anything behind.
inductive Outcome (size : Nat) where
  | done
  | failed (left : Nor size)
deriving DecidableEq

def erased (size : Nat) : Nor size :=
  { bytes := List.replicate size 0xff, length_eq := List.length_replicate }

-- Erases the whole partition.
def erase : Outcome size → Nor size × Bool
  | .done => (erased size, true)
  | .failed left => (left, false)

def overlay (old : List UInt8) (offset : Nat) (data : List UInt8) : List UInt8 :=
  old.take offset ++ (List.zipWith (· &&& ·) (old.drop offset) data ++
    old.drop (offset + data.length))

theorem length_overlay {old data : List UInt8} {offset : Nat}
    (h : offset + data.length ≤ old.length) : (overlay old offset data).length = old.length := by
  simp only [overlay, List.length_append, List.length_take, List.length_zipWith, List.length_drop]
  omega

-- A write outside the partition is refused.
def program (flash : Nor size) (outcome : Outcome size) (offset : Nat) (data : List UInt8) :
    Nor size × Bool :=
  if h : offset + data.length ≤ size then
    match outcome with
    | .done =>
        ({ bytes := overlay flash.bytes offset data
           length_eq := by
            rw [length_overlay (by rw [flash.length_eq]; exact h), flash.length_eq] },
          true)
    | .failed left => (left, false)
  else (flash, false)

-- The partition holds `data` and is blank behind it.
def FilledTo (flash : Nor size) (data : List UInt8) : Prop :=
  flash.bytes = data ++ List.replicate (size - data.length) 0xff

theorem filledTo_erased : (erased size).FilledTo [] := by
  simp [FilledTo, erased]

theorem FilledTo.eq_of_length {flash : Nor size} {data : List UInt8} (h : flash.FilledTo data)
    (hlen : data.length = size) : flash.bytes = data := by
  rw [h, hlen]
  simp

theorem zipWith_and_blank (data : List UInt8) (count : Nat) (h : data.length ≤ count) :
    List.zipWith (· &&& ·) (List.replicate count (0xff : UInt8)) data = data := by
  induction data generalizing count with
  | nil => simp
  | cons byte rest ih =>
      obtain ⟨count, rfl⟩ : ∃ less, count = less + 1 := ⟨count - 1, by simp at h; omega⟩
      have hbyte : 0xff &&& byte = byte := by
        rw [UInt8.and_comm, show (0xff : UInt8) = -1 from rfl, UInt8.and_neg_one]
      rw [List.replicate_succ, List.zipWith_cons_cons, hbyte, ih count (by simpa using h)]

-- Programming right behind the data extends it, unless the call fails.
theorem FilledTo.program {flash : Nor size} {data more : List UInt8} (h : flash.FilledTo data)
    (outcome : Outcome size) (hfits : data.length + more.length ≤ size) :
    ((flash.program outcome data.length more).2 = true ↔ outcome = .done) ∧
      (outcome = .done → (flash.program outcome data.length more).1.FilledTo (data ++ more)) := by
  have hflash : flash.bytes = data ++ List.replicate (size - data.length) 0xff := h
  rw [Nor.program, dif_pos hfits]
  cases outcome with
  | failed left => simp
  | done =>
      refine ⟨by simp, fun _ => ?_⟩
      simp only [FilledTo, overlay, hflash]
      rw [List.take_left, List.drop_left, zipWith_and_blank more _ (by omega), List.drop_append,
        List.drop_of_length_le (by omega), List.drop_replicate]
      simp only [List.nil_append, List.append_assoc, List.length_append]
      congr 3
      omega

end Nor

end EspCoordinator
