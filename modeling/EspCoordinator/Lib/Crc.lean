import Mathlib.Data.UInt
import Mathlib.Logic.Function.Conjugate
import Mathlib.Logic.Function.Iterate

namespace EspCoordinator.Crc

variable {w : Nat}

-- The parameters by which catalogues name a CRC.
structure Params (w : Nat) where
  poly : BitVec w
  init : BitVec w
  refin : Bool
  refout : Bool
  xorout : BitVec w
deriving DecidableEq

-- The register moves one bit up.
def shiftUp (poly r : BitVec w) : BitVec w :=
  if r.msb then (r <<< 1) ^^^ poly else r <<< 1

def Params.byte (p : Params w) (r : BitVec w) (b : UInt8) : BitVec w :=
  let b := if p.refin then b.toBitVec.reverse else b.toBitVec
  (shiftUp p.poly)^[8] (r ^^^ b.setWidth w <<< (w - 8))

def Params.crc (p : Params w) (data : List UInt8) : BitVec w :=
  let r := data.foldl p.byte p.init
  (if p.refout then r.reverse else r) ^^^ p.xorout

-- The same register kept in reverse; so is `poly`.
def shiftDown (poly r : BitVec w) : BitVec w :=
  if r.getLsbD 0 then (r >>> 1) ^^^ poly else r >>> 1

def reflectedByte (poly r : BitVec w) (b : UInt8) : BitVec w :=
  (shiftDown poly)^[8] (r ^^^ b.toBitVec.setWidth w)

def tableEntry (poly : BitVec w) (i : UInt8) : BitVec w :=
  (shiftDown poly)^[8] (i.toBitVec.setWidth w)

theorem reverse_xor (a b : BitVec w) : (a ^^^ b).reverse = a.reverse ^^^ b.reverse := by
  ext i hi
  simp [BitVec.getElem_reverse, BitVec.getMsbD_xor]

theorem reverse_shiftLeft_one (r : BitVec w) : (r <<< 1).reverse = r.reverse >>> 1 := by
  ext i hi
  simp only [BitVec.getElem_reverse, BitVec.getMsbD_shiftLeft, BitVec.getElem_ushiftRight,
    BitVec.getLsbD_reverse, Nat.add_comm i 1]

-- The byte at the top of the register, in reverse, is the byte at its bottom.
theorem reverse_top_byte (hw : 8 ≤ w) (b : BitVec 8) :
    (b.reverse.setWidth w <<< (w - 8)).reverse = b.setWidth w := by
  ext i hi
  rw [BitVec.getElem_reverse, BitVec.getMsbD_shiftLeft, BitVec.getMsbD_setWidth,
    BitVec.getElem_setWidth, BitVec.getMsbD_reverse]
  have hindex : i + (w - 8) + 8 - w = i := by omega
  rw [hindex, decide_eq_true (Nat.le_add_left _ _), Bool.true_and]

theorem shiftUp_reverse (poly : BitVec w) :
    Function.Semiconj BitVec.reverse (shiftUp poly) (shiftDown poly.reverse) := by
  intro r
  unfold shiftUp shiftDown
  rw [BitVec.getLsbD_reverse, ← BitVec.msb]
  split
  · rw [reverse_xor, reverse_shiftLeft_one]
  · rw [reverse_shiftLeft_one]

theorem crc_eq_reflected (hw : 8 ≤ w) (p : Params w) (hin : p.refin = true)
    (hout : p.refout = true) (data : List UInt8) :
    p.crc data = data.foldl (reflectedByte p.poly.reverse) p.init.reverse ^^^ p.xorout := by
  have hbyte : ∀ r b, reflectedByte p.poly.reverse r.reverse b = (p.byte r b).reverse := by
    intro r b
    rw [Params.byte, hin, if_pos rfl, ((shiftUp_reverse p.poly).iterate_right 8).eq, reverse_xor,
      reverse_top_byte hw]
    rfl
  rw [Params.crc, hout, if_pos rfl, List.foldl_hom BitVec.reverse hbyte]

theorem shiftDown_eq (poly r : BitVec w) :
    shiftDown poly r = (r >>> 1) ^^^ if r.getLsbD 0 then poly else 0#w := by
  unfold shiftDown
  split
  · rfl
  · rw [BitVec.xor_zero]

-- The move is linear, so the bytes of the register can be moved apart.
theorem shiftDown_xor (poly a b : BitVec w) :
    shiftDown poly (a ^^^ b) = shiftDown poly a ^^^ shiftDown poly b := by
  have hpoly : (if (a ^^^ b).getLsbD 0 then poly else 0#w) =
      (if a.getLsbD 0 then poly else 0#w) ^^^ if b.getLsbD 0 then poly else 0#w := by
    rw [BitVec.getLsbD_xor]
    cases a.getLsbD 0 <;> cases b.getLsbD 0 <;> simp
  simp only [shiftDown_eq, hpoly, BitVec.ushiftRight_xor_distrib]
  ac_rfl

theorem iterate_shiftDown_xor (poly a b : BitVec w) (n : Nat) :
    (shiftDown poly)^[n] (a ^^^ b) = (shiftDown poly)^[n] a ^^^ (shiftDown poly)^[n] b := by
  induction n with
  | zero => rfl
  | succ n ih => simp only [Function.iterate_succ_apply', ih, shiftDown_xor]

-- A register whose low bits are clear only moves down.
theorem iterate_shiftDown_high (poly r : BitVec w) (n : Nat) (h : ∀ i < n, r.getLsbD i = false) :
    (shiftDown poly)^[n] r = r >>> n := by
  induction n with
  | zero => simp
  | succ n ih =>
      have hlow : (r >>> n).getLsbD 0 = false := by
        rw [BitVec.getLsbD_ushiftRight]
        exact h n (Nat.lt_succ_self n)
      rw [Function.iterate_succ_apply', ih fun i hi => h i (Nat.lt_succ_of_lt hi), shiftDown, hlow,
        BitVec.shiftRight_add]
      rfl

theorem iterate_shiftDown_eight (poly r : BitVec w) :
    (shiftDown poly)^[8] r = tableEntry poly (UInt8.ofBitVec (r.setWidth 8)) ^^^ (r >>> 8) := by
  have hlow : ∀ i < 8, (r ^^^ (r.setWidth 8).setWidth w).getLsbD i = false := by
    intro i hi
    by_cases hw : i < w
    · simp [hi, hw]
    · exact BitVec.getLsbD_of_ge _ i (Nat.not_lt.mp hw)
  have hhigh : (r ^^^ (r.setWidth 8).setWidth w) >>> 8 = r >>> 8 := by
    ext i hi
    simp [BitVec.getLsbD_setWidth]
  have hsplit : r = (r.setWidth 8).setWidth w ^^^ (r ^^^ (r.setWidth 8).setWidth w) := by
    rw [BitVec.xor_comm r, ← BitVec.xor_assoc, BitVec.xor_self, BitVec.zero_xor]
  calc (shiftDown poly)^[8] r
      = (shiftDown poly)^[8] ((r.setWidth 8).setWidth w ^^^ (r ^^^ (r.setWidth 8).setWidth w)) := by
        rw [← hsplit]
    _ = tableEntry poly (UInt8.ofBitVec (r.setWidth 8)) ^^^ (r >>> 8) := by
        rw [iterate_shiftDown_xor, iterate_shiftDown_high poly _ 8 hlow, hhigh]
        rfl

-- A byte at a time: the entry for the low byte, and the rest moved down.
theorem reflectedByte_eq_table (hw : 8 ≤ w) (poly r : BitVec w) (b : UInt8) :
    reflectedByte poly r b =
      tableEntry poly (UInt8.ofBitVec (r.setWidth 8 ^^^ b.toBitVec)) ^^^ (r >>> 8) := by
  have hbyte : (b.toBitVec.setWidth w) >>> 8 = 0#w := by
    ext i hi
    simp [BitVec.getLsbD_setWidth]
  rw [reflectedByte, iterate_shiftDown_eight, BitVec.ushiftRight_xor_distrib, hbyte,
    BitVec.xor_zero, BitVec.setWidth_xor, BitVec.setWidth_setWidth_of_le _ hw, BitVec.setWidth_eq]

end EspCoordinator.Crc
