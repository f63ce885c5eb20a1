import EspCoordinator.BindTableTool
import EspCoordinator.Lib.Crc
import EspCoordinator.ZbossSerial.Lemmas

namespace EspCoordinator.Utils

open Crc

-- As the comments behind the tables name them.
def CRC_8_KOOP : Params 8 :=
  { poly := 0x4d, init := 0xff, refin := true, refout := true, xorout := 0xff }

def CRC_16_KERMIT : Params 16 :=
  { poly := 0x1021, init := 0x0000, refin := true, refout := true, xorout := 0x0000 }

-- Both the index and the entry are complemented.
theorem crc8_table_eq : crc8_table.toList = (List.range 256).map fun i =>
    UInt8.ofBitVec (tableEntry 0xb2#8 (UInt8.ofNat i ^^^ 0xff) ^^^ 0xff#8) := by
  decide +kernel

theorem crc16_table_eq : crc16_table.toList = (List.range 256).map fun i =>
    UInt16.ofBitVec (tableEntry 0x8408#16 (UInt8.ofNat i)) := by
  decide +kernel

theorem getD_table {α : Type} {table : Array α} {entry : Nat → α}
    (h : table.toList = (List.range 256).map entry) (i : UInt8) (default : α) :
    table.getD i.toNat default = entry i.toNat := by
  have hi : i.toNat < (List.range 256).length := by
    rw [List.length_range]
    exact i.toNat_lt
  have hentry : table[i.toNat]? = some (entry i.toNat) := by
    rw [← Array.getElem?_toList, h, List.getElem?_map, List.getElem?_eq_getElem hi,
      List.getElem_range, Option.map_some]
  rw [Array.getD_eq_getD_getElem?, hentry, Option.getD_some]

-- The register of crc8 is the complement of the defined one, so the initial
-- value and the final xor are both there.
theorem crc8_byte (r : BitVec 8) (b : UInt8) :
    crc8_table.getD (UInt8.ofBitVec (r ^^^ 0xff#8) ^^^ b).toNat 0 =
      UInt8.ofBitVec (reflectedByte 0xb2#8 r b ^^^ 0xff#8) := by
  have hindex : UInt8.ofBitVec (r ^^^ 0xff#8) ^^^ b ^^^ 0xff =
      UInt8.ofBitVec (r ^^^ b.toBitVec) := by
    rw [← UInt8.toBitVec_inj, UInt8.toBitVec_xor, UInt8.toBitVec_xor,
      show (0xff : UInt8).toBitVec = 0xff#8 from rfl, BitVec.xor_assoc, BitVec.xor_assoc,
      BitVec.xor_comm b.toBitVec, ← BitVec.xor_assoc 0xff#8, BitVec.xor_self, BitVec.zero_xor]
  have hhigh : r >>> 8 = 0#8 := BitVec.ushiftRight_eq_zero (Nat.le_refl 8)
  rw [getD_table crc8_table_eq, UInt8.ofNat_toNat, hindex,
    reflectedByte_eq_table (Nat.le_refl 8), hhigh, BitVec.xor_zero, BitVec.setWidth_eq]

theorem crc8_eq_definition (data : List UInt8) :
    crc8 data = UInt8.ofBitVec (CRC_8_KOOP.crc data) := by
  have hinit : (0x00 : UInt8) = UInt8.ofBitVec (CRC_8_KOOP.init.reverse ^^^ 0xff#8) := by decide
  have hpoly : CRC_8_KOOP.poly.reverse = 0xb2#8 := by decide
  rw [crc_eq_reflected (Nat.le_refl 8) CRC_8_KOOP rfl rfl, hpoly, crc8, hinit]
  exact @List.foldl_hom _ _ _ (fun r => UInt8.ofBitVec (r ^^^ 0xff#8)) (reflectedByte 0xb2#8)
    (fun crc byte => crc8_table.getD (crc ^^^ byte).toNat 0) data _ crc8_byte

theorem crc16_byte (r : BitVec 16) (b : UInt8) :
    crc16_table.getD ((UInt16.ofBitVec r ^^^ b.toUInt16) &&& (0xff : UInt16)).toNat 0 ^^^
        ((UInt16.ofBitVec r >>> (8 : UInt16)) &&& (0xff : UInt16)) =
      UInt16.ofBitVec (reflectedByte 0x8408#16 r b) := by
  have hmask (n : Nat) : n &&& 255 = n % 2 ^ 8 := Nat.and_two_pow_sub_one_eq_mod n 8
  have hindex : ((UInt16.ofBitVec r ^^^ b.toUInt16) &&& (0xff : UInt16)).toNat =
      (UInt8.ofBitVec (r.setWidth 8 ^^^ b.toBitVec)).toNat := by
    have hbyte : b.toNat % 2 ^ 8 = b.toNat := Nat.mod_eq_of_lt b.toNat_lt
    calc ((UInt16.ofBitVec r ^^^ b.toUInt16) &&& (0xff : UInt16)).toNat
        = (r.toNat ^^^ b.toNat) &&& 255 := by simp
      _ = r.toNat % 2 ^ 8 ^^^ b.toNat := by rw [hmask, Nat.xor_mod_two_pow, hbyte]
      _ = (UInt8.ofBitVec (r.setWidth 8 ^^^ b.toBitVec)).toNat := by simp
  have hhigh : (UInt16.ofBitVec r >>> (8 : UInt16)) &&& (0xff : UInt16) =
      UInt16.ofBitVec (r >>> 8) := by
    have hlt : r.toNat >>> 8 < 2 ^ 8 := by
      have := r.isLt
      rw [Nat.shiftRight_eq_div_pow]
      omega
    rw [← UInt16.toNat_inj]
    calc ((UInt16.ofBitVec r >>> (8 : UInt16)) &&& (0xff : UInt16)).toNat
        = (r.toNat >>> 8) &&& 255 := by simp
      _ = (UInt16.ofBitVec (r >>> 8)).toNat := by rw [hmask, Nat.mod_eq_of_lt hlt]; rfl
  rw [hindex, getD_table crc16_table_eq, UInt8.ofNat_toNat, hhigh,
    reflectedByte_eq_table (by decide)]
  rfl

theorem crc16_eq_reflected (data : List UInt8) :
    crc16 data = UInt16.ofBitVec (data.foldl (reflectedByte 0x8408#16) 0#16) := by
  rw [crc16, show (0x0000 : UInt16) = UInt16.ofBitVec 0#16 from rfl,
    List.foldl_hom UInt16.ofBitVec crc16_byte]

theorem crc16_eq_definition (data : List UInt8) :
    crc16 data = UInt16.ofBitVec (CRC_16_KERMIT.crc data) := by
  have hinit : CRC_16_KERMIT.init.reverse = 0#16 := by decide
  have hpoly : CRC_16_KERMIT.poly.reverse = 0x8408#16 := by decide
  rw [crc_eq_reflected (by decide) CRC_16_KERMIT rfl rfl, hpoly, hinit, crc16_eq_reflected]
  exact congrArg UInt16.ofBitVec (BitVec.xor_zero).symm

-- The Python numbers are not cut to 16 bits on the way.
theorem crcShift_toNat :
    Function.Semiconj BitVec.toNat (shiftDown 0x8408#16) BindTableTool.crcShift := by
  intro r
  have hlow : r.toNat &&& 1 ≠ 0 ↔ r.getLsbD 0 = true := by
    rw [BitVec.getLsbD, Nat.testBit_zero, Nat.and_one_is_mod, decide_eq_true_iff]
    omega
  unfold shiftDown BindTableTool.crcShift
  simp only [hlow]
  split
  · rw [BitVec.toNat_xor, BitVec.toNat_ushiftRight]
    rfl
  · rw [BitVec.toNat_ushiftRight]

theorem bindTableTool_crc16_eq (data : List UInt8) :
    (crc16 data).toNat = BindTableTool.crc16 data := by
  have hbyte : ∀ (r : BitVec 16) (b : UInt8),
      BindTableTool.crcShift^[8] (r.toNat ^^^ b.toNat) = (reflectedByte 0x8408#16 r b).toNat := by
    intro r b
    rw [reflectedByte, (crcShift_toNat.iterate_right 8).eq, BitVec.toNat_xor,
      BitVec.toNat_setWidth_of_le (by decide)]
    rfl
  have hcut (r : BitVec 16) : r.toNat &&& 0xFFFF = r.toNat := by
    rw [Nat.and_two_pow_sub_one_eq_mod r.toNat 16, Nat.mod_eq_of_lt r.isLt]
  rw [crc16_eq_reflected, BindTableTool.crc16, show (0 : Nat) = (0#16).toNat from rfl,
    List.foldl_hom BitVec.toNat hbyte, hcut]
  rfl

theorem bindTableTool_crc8_eq (data : List UInt8) : BindTableTool.crc8 data = crc8 data := by
  have htable : BindTableTool.CRC8_TABLE = crc8_table := rfl
  simp only [BindTableTool.crc8, crc8, htable]

-- The tables, the definitions by shifts and the Python and JavaScript twins
-- are the same functions.
theorem crc_definitions_agree (data : List UInt8) :
    crc8 data = UInt8.ofBitVec (CRC_8_KOOP.crc data) ∧
    crc16 data = UInt16.ofBitVec (CRC_16_KERMIT.crc data) ∧
    BindTableTool.crc8 data = crc8 data ∧
    BindTableTool.crc16 data = (CRC_16_KERMIT.crc data).toNat ∧
    ZbossSerial.crc8 data = crc8 data ∧ ZbossSerial.crc16 data = crc16 data := by
  refine ⟨crc8_eq_definition data, crc16_eq_definition data, bindTableTool_crc8_eq data, ?_,
    ZbossSerial.crc8_eq data, ZbossSerial.crc16_eq data⟩
  rw [← bindTableTool_crc16_eq, crc16_eq_definition]
  rfl

example : CRC_8_KOOP.crc [0x31, 0x32, 0x33, 0x34, 0x35, 0x36, 0x37, 0x38, 0x39] = 0xd8 := by
  decide +kernel

end EspCoordinator.Utils
