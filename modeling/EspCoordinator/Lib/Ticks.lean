import Mathlib.Data.UInt
import Mathlib.Tactic.Ring

namespace EspCoordinator.Ticks

-- The age that a counter of 32 bits shows at `now` for a stamp taken at `then_`.
def age (now stamp : Nat) : UInt32 := UInt32.ofNat now - UInt32.ofNat stamp

theorem toNat_age (now stamp : Nat) :
    (age now stamp).toNat = (now + (2 ^ 32 - stamp % 2 ^ 32)) % 2 ^ 32 := by
  simp only [age, UInt32.toNat_sub, UInt32.toNat_ofNat']
  omega

-- A wrap between the two does not matter.
theorem age_of_le {now stamp : Nat} (hle : stamp ≤ now) (hlt : now - stamp < 2 ^ 32) :
    (age now stamp).toNat = now - stamp := by
  rw [toNat_age]
  omega

-- A stamp from after `now` looks old.
theorem age_of_lt {now stamp : Nat} (hlt : now < stamp) :
    (age now stamp).toNat = (2 ^ 32 - (stamp - now) % 2 ^ 32) % 2 ^ 32 := by
  rw [toNat_age]
  omega

-- The counter passes through zero within `ticks` of `stamp`.
def Wraps (stamp ticks : UInt32) : Prop := 2 ^ 32 ≤ stamp.toNat + ticks.toNat

-- Comparing the tick with the deadline itself, not their distances, tells
-- early from late only if both or none of the two are behind the wrap.
theorem add_lt_add_iff (entry elapsed timeout : UInt32) :
    entry + elapsed < entry + timeout ↔
      (elapsed < timeout ↔ (Wraps entry elapsed ↔ Wraps entry timeout)) := by
  have hentry := entry.toNat_lt
  have helapsed := elapsed.toNat_lt
  have htimeout := timeout.toNat_lt
  simp only [UInt32.lt_iff_toNat_lt, UInt32.toNat_add, Wraps]
  omega

end EspCoordinator.Ticks
