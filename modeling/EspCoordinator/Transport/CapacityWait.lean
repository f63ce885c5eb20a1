import EspCoordinator.Transport

namespace EspCoordinator.Transport.CapacityWait

-- m_input_buf while send_int holds m_input_sem. Nobody else appends to it, but
-- the app task may read from it between two looks and after the last one.
structure Room where
  -- the buffer at the look that is made when `count` rounds are left
  seen : Nat → List UInt8
  drained : Nat

def Room.spaces (room : Room) (count : Nat) : Nat := spacesAvailable (room.seen count)

-- The counter of the wait loop when the loop is left.
def exitCount (spaces : Nat → Nat) (size : Nat) : Nat → Nat
  | 0 => 0
  | count + 1 => if spaces (count + 1) < size then exitCount spaces size count else count + 1

def ROUNDS : Nat := RINGBUF_TIMEOUT_MS / 10

-- The last look is the one that ends the loop.
def Room.lastLook (room : Room) (size : Nat) : Nat := exitCount room.spaces size ROUNDS

-- The buffer when the loop is over.
def Room.inputBuf (room : Room) (size : Nat) : List UInt8 :=
  (room.seen (room.lastLook size)).drop room.drained

-- send_int with what the looks of its wait loop show.
def sendIntSeen (room : Room) (queue : List Ctx) (data : Option (List UInt8)) :
    Stores × EspErr :=
  match data with
  | none => ({ inputBuf := (room.seen ROUNDS).drop room.drained, queue }, .fail)
  | some data =>
      let inputBuf := room.inputBuf data.length
      if capacityWait room.spaces data.length ROUNDS then
        let (inputBuf, retSize) := streamBufferSend inputBuf data
        if retSize ≠ data.length then ({ inputBuf, queue }, .fail)
        else
          let (queue, res) := sendEventInt queue { event := .input, size := data.length }
          ({ inputBuf, queue }, res)
      else ({ inputBuf, queue }, .fail)

variable {spaces : Nat → Nat} {size count : Nat}

-- The two exits are told apart by the counter alone.
theorem capacityWait_iff :
    capacityWait spaces size count = true ↔ exitCount spaces size count ≠ 0 := by
  induction count with
  | zero => simp [capacityWait, poll, exitCount]
  | succ count ih =>
      by_cases hroom : spaces (count + 1) < size
      · simp only [capacityWait, poll, if_pos hroom, Nat.succ_ne_zero, if_false,
          Nat.add_sub_cancel, ih, exitCount]
      · simp only [capacityWait, poll, if_neg hroom, Nat.succ_ne_zero, if_false, exitCount, ne_eq,
          not_false_eq_true]

theorem exitCount_le : exitCount spaces size count ≤ count := by
  induction count with
  | zero => exact Nat.le_refl 0
  | succ count ih =>
      rw [exitCount]
      split
      · omega
      · exact Nat.le_refl _

-- Unless the counter has run out, the loop was left because there was room.
theorem room_at_exit (hexit : exitCount spaces size count ≠ 0) :
    size ≤ spaces (exitCount spaces size count) := by
  induction count with
  | zero => exact absurd rfl hexit
  | succ count ih =>
      rw [exitCount] at hexit ⊢
      split at hexit
      · next hroom => rw [if_pos hroom]; exact ih hexit
      · next hroom => rw [if_neg hroom]; exact Nat.not_lt.mp hroom

-- It has run out when no look but the last one showed room.
theorem exitCount_eq_zero_iff :
    exitCount spaces size count = 0 ↔ ∀ left, 0 < left → left ≤ count → spaces left < size := by
  induction count with
  | zero => exact iff_of_true rfl fun left hpos hle => by omega
  | succ count ih =>
      rw [exitCount]
      split
      · next hroom =>
          rw [ih]
          constructor
          · intro h left hpos hle
            rcases Nat.lt_or_eq_of_le hle with hlt | rfl
            · exact h left hpos (Nat.le_of_lt_succ hlt)
            · exact hroom
          · exact fun h left hpos hle => h left hpos (Nat.le_succ_of_le hle)
      · next hroom =>
          refine iff_of_false (Nat.succ_ne_zero count) fun h => hroom ?_
          exact h (count + 1) (Nat.succ_pos count) (Nat.le_refl _)

-- What the free space was at the last look is still free at the send.
theorem spaces_le_inputBuf (room : Room) (size : Nat) :
    room.spaces (room.lastLook size) ≤ spacesAvailable (room.inputBuf size) := by
  simp only [Room.spaces, Room.inputBuf, spacesAvailable, List.length_drop]
  omega

theorem sendIntSeen_committed (room : Room) (queue : List Ctx) (data : List UInt8)
    (h : capacityWait room.spaces data.length ROUNDS = true) :
    (sendIntSeen room queue (some data)).1.inputBuf = room.inputBuf data.length ++ data := by
  have hroom : data.length ≤ spacesAvailable (room.inputBuf data.length) :=
    Nat.le_trans (room_at_exit (capacityWait_iff.mp h)) (spaces_le_inputBuf room data.length)
  simp only [sendIntSeen, h, if_true, streamBufferSend, Nat.min_eq_left hroom, ne_eq,
    not_true_eq_false, if_false, List.take_length]

-- Where nobody reads from the buffer, every look shows the same.
theorem sendInt_eq (s : Stores) (data : Option (List UInt8)) :
    sendInt s data = sendIntSeen { seen := fun _ => s.inputBuf, drained := 0 } s.queue data := by
  cases data with
  | none => rfl
  | some data => rfl

-- "input_buf not enough" means that the last look showed too little room, and
-- when a look showed enough, the frame is in the buffer.
structure RefusesWithoutRoom (room : Room) (queue : List Ctx) (data : List UInt8) : Prop where
  refused : capacityWait room.spaces data.length ROUNDS = false →
    room.spaces (room.lastLook data.length) < data.length
  committed : ∀ count ≤ ROUNDS, data.length ≤ room.spaces count →
    (sendIntSeen room queue (some data)).1.inputBuf = room.inputBuf data.length ++ data

-- The wrong answer is given when it is the last look that shows room, and no
-- look before it has.
theorem refusesWithoutRoom_iff (room : Room) (queue : List Ctx) (data : List UInt8) :
    RefusesWithoutRoom room queue data ↔
      (∃ count, 0 < count ∧ count ≤ ROUNDS ∧ data.length ≤ room.spaces count) ∨
        room.spaces 0 < data.length := by
  by_cases hexit : exitCount room.spaces data.length ROUNDS = 0
  · have hwait : capacityWait room.spaces data.length ROUNDS = false := by
      rw [Bool.eq_false_iff]
      exact fun h => capacityWait_iff.mp h hexit
    have hnone := exitCount_eq_zero_iff.mp hexit
    have hlast : room.lastLook data.length = 0 := hexit
    constructor
    · intro h
      exact .inr (hlast ▸ h.refused hwait)
    · rintro (⟨count, hpos, hle, hroom⟩ | hlate)
      · exact absurd (hnone count hpos hle) (Nat.not_lt.mpr hroom)
      · refine ⟨fun _ => by rw [hlast]; exact hlate, fun count hle hroom => ?_⟩
        rcases Nat.eq_zero_or_pos count with rfl | hpos
        · exact absurd hlate (Nat.not_lt.mpr hroom)
        · exact absurd (hnone count hpos hle) (Nat.not_lt.mpr hroom)
  · have hwait := capacityWait_iff.mpr hexit
    refine iff_of_true ⟨fun h => ?_, fun _ _ _ => sendIntSeen_committed room queue data hwait⟩
      (.inl ⟨_, Nat.pos_of_ne_zero hexit, exitCount_le, room_at_exit hexit⟩)
    rw [hwait] at h
    cases h

def lateRoom : Room :=
  { seen := fun count => if count = 0 then [] else List.replicate RINGBUF_SIZE 0xc0, drained := 0 }

-- The buffer is full at the first five looks and empty at the sixth.
theorem not_refusesWithoutRoom :
    ¬∀ room queue data, RefusesWithoutRoom room queue data := by
  intro h
  have hexit : exitCount lateRoom.spaces 7 ROUNDS = 0 := by
    refine exitCount_eq_zero_iff.mpr fun left hpos _ => ?_
    simp [Room.spaces, lateRoom, spacesAvailable, Nat.pos_iff_ne_zero.mp hpos]
  have hwait : capacityWait lateRoom.spaces 7 ROUNDS = false := by
    rw [Bool.eq_false_iff]
    exact fun hready => capacityWait_iff.mp hready hexit
  have hlast : lateRoom.spaces (lateRoom.lastLook 7) < 7 :=
    (h lateRoom [] [0xde, 0xad, 0x05, 0x00, 0x06, 0x01, 0x8f]).refused hwait
  rw [Room.lastLook, hexit] at hlast
  exact absurd hlast (by decide)

end EspCoordinator.Transport.CapacityWait
