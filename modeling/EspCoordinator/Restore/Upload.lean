import EspCoordinator.Lib.Run
import EspCoordinator.Restore

namespace EspCoordinator.Restore

variable {L : Layout}

-- The requests end with an in-order upload, from offset 0 on, of `bytes`.
inductive InOrder (L : Layout) : List (List UInt8) → List UInt8 → Prop where
  | start {past inbuffer req} : parse inbuffer = some req → req.totalSize = L.capacity →
      req.offset = 0 → req.chunk.length ≤ L.capacity → InOrder L (past ++ [inbuffer]) req.chunk
  | next {past inbuffer req bytes} : InOrder L past bytes → bytes.length < L.capacity →
      parse inbuffer = some req → req.totalSize = L.capacity → req.offset = bytes.length →
      bytes.length + req.chunk.length ≤ L.capacity →
      InOrder L (past ++ [inbuffer]) (bytes ++ req.chunk)

-- The image so far, blank where nothing has arrived yet.
def padded (L : Layout) (bytes : List UInt8) : List UInt8 :=
  bytes ++ List.replicate (L.capacity - bytes.length) 0xff

theorem padded_full {bytes : List UInt8} (h : bytes.length = L.capacity) :
    padded L bytes = bytes := by
  simp [padded, h]

theorem memcpy_padded {bytes chunk : List UInt8}
    (h : bytes.length + chunk.length ≤ L.capacity) :
    memcpy (padded L bytes) bytes.length chunk = padded L (bytes ++ chunk) := by
  rw [memcpy, padded, padded, List.take_left, List.drop_append, List.drop_of_length_le (by omega),
    List.drop_replicate]
  simp only [List.nil_append, List.append_assoc, List.length_append]
  congr 3
  omega

-- What a session keeps when it is open and `bytes` have arrived.
structure Progress (d : Device L) (bytes : List UInt8) : Prop where
  active : d.session.active = true
  nextOffset : d.session.nextOffset = bytes.length
  totalSize : d.session.totalSize = L.capacity

-- Nothing of the device changes but the session and the buffer.
structure SameFlash (d e : Device L) : Prop where
  nvs : e.nvs = d.nvs
  zb : e.zb = d.zb
  flashDirty : e.flashDirty = d.flashDirty
  rebootPending : e.rebootPending = d.rebootPending
  reboots : e.reboots = d.reboots

theorem SameFlash.refl (d : Device L) : SameFlash d d := ⟨rfl, rfl, rfl, rfl, rfl⟩

theorem SameFlash.trans {d e f : Device L} (h : SameFlash d e) (h' : SameFlash e f) :
    SameFlash d f :=
  ⟨h'.nvs.trans h.nvs, h'.zb.trans h.zb, h'.flashDirty.trans h.flashDirty,
    h'.rebootPending.trans h.rebootPending, h'.reboots.trans h.reboots⟩

@[simp] theorem restoreScheduleReboot_img (d : Device L) :
    (restoreScheduleReboot d).img = d.img := by
  unfold restoreScheduleReboot
  split <;> rfl

@[simp] theorem restoreScheduleReboot_session (d : Device L) :
    (restoreScheduleReboot d).session = d.session := by
  unfold restoreScheduleReboot
  split <;> rfl

theorem restoreFail_closed (d : Device L) (status : Status) :
    (restoreFail d status).device.img = none ∧
      (restoreFail d status).device.session.active = false := by
  by_cases hdirty : d.flashDirty = true <;>
    simp [restoreFail, restoreFreeBuf, closeSession, hdirty]

-- A failure schedules a reboot only when the flash has been touched and none
-- is scheduled yet.
theorem restoreFail_sameFlash {d : Device L} (h : d.flashDirty = true → d.rebootPending = true)
    (status : Status) : SameFlash d (restoreFail d status).device := by
  have hdevice : (restoreFail d status).device = closeSession (restoreFreeBuf d) := by
    by_cases hdirty : d.flashDirty = true
    · simp [restoreFail, restoreFreeBuf, closeSession, restoreScheduleReboot, hdirty, h hdirty]
    · simp [restoreFail, restoreFreeBuf, closeSession, hdirty]
  rw [hdevice]
  exact ⟨rfl, rfl, rfl, rfl, rfl⟩

-- Where a request can lead: it is refused, or its chunk is next in a session
-- that it has opened or that was open.
inductive Route (o : Outcomes L) (d : Device L) (inbuffer : List UInt8) : Prop where
  | refused (status : Status) : status ≠ .ok →
      processImmediate o d inbuffer = restoreFail d status → Route o d inbuffer
  | declined (req : Request) (result : Result L) : parse inbuffer = some req → req.offset = 0 →
      openSession o d L.capacity = .error result → processImmediate o d inbuffer = result →
      Route o d inbuffer
  | opened (req : Request) (e : Device L) : parse inbuffer = some req →
      req.totalSize = L.capacity → req.offset = 0 → req.chunk.length ≤ L.capacity →
      openSession o d L.capacity = .ok e →
      processImmediate o d inbuffer = acceptChunk o e 0 req.chunk → Route o d inbuffer
  | continued (req : Request) : parse inbuffer = some req → req.totalSize = L.capacity →
      req.offset = d.session.nextOffset → req.offset + req.chunk.length ≤ L.capacity →
      d.session.active = true →
      processImmediate o d inbuffer = acceptChunk o d d.session.nextOffset req.chunk →
      Route o d inbuffer

theorem route (o : Outcomes L) (d : Device L) (inbuffer : List UInt8) : Route o d inbuffer := by
  cases hparse : parse inbuffer with
  | none => exact .refused .invalidParameter (by simp) (by rw [processImmediate, hparse])
  | some req =>
      have heq : processImmediate o d inbuffer = processRequest o d req := by
        rw [processImmediate, hparse]
      unfold processRequest at heq
      split at heq
      · exact .refused _ (by simp) heq
      split at heq
      · exact .refused _ (by simp) heq
      rename_i htotal
      have htotal := not_not.mp htotal
      split at heq
      · exact .refused _ (by simp) heq
      rename_i hbounds
      rw [not_or, not_lt, not_lt] at hbounds
      split at heq
      · rename_i hzero
        rw [htotal, hzero] at heq
        split at heq
        · rename_i result hopen
          exact .declined req result hparse hzero hopen heq
        · rename_i e hopen
          exact .opened req e hparse htotal hzero (by omega) hopen heq
      split at heq
      · exact .refused _ (by simp) heq
      rename_i hactive
      split at heq
      · exact .refused _ (by simp) heq
      rename_i hnext
      have hnext := not_not.mp hnext
      rw [hnext] at heq
      exact .continued req hparse htotal hnext (by omega) (by simpa using hactive) heq

theorem openSession_buffered {o : Outcomes L} (d : Device L) (hmalloc : o.malloc = true) :
    ∃ e, openSession o d L.capacity = .ok e ∧ SameFlash d e ∧ Progress e [] ∧
      e.img = some (padded L []) := by
  refine ⟨{ d with
    img := some (List.replicate L.capacity 0xff)
    session := { nextOffset := 0, totalSize := L.capacity, active := true } }, ?_,
    ⟨rfl, rfl, rfl, rfl, rfl⟩, ⟨rfl, rfl, rfl⟩, by simp [padded]⟩
  simp [openSession, hmalloc, restoreFreeBuf]

theorem acceptChunk_of_store {o : Outcomes L} {d e : Device L} {offset : Nat}
    {chunk : List UInt8} {copies : List Copy} (h : storeChunk o d offset chunk = .ok (e, copies))
    (htotal : e.session.totalSize = L.capacity) :
    acceptChunk o d offset chunk =
      if offset + chunk.length < L.capacity then
        { device := advance e (offset + chunk.length), status := .ok, copies }
      else finish o (advance e (offset + chunk.length)) copies := by
  simp only [acceptChunk, h, advance, htotal]
  by_cases hlt : offset + chunk.length < L.capacity
  · rw [if_neg (by omega), if_pos hlt]
  · rw [if_pos (by omega), if_neg hlt]

theorem Progress.advance {d e : Device L} {bytes chunk : List UInt8} (h : Progress d bytes)
    (hsession : e.session = d.session) :
    Progress (advance e (bytes.length + chunk.length)) (bytes ++ chunk) := by
  refine ⟨?_, by simp [Restore.advance], ?_⟩
  · change e.session.active = true
    rw [hsession, h.active]
  · change e.session.totalSize = L.capacity
    rw [hsession, h.totalSize]

-- A chunk that is next in a buffered session.
theorem acceptChunk_buffered {o : Outcomes L} {d : Device L} {bytes chunk : List UInt8}
    (h : Progress d bytes) (himg : d.img = some (padded L bytes))
    (hfits : bytes.length + chunk.length ≤ L.capacity) :
    ∃ e copies, SameFlash d e ∧ Progress e (bytes ++ chunk) ∧
      e.img = some (padded L (bytes ++ chunk)) ∧
      (∀ copy ∈ copies, copy.offset + copy.length ≤ L.capacity) ∧
      acceptChunk o d bytes.length chunk =
        if bytes.length + chunk.length < L.capacity then { device := e, status := .ok, copies }
        else finish o e copies := by
  by_cases hempty : chunk.length > 0
  · have hstore : storeChunk o d bytes.length chunk =
        .ok ({ d with img := some (padded L (bytes ++ chunk)) },
          [{ offset := bytes.length, length := chunk.length }]) := by
      simp only [storeChunk, if_pos hempty, himg, memcpy_padded hfits]
    refine ⟨_, _, ?_, ?_, ?_, ?_, acceptChunk_of_store hstore h.totalSize⟩
    · exact ⟨rfl, rfl, rfl, rfl, rfl⟩
    · exact h.advance rfl
    · rfl
    · simpa using hfits
  · obtain rfl : chunk = [] := List.eq_nil_of_length_eq_zero (by omega)
    have hstore : storeChunk o d bytes.length [] = .ok (d, []) := rfl
    refine ⟨_, _, ?_, ?_, ?_, ?_, acceptChunk_of_store hstore h.totalSize⟩
    · exact ⟨rfl, rfl, rfl, rfl, rfl⟩
    · exact h.advance rfl
    · simpa [advance] using himg
    · simp

def smallLayout : Layout := { nvsSize := 2, zbSize := 2, found := true, fits := by decide }

def smallBoot : Device smallLayout :=
  boot { bytes := [5, 6], length_eq := rfl } { bytes := [7, 8], length_eq := rfl }

def allDone (malloc : Bool) : Outcomes L :=
  { malloc, eraseNvs := .done, eraseZb := .done, writeNvs := .done, writeZb := .done,
    wipeZb := .done }

end EspCoordinator.Restore
