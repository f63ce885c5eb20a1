import EspCoordinator.Restore.Commit

namespace EspCoordinator.Restore

variable {L : Layout}

-- The invariant of the statics at every request boundary, however the
-- sessions are mixed.
structure Latched (d : Device L) : Prop where
  dirty : d.flashDirty = true → d.session.active = true ∨ d.rebootPending = true
  -- a session without a buffer has erased the flash
  streaming : d.session.active = true → d.img = none → d.flashDirty = true
  reboots : d.reboots = d.rebootPending.toNat

-- What a request may do to the latch and the flash.
structure Latches (d e : Device L) : Prop where
  latched : Latched e
  kept : d.flashDirty = true → e.flashDirty = true
  flash : e.flashDirty = false → e.nvs = d.nvs ∧ e.zb = d.zb

theorem Latches.trans {d e f : Device L} (h : Latches d e) (h' : Latches e f) : Latches d f := by
  refine ⟨h'.latched, fun hd => h'.kept (h.kept hd), fun hclean => ?_⟩
  have hbefore : e.flashDirty = false := by
    by_contra hdirty
    simp [h'.kept (Bool.eq_true_of_not_eq_false hdirty)] at hclean
  obtain ⟨hnvs, hzb⟩ := h'.flash hclean
  obtain ⟨hnvs', hzb'⟩ := h.flash hbefore
  exact ⟨hnvs.trans hnvs', hzb.trans hzb'⟩

theorem latched_boot (nvs : Nor L.nvsSize) (zb : Nor L.zbSize) : Latched (boot nvs zb) :=
  ⟨by simp [boot], by simp [boot], by simp [boot]⟩

theorem restoreScheduleReboot_reboots {d : Device L} (h : d.reboots = d.rebootPending.toNat) :
    (restoreScheduleReboot d).reboots = (restoreScheduleReboot d).rebootPending.toNat := by
  unfold restoreScheduleReboot
  by_cases hpending : d.rebootPending = true
  · rw [if_pos hpending, h]
  · rw [Bool.not_eq_true] at hpending
    simp [hpending, h]

@[simp] theorem restoreScheduleReboot_flash (d : Device L) :
    (restoreScheduleReboot d).nvs = d.nvs ∧ (restoreScheduleReboot d).zb = d.zb ∧
      (restoreScheduleReboot d).flashDirty = d.flashDirty := by
  unfold restoreScheduleReboot
  split <;> exact ⟨rfl, rfl, rfl⟩

-- A device that differs from `d` as a terminal exit finds it.
structure Exits (d e : Device L) : Prop where
  kept : d.flashDirty = true → e.flashDirty = true
  flash : e.flashDirty = false → e.nvs = d.nvs ∧ e.zb = d.zb
  reboots : e.reboots = e.rebootPending.toNat

theorem Latched.exits {d : Device L} (h : Latched d) : Exits d d :=
  ⟨id, fun _ => ⟨rfl, rfl⟩, h.reboots⟩

-- A scheduled reboot closes every way out.
theorem Exits.scheduled {d e : Device L} (h : Exits d e) (hactive : e.session.active = false) :
    Latches d (restoreScheduleReboot e) := by
  obtain ⟨hnvs, hzb, hdirty⟩ := restoreScheduleReboot_flash e
  refine ⟨⟨fun _ => Or.inr (restoreScheduleReboot_pending e), ?_,
    restoreScheduleReboot_reboots h.reboots⟩, ?_, ?_⟩
  · simp [hactive]
  · rw [hdirty]
    exact h.kept
  · rw [hdirty, hnvs, hzb]
    exact h.flash

theorem Exits.restoreFail {d e : Device L} (h : Exits d e) (status : Status) :
    Latches d (restoreFail e status).device := by
  have hclosed : Exits d (closeSession (restoreFreeBuf e)) := ⟨h.kept, h.flash, h.reboots⟩
  by_cases hdirty : e.flashDirty = true
  · have heq : (Restore.restoreFail e status).device =
        restoreScheduleReboot (closeSession (restoreFreeBuf e)) := by
      simp [Restore.restoreFail, closeSession, restoreFreeBuf, hdirty]
    rw [heq]
    exact hclosed.scheduled rfl
  · have heq : (Restore.restoreFail e status).device = closeSession (restoreFreeBuf e) := by
      simp [Restore.restoreFail, closeSession, restoreFreeBuf, hdirty]
    rw [heq]
    exact ⟨⟨fun htrue => absurd htrue hdirty, by simp [closeSession], h.reboots⟩, h.kept, h.flash⟩

-- Once the latch is set, nothing the request writes counts.
theorem exits_of_dirty {d e : Device L} (hdirty : e.flashDirty = true)
    (hreboots : e.reboots = e.rebootPending.toNat) : Exits d e :=
  ⟨fun _ => hdirty, fun hclean => by simp [hdirty] at hclean, hreboots⟩

theorem latches_openSession {o : Outcomes L} {d e : Device L} {totalSize : Nat} (h : Latched d)
    (hopen : openSession o d totalSize = .ok e) : Latches d e ∧ e.session.active = true := by
  unfold openSession at hopen
  split at hopen
  · obtain rfl := Except.ok.inj hopen
    exact ⟨⟨⟨fun _ => Or.inl rfl, by simp, h.reboots⟩, id, fun _ => ⟨rfl, rfl⟩⟩, rfl⟩
  · dsimp only at hopen
    split at hopen
    · simp at hopen
    · obtain rfl := Except.ok.inj hopen
      exact ⟨⟨⟨fun _ => Or.inl rfl, fun _ _ => rfl, h.reboots⟩, fun _ => rfl, by simp⟩, rfl⟩

theorem latches_openSession_error {o : Outcomes L} {d : Device L} {totalSize : Nat}
    {result : Result L} (h : Latched d) (hopen : openSession o d totalSize = .error result) :
    Latches d result.device := by
  unfold openSession at hopen
  split at hopen
  · simp at hopen
  · dsimp only at hopen
    split at hopen
    · obtain rfl := Except.error.inj hopen
      have hexits : Exits d { restoreFreeBuf d with
          flashDirty := true, nvs := (Nor.erase o.eraseNvs).1, zb := (Nor.erase o.eraseZb).1 } :=
        exits_of_dirty rfl h.reboots
      exact hexits.restoreFail _
    · simp at hopen

-- A chunk goes to the buffer, or to flash that is dirty already.
theorem latches_storeChunk {o : Outcomes L} {d e : Device L} {offset : Nat} {chunk : List UInt8}
    {copies : List Copy} (h : Latched d) (hactive : d.session.active = true)
    (hstore : storeChunk o d offset chunk = .ok (e, copies)) : Latches d e := by
  unfold storeChunk at hstore
  split at hstore
  · split at hstore
    · obtain ⟨rfl, -⟩ := Prod.mk.inj (Except.ok.inj hstore)
      exact ⟨⟨h.dirty, by simp, h.reboots⟩, id, fun _ => ⟨rfl, rfl⟩⟩
    · rename_i hnone
      have hdirty := h.streaming hactive hnone
      dsimp only at hstore
      split at hstore
      · simp at hstore
      · obtain ⟨rfl, -⟩ := Prod.mk.inj (Except.ok.inj hstore)
        exact ⟨⟨h.dirty, h.streaming, h.reboots⟩, id, by simp [hdirty]⟩
  · obtain ⟨rfl, -⟩ := Prod.mk.inj (Except.ok.inj hstore)
    exact ⟨h, id, fun _ => ⟨rfl, rfl⟩⟩

theorem latches_storeChunk_error {o : Outcomes L} {d : Device L} {offset : Nat}
    {chunk : List UInt8} {result : Result L} (h : Latched d) (hactive : d.session.active = true)
    (hstore : storeChunk o d offset chunk = .error result) : Latches d result.device := by
  unfold storeChunk at hstore
  split at hstore
  · split at hstore
    · simp at hstore
    · rename_i hnone
      have hdirty := h.streaming hactive hnone
      dsimp only at hstore
      split at hstore
      · obtain rfl := Except.error.inj hstore
        have hexits : Exits d { d with
            nvs := (streamChunk o d.nvs d.zb offset chunk).1
            zb := (streamChunk o d.nvs d.zb offset chunk).2.1 } :=
          exits_of_dirty hdirty h.reboots
        exact hexits.restoreFail _
      · simp at hstore
  · simp at hstore

theorem latches_finish {d : Device L} (h : Latched d) (o : Outcomes L) (copies : List Copy) :
    Latches d (finish o d copies).device := by
  have hclosed : Exits d (closeSession d) := ⟨id, fun _ => ⟨rfl, rfl⟩, h.reboots⟩
  unfold finish
  dsimp only
  split
  · rename_i img _
    split
    · exact hclosed.restoreFail .operationFailed
    · have hexits : Exits d (restoreFreeBuf { closeSession d with
          flashDirty := true, nvs := (commitFlash o img).1, zb := (commitFlash o img).2.1 }) :=
        exits_of_dirty rfl h.reboots
      exact hexits.scheduled rfl
  · exact hclosed.scheduled rfl

theorem latches_acceptChunk {d : Device L} (h : Latched d) (hactive : d.session.active = true)
    (o : Outcomes L) (offset : Nat) (chunk : List UInt8) :
    Latches d (acceptChunk o d offset chunk).device := by
  unfold acceptChunk
  split
  · rename_i result hstore
    exact latches_storeChunk_error h hactive hstore
  · rename_i e copies hstore
    have hstored := latches_storeChunk h hactive hstore
    have hadvance : Latches d (advance e (offset + chunk.length)) :=
      ⟨⟨hstored.latched.dirty, hstored.latched.streaming, hstored.latched.reboots⟩, hstored.kept,
        hstored.flash⟩
    dsimp only
    split
    · exact hadvance.trans (latches_finish hadvance.latched o copies)
    · exact hadvance

-- Every exit of the handler, one case for each way a request can go.
theorem latches_processImmediate {d : Device L} (h : Latched d) (o : Outcomes L)
    (inbuffer : List UInt8) : Latches d (processImmediate o d inbuffer).device := by
  cases route o d inbuffer with
  | refused status _ heq =>
      rw [heq]
      exact h.exits.restoreFail status
  | declined req result _ _ hopen heq =>
      rw [heq]
      exact latches_openSession_error h hopen
  | opened req e _ _ _ _ hopen heq =>
      rw [heq]
      obtain ⟨hopened, hactive⟩ := latches_openSession h hopen
      exact hopened.trans (latches_acceptChunk hopened.latched hactive o 0 req.chunk)
  | continued req _ _ _ _ hactive heq =>
      rw [heq]
      exact latches_acceptChunk h hactive o _ req.chunk

theorem latched_apply {d : Device L} (h : Latched d) (label : Label L) :
    Latched (apply d label) := by
  cases label with
  | request o inbuffer => exact (latches_processImmediate h o inbuffer).latched
  | flash nvs zb => exact ⟨h.dirty, h.streaming, h.reboots⟩

theorem latched_run (nvs : Nor L.nvsSize) (zb : Nor L.zbSize) (labels : List (Label L)) :
    Latched (labels.foldl apply (boot nvs zb)) :=
  Run.foldl_history apply (boot nvs zb) (fun _ d => Latched d) (latched_boot nvs zb)
    (fun _ _ label h => latched_apply h label) labels

-- In every state a boot can reach: dirty flash is behind an active session or
-- a scheduled reboot, no request clears the latch or touches clean flash
-- without setting it, and there is one reboot task at most.
theorem no_running_on_dead_flash (nvs : Nor L.nvsSize) (zb : Nor L.zbSize)
    (labels : List (Label L)) :
    let d := labels.foldl apply (boot nvs zb)
    (d.flashDirty = true → d.session.active = true ∨ d.rebootPending = true ∧ d.reboots = 1) ∧
      (∀ label, d.flashDirty = true → (apply d label).flashDirty = true) ∧
      (∀ o inbuffer, (apply d (.request o inbuffer)).flashDirty = false →
        (apply d (.request o inbuffer)).nvs = d.nvs ∧
          (apply d (.request o inbuffer)).zb = d.zb) ∧
      d.reboots ≤ 1 := by
  intro d
  have h : Latched d := latched_run nvs zb labels
  refine ⟨fun hdirty => ?_, fun label hdirty => ?_, fun o inbuffer hclean => ?_, ?_⟩
  · rcases h.dirty hdirty with hactive | hpending
    · exact Or.inl hactive
    · exact Or.inr ⟨hpending, by rw [h.reboots, hpending]; rfl⟩
  · cases label with
    | request o inbuffer => exact (latches_processImmediate h o inbuffer).kept hdirty
    | flash nvs zb => exact hdirty
  · exact (latches_processImmediate h o inbuffer).flash hclean
  · rw [h.reboots]
    exact Bool.toNat_le _

end EspCoordinator.Restore
