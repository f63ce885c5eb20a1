import EspCoordinator.Restore.Upload

namespace EspCoordinator.Restore

variable {L : Layout}

inductive Label (L : Layout) where
  | request (o : Outcomes L) (inbuffer : List UInt8)
  -- ZBOSS and the NVS code write flash between the requests
  | flash (nvs : Nor L.nvsSize) (zb : Nor L.zbSize)

def Label.inbuffer? : Label L → Option (List UInt8)
  | .request _ inbuffer => some inbuffer
  | .flash _ _ => none

-- The allocation of the image never fails.
def Label.Buffers : Label L → Prop
  | .request o _ => o.malloc = true
  | .flash _ _ => True

def requests (labels : List (Label L)) : List (List UInt8) := labels.filterMap Label.inbuffer?

def apply (d : Device L) : Label L → Device L
  | .request o inbuffer => (processImmediate o d inbuffer).device
  | .flash nvs zb => { d with nvs, zb }

-- The request is the last one of an in-order upload of an image that passes
-- the gate.
def Completes (L : Layout) (past : List (List UInt8)) (inbuffer : List UInt8) : Prop :=
  ∃ image, InOrder L (past ++ [inbuffer]) image ∧ image.length = L.capacity ∧
    zbStorageImageOk (image.drop L.nvsSize) L.zbSize = true

-- The invariant of the four statics while the image is always buffered.
structure Guarded (past : List (List UInt8)) (d : Device L) : Prop where
  img : d.img.isSome = true → d.session.active = true
  upload : d.session.active = true → ∃ bytes, InOrder L past bytes ∧ bytes.length < L.capacity ∧
    Progress d bytes ∧ d.img = some (padded L bytes)
  dirty : d.flashDirty = true → d.rebootPending = true

theorem guarded_closed {past : List (List UInt8)} {d : Device L} (himg : d.img = none)
    (hactive : d.session.active = false) (hdirty : d.flashDirty = true → d.rebootPending = true) :
    Guarded past d :=
  ⟨by simp [himg], by simp [hactive], hdirty⟩

-- What a request may do to a guarded device.
structure Guards (past : List (List UInt8)) (d : Device L) (inbuffer : List UInt8)
    (res : Result L) : Prop where
  guarded : Guarded (past ++ [inbuffer]) res.device
  copies : ∀ copy ∈ res.copies, copy.offset + copy.length ≤ L.capacity
  flash : SameFlash d res.device ∨ Completes L past inbuffer

theorem guards_restoreFail {past : List (List UInt8)} {d e : Device L} {inbuffer : List UInt8}
    (hdirty : e.flashDirty = true → e.rebootPending = true) (hsame : SameFlash d e)
    (status : Status) (copies : List Copy)
    (hcopies : ∀ copy ∈ copies, copy.offset + copy.length ≤ L.capacity) :
    Guards past d inbuffer { restoreFail e status with copies } := by
  obtain ⟨himg, hactive⟩ := restoreFail_closed e status
  have hflash := restoreFail_sameFlash hdirty status
  refine ⟨guarded_closed himg hactive ?_, hcopies, Or.inl (hsame.trans hflash)⟩
  dsimp only
  rw [hflash.flashDirty, hflash.rebootPending]
  exact hdirty

theorem restoreScheduleReboot_pending (d : Device L) :
    (restoreScheduleReboot d).rebootPending = true := by
  unfold restoreScheduleReboot
  split
  · assumption
  · rfl

theorem commit_closed (o : Outcomes L) (d : Device L) (img : List UInt8) (copies : List Copy) :
    (commit o d img copies).device.img = none ∧
      (commit o d img copies).device.session = d.session ∧
      (commit o d img copies).device.rebootPending = true :=
  ⟨by simp [commit, restoreFreeBuf], by simp [commit, restoreFreeBuf],
    restoreScheduleReboot_pending _⟩

-- The last chunk of a buffered upload: the gate decides.
theorem guards_finish {past : List (List UInt8)} {d e : Device L} {inbuffer image : List UInt8}
    (o : Outcomes L) (copies : List Copy) (hsame : SameFlash d e)
    (hdirty : e.flashDirty = true → e.rebootPending = true) (himg : e.img = some image)
    (hlen : image.length = L.capacity) (horder : InOrder L (past ++ [inbuffer]) image)
    (hcopies : ∀ copy ∈ copies, copy.offset + copy.length ≤ L.capacity) :
    Guards past d inbuffer (finish o e copies) := by
  have himg : (closeSession e).img = some image := himg
  unfold finish
  simp only [himg]
  by_cases hgate : zbStorageImageOk (image.drop L.nvsSize) L.zbSize = true
  · rw [hgate]
    obtain ⟨hnone, hsession, hpending⟩ := commit_closed o (closeSession e) image copies
    refine ⟨guarded_closed hnone ?_ fun _ => hpending, hcopies,
      Or.inr ⟨image, horder, hlen, hgate⟩⟩
    change (commit o (closeSession e) image copies).device.session.active = false
    rw [hsession]
    rfl
  · rw [Bool.not_eq_true] at hgate
    rw [hgate]
    have hclosed : SameFlash e (closeSession e) := ⟨rfl, rfl, rfl, rfl, rfl⟩
    exact guards_restoreFail (e := closeSession e) hdirty (hsame.trans hclosed) _ _ hcopies

theorem guards_acceptChunk {past : List (List UInt8)} {d e : Device L}
    {inbuffer bytes chunk : List UInt8} (o : Outcomes L) (hsame : SameFlash d e)
    (hdirty : d.flashDirty = true → d.rebootPending = true) (h : Progress e bytes)
    (himg : e.img = some (padded L bytes)) (hfits : bytes.length + chunk.length ≤ L.capacity)
    (horder : InOrder L (past ++ [inbuffer]) (bytes ++ chunk)) :
    Guards past d inbuffer (acceptChunk o e bytes.length chunk) := by
  obtain ⟨f, copies, hflash, hprogress, hbuffer, hcopies, heq⟩ :=
    acceptChunk_buffered (o := o) h himg hfits
  have hsame := hsame.trans hflash
  have hdirty : f.flashDirty = true → f.rebootPending = true := by
    rw [hsame.flashDirty, hsame.rebootPending]
    exact hdirty
  rw [heq]
  by_cases hlt : bytes.length + chunk.length < L.capacity
  · rw [if_pos hlt]
    exact ⟨⟨fun _ => hprogress.active, fun _ => ⟨_, horder, by simpa using hlt, hprogress, hbuffer⟩,
      hdirty⟩, hcopies, Or.inl hsame⟩
  · rw [if_neg hlt]
    have hlen : (bytes ++ chunk).length = L.capacity := by
      rw [List.length_append]
      omega
    rw [padded_full hlen] at hbuffer
    exact guards_finish o copies hsame hdirty hbuffer hlen horder hcopies

theorem guards_processImmediate {past : List (List UInt8)} {d : Device L} (h : Guarded past d)
    {o : Outcomes L} (hmalloc : o.malloc = true) (inbuffer : List UInt8) :
    Guards past d inbuffer (processImmediate o d inbuffer) := by
  obtain ⟨fresh, hopen, hsame, hprogress, himg⟩ := openSession_buffered d hmalloc
  cases route o d inbuffer with
  | refused status _ heq =>
      rw [heq]
      exact guards_restoreFail h.dirty (SameFlash.refl d) status [] (by simp)
  | declined req result _ _ hfail =>
      rw [hopen] at hfail
      cases hfail
  | opened req e hparse htotal hzero hfits hok heq =>
      rw [hopen] at hok
      obtain rfl := Except.ok.inj hok
      rw [heq]
      have horder : InOrder L (past ++ [inbuffer]) req.chunk :=
        InOrder.start hparse htotal hzero hfits
      exact guards_acceptChunk o hsame h.dirty hprogress himg (by simpa using hfits) horder
  | continued req hparse htotal hnext hfits hactive heq =>
      obtain ⟨bytes, hpast, hlt, hprogress, himg⟩ := h.upload hactive
      rw [hprogress.nextOffset] at hnext heq
      rw [hnext] at hfits
      rw [heq]
      exact guards_acceptChunk o (SameFlash.refl d) h.dirty hprogress himg hfits
        (InOrder.next hpast hlt hparse htotal hnext hfits)

theorem guarded_run (nvs : Nor L.nvsSize) (zb : Nor L.zbSize) (labels : List (Label L))
    (hmalloc : ∀ label ∈ labels, label.Buffers) :
    Guarded (requests labels) (labels.foldl apply (boot nvs zb)) := by
  refine Run.foldl_history apply (boot nvs zb)
    (fun past d => (∀ label ∈ past, label.Buffers) → Guarded (requests past) d) ?_ ?_ labels hmalloc
  · exact fun _ => guarded_closed rfl rfl (by simp [boot])
  · intro past d label ih hall
    have h := ih fun label hm => hall label (by simp [hm])
    cases label with
    | request o inbuffer =>
        have ho : o.malloc = true := hall (.request o inbuffer) (by simp)
        simp only [requests, List.filterMap_append, List.filterMap_cons, Label.inbuffer?,
          List.filterMap_nil]
        exact (guards_processImmediate h ho inbuffer).guarded
    | flash nvs zb =>
        simp only [requests, List.filterMap_append, List.filterMap_cons, Label.inbuffer?,
          List.filterMap_nil, List.append_nil]
        refine ⟨h.img, fun hactive => ?_, h.dirty⟩
        obtain ⟨bytes, hpast, hlt, hprogress, himg⟩ := h.upload hactive
        exact ⟨bytes, hpast, hlt, ⟨hprogress.active, hprogress.nextOffset, hprogress.totalSize⟩,
          himg⟩

-- Nothing but the completion of a gated upload touches flash or schedules a
-- reboot, and the statics stay consistent.
theorem buffer_before_commit (nvs : Nor L.nvsSize) (zb : Nor L.zbSize) (labels : List (Label L))
    (hmalloc : ∀ label ∈ labels, label.Buffers) (o : Outcomes L) (ho : o.malloc = true)
    (inbuffer : List UInt8) :
    let d := labels.foldl apply (boot nvs zb)
    let res := processImmediate o d inbuffer
    (d.img.isSome = true → d.session.active = true) ∧
      (d.session.active = true → d.session.nextOffset < L.capacity) ∧
      (∀ copy ∈ res.copies, copy.offset + copy.length ≤ L.capacity) ∧
      (res.device.nvs = d.nvs ∧ res.device.zb = d.zb ∧ res.device.reboots = d.reboots ∨
        Completes L (requests labels) inbuffer) := by
  intro d res
  have h : Guarded (requests labels) d := guarded_run nvs zb labels hmalloc
  have hres : Guards (requests labels) d inbuffer res := guards_processImmediate h ho inbuffer
  refine ⟨h.img, fun hactive => ?_, hres.copies, ?_⟩
  · obtain ⟨bytes, -, hlt, hprogress, -⟩ := h.upload hactive
    rw [hprogress.nextOffset]
    exact hlt
  · exact hres.flash.imp (fun hsame => ⟨hsame.nvs, hsame.zb, hsame.reboots⟩) id

-- One byte of four has arrived, and the next request is out of order.
theorem buffer_before_commit_opened :
    let d : Device smallLayout :=
      [.request (allDone true) [0, 0, 0, 0, 4, 0, 0, 0, 1]].foldl apply smallBoot
    let res := processImmediate (allDone true) d [3, 0, 0, 0, 4, 0, 0, 0, 1]
    d.session.nextOffset < 4 ∧
      (res.device.nvs = d.nvs ∧ res.device.zb = d.zb ∧ res.device.reboots = d.reboots ∨
        Completes smallLayout [[0, 0, 0, 0, 4, 0, 0, 0, 1]] [3, 0, 0, 0, 4, 0, 0, 0, 1]) := by
  have h := buffer_before_commit smallBoot.nvs smallBoot.zb
    [.request (allDone true) [0, 0, 0, 0, 4, 0, 0, 0, 1]] (by simp [Label.Buffers, allDone])
    (allDone true) rfl [3, 0, 0, 0, 4, 0, 0, 0, 1]
  exact ⟨h.2.1 (by decide +kernel), h.2.2.2⟩

end EspCoordinator.Restore
