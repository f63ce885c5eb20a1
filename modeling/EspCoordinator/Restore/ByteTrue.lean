import EspCoordinator.Restore.Upload

namespace EspCoordinator.Restore

open Bytes

variable {L : Layout}

def encodeRequest (offset totalSize : Nat) (chunk : List UInt8) : List UInt8 :=
  toLE 4 offset ++ (toLE 4 totalSize ++ chunk)

theorem parse_encodeRequest {offset totalSize : Nat} (chunk : List UInt8)
    (hoffset : offset < 2 ^ 32) (htotal : totalSize < 2 ^ 32) :
    parse (encodeRequest offset totalSize chunk) = some { offset, totalSize, chunk } := by
  have hlen : (encodeRequest offset totalSize chunk).length = 8 + chunk.length := by
    simp only [encodeRequest, List.length_append, length_toLE]
    omega
  have hfirst : field (encodeRequest offset totalSize chunk) 0 4 = offset := by
    rw [field, encodeRequest, List.drop_zero, List.take_left' (length_toLE 4 offset),
      ofLE_toLE 4 offset hoffset]
  have hsecond : field (encodeRequest offset totalSize chunk) 4 4 = totalSize := by
    rw [field, encodeRequest, List.drop_left' (length_toLE 4 offset),
      List.take_left' (length_toLE 4 totalSize), ofLE_toLE 4 totalSize htotal]
  have hchunk : (encodeRequest offset totalSize chunk).drop 8 = chunk := by
    rw [encodeRequest, ← List.append_assoc, List.drop_left' (by simp)]
  rw [parse, if_neg (by omega), hfirst, hsecond, hchunk]

-- The requests of an upload, with the outcomes of the calls they make. Each
-- goes on where the one before it ended.
def upload (d : Device L) (offset : Nat) : List (Outcomes L × List UInt8) → Device L
  | [] => d
  | (o, chunk) :: rest =>
      let res := processImmediate o d (encodeRequest offset L.capacity chunk)
      upload res.device (offset + chunk.length) rest

def imageOf (chunks : List (Outcomes L × List UInt8)) : List UInt8 :=
  (chunks.map Prod.snd).flatten

-- No partition call of the request fails.
structure Outcomes.AllDone (o : Outcomes L) : Prop where
  eraseNvs : o.eraseNvs = .done
  eraseZb : o.eraseZb = .done
  writeNvs : o.writeNvs = .done
  writeZb : o.writeZb = .done

-- The bytes are in flash, and everything behind them is blank.
def FlashFilled (nvs : Nor L.nvsSize) (zb : Nor L.zbSize) (bytes : List UInt8) : Prop :=
  nvs.FilledTo (bytes.take L.nvsSize) ∧ zb.FilledTo (bytes.drop L.nvsSize)

theorem flashFilled_erased : FlashFilled (L := L) (Nor.erased _) (Nor.erased _) [] := by
  simp only [FlashFilled, List.take_nil, List.drop_nil]
  exact ⟨Nor.filledTo_erased, Nor.filledTo_erased⟩

theorem FlashFilled.eq_of_length {nvs : Nor L.nvsSize} {zb : Nor L.zbSize} {bytes : List UInt8}
    (h : FlashFilled nvs zb bytes) (hlen : bytes.length = L.capacity) :
    nvs.bytes ++ zb.bytes = bytes := by
  have hcap : L.capacity = L.nvsSize + L.zbSize := rfl
  have hnvs := h.1.eq_of_length (by rw [List.length_take]; omega)
  have hzb := h.2.eq_of_length (by rw [List.length_drop]; omega)
  rw [hnvs, hzb, List.take_append_drop]

theorem streamChunk_low {offset : Nat} {chunk : List UInt8} (o : Outcomes L)
    (nvs : Nor L.nvsSize) (zb : Nor L.zbSize) (hlow : offset < L.nvsSize)
    (hfits : offset + chunk.length ≤ L.nvsSize) :
    streamChunk o nvs zb offset chunk =
      ((nvs.program o.writeNvs offset chunk).1, zb, (nvs.program o.writeNvs offset chunk).2) := by
  have hlen : ¬offset + chunk.length > L.nvsSize := by omega
  simp [streamChunk, hlow, hlen]

theorem streamChunk_cross {offset : Nat} {chunk : List UInt8} (o : Outcomes L)
    (nvs : Nor L.nvsSize) (zb : Nor L.zbSize) (hlow : offset < L.nvsSize)
    (hcross : L.nvsSize < offset + chunk.length) :
    streamChunk o nvs zb offset chunk =
      let first := nvs.program o.writeNvs offset (chunk.take (L.nvsSize - offset))
      let second := zb.program o.writeZb 0 (chunk.drop (L.nvsSize - offset))
      if first.2 then (first.1, second.1, second.2) else (first.1, zb, false) := by
  have hlen : L.nvsSize - offset < chunk.length := by omega
  simp only [streamChunk, if_pos hlow, gt_iff_lt, if_pos hcross, hlen, decide_true, Bool.and_true]
  by_cases hfirst :
      (nvs.program o.writeNvs offset (chunk.take (L.nvsSize - offset))).2 = true
  · simp [hfirst]
  · simp [hfirst]

theorem streamChunk_high {offset : Nat} {chunk : List UInt8} (o : Outcomes L)
    (nvs : Nor L.nvsSize) (zb : Nor L.zbSize) (hhigh : L.nvsSize ≤ offset) :
    streamChunk o nvs zb offset chunk =
      (nvs, (zb.program o.writeZb (offset - L.nvsSize) chunk).1,
        (zb.program o.writeZb (offset - L.nvsSize) chunk).2) := by
  simp [streamChunk, Nat.not_lt.mpr hhigh]

-- What is reported as written is in flash, and only a failed call keeps it
-- from being written.
def Writes (o : Outcomes L) (res : Nor L.nvsSize × Nor L.zbSize × Bool) (bytes : List UInt8) :
    Prop :=
  (res.2.2 = true → FlashFilled res.1 res.2.1 bytes) ∧ (o.AllDone → res.2.2 = true)

theorem FlashFilled.streamChunk_low {nvs : Nor L.nvsSize} {zb : Nor L.zbSize}
    {bytes chunk : List UInt8} (h : FlashFilled nvs zb bytes) (o : Outcomes L)
    (hlow : bytes.length < L.nvsSize) (hin : bytes.length + chunk.length ≤ L.nvsSize) :
    Writes o (streamChunk o nvs zb bytes.length chunk) (bytes ++ chunk) := by
  obtain ⟨hnvs, hzb⟩ := h
  rw [List.take_of_length_le (by omega)] at hnvs
  rw [List.drop_of_length_le (by omega)] at hzb
  obtain ⟨hdone, hfill⟩ := hnvs.program o.writeNvs hin
  rw [Restore.streamChunk_low o nvs zb hlow hin]
  refine ⟨fun hwritten => ⟨?_, ?_⟩, fun hall => hdone.mpr hall.writeNvs⟩
  · rw [List.take_of_length_le (by rw [List.length_append]; exact hin)]
    exact hfill (hdone.mp hwritten)
  · rw [List.drop_of_length_le (by rw [List.length_append]; exact hin)]
    exact hzb

theorem FlashFilled.streamChunk_cross {nvs : Nor L.nvsSize} {zb : Nor L.zbSize}
    {bytes chunk : List UInt8} (h : FlashFilled nvs zb bytes) (o : Outcomes L)
    (hlow : bytes.length < L.nvsSize) (hcross : L.nvsSize < bytes.length + chunk.length)
    (hfits : bytes.length + chunk.length ≤ L.capacity) :
    Writes o (streamChunk o nvs zb bytes.length chunk) (bytes ++ chunk) := by
  have hcap : L.capacity = L.nvsSize + L.zbSize := rfl
  have htake : bytes.take L.nvsSize = bytes := List.take_of_length_le (by omega)
  have hdrop : bytes.drop L.nvsSize = [] := List.drop_of_length_le (by omega)
  have hhead : (chunk.take (L.nvsSize - bytes.length)).length = L.nvsSize - bytes.length := by
    rw [List.length_take]
    omega
  have htail : (chunk.drop (L.nvsSize - bytes.length)).length =
      chunk.length - (L.nvsSize - bytes.length) := List.length_drop
  obtain ⟨hnvs, hzb⟩ := h
  rw [htake] at hnvs
  rw [hdrop] at hzb
  obtain ⟨hn, hnfill⟩ := hnvs.program o.writeNvs
    (show bytes.length + (chunk.take (L.nvsSize - bytes.length)).length ≤ _ by omega)
  obtain ⟨hz, hzfill⟩ := hzb.program o.writeZb
    (show 0 + (chunk.drop (L.nvsSize - bytes.length)).length ≤ _ by omega)
  rw [Restore.streamChunk_cross o nvs zb hlow hcross]
  by_cases hfirst : o.writeNvs = .done
  · simp only [hn.mpr hfirst, if_true]
    refine ⟨fun hwritten => ⟨?_, ?_⟩, fun hall => hz.mpr hall.writeZb⟩
    · rw [List.take_append, htake]
      exact hnfill hfirst
    · rw [List.drop_append, hdrop]
      exact hzfill (hz.mp hwritten)
  · have hfail := fun heq => hfirst (hn.mp heq)
    simp only [if_neg hfail]
    exact ⟨fun h => absurd h (by simp), fun hall => absurd hall.writeNvs hfirst⟩

theorem FlashFilled.streamChunk_high {nvs : Nor L.nvsSize} {zb : Nor L.zbSize}
    {bytes chunk : List UInt8} (h : FlashFilled nvs zb bytes) (o : Outcomes L)
    (hhigh : L.nvsSize ≤ bytes.length) (hfits : bytes.length + chunk.length ≤ L.capacity) :
    Writes o (streamChunk o nvs zb bytes.length chunk) (bytes ++ chunk) := by
  have hcap : L.capacity = L.nvsSize + L.zbSize := rfl
  have hrest : (bytes.drop L.nvsSize).length = bytes.length - L.nvsSize := List.length_drop
  obtain ⟨hnvs, hzb⟩ := h
  obtain ⟨hdone, hfill⟩ := hzb.program o.writeZb
    (show (bytes.drop L.nvsSize).length + chunk.length ≤ _ by omega)
  rw [hrest] at hdone hfill
  rw [Restore.streamChunk_high o nvs zb hhigh]
  refine ⟨fun hwritten => ⟨?_, ?_⟩, fun hall => hdone.mpr hall.writeZb⟩
  · rw [List.take_append_of_le_length hhigh]
    exact hnvs
  · rw [List.drop_append_of_le_length hhigh]
    exact hfill (hdone.mp hwritten)

-- A streamed chunk goes behind the bytes already in flash, on both sides of
-- the boundary.
theorem FlashFilled.streamChunk {nvs : Nor L.nvsSize} {zb : Nor L.zbSize}
    {bytes chunk : List UInt8} (h : FlashFilled nvs zb bytes) (o : Outcomes L)
    (hfits : bytes.length + chunk.length ≤ L.capacity) :
    Writes o (streamChunk o nvs zb bytes.length chunk) (bytes ++ chunk) := by
  by_cases hlow : bytes.length < L.nvsSize
  · by_cases hin : bytes.length + chunk.length ≤ L.nvsSize
    · exact h.streamChunk_low o hlow hin
    · exact h.streamChunk_cross o hlow (by omega) hfits
  · exact h.streamChunk_high o (by omega) hfits

-- What has arrived is in the buffer, or in flash when there is no buffer.
structure Filled (d : Device L) (bytes : List UInt8) : Prop where
  progress : Progress d bytes
  buffered : ∀ img, d.img = some img → img = padded L bytes
  streamed : d.img = none → FlashFilled d.nvs d.zb bytes

-- Every way to open a session starts with nothing, unless an erase fails.
theorem openSession_filled (o : Outcomes L) (d : Device L) :
    (∃ e, openSession o d L.capacity = .ok e ∧ Filled e []) ∨
      (∃ e, openSession o d L.capacity = .error (restoreFail e .operationFailed)) ∧
        ¬o.AllDone := by
  by_cases hmalloc : o.malloc = true
  · obtain ⟨e, hopen, -, hprogress, himg⟩ := openSession_buffered d hmalloc
    refine Or.inl ⟨e, hopen, hprogress, fun img heq => ?_, fun hnone => ?_⟩
    · exact Option.some.inj (heq.symm.trans himg)
    · rw [himg] at hnone
      cases hnone
  · simp only [openSession, hmalloc, Bool.false_eq_true, if_false]
    cases hnvs : o.eraseNvs with
    | failed left =>
        exact Or.inr ⟨⟨_, rfl⟩, fun hall => by simp [hall.eraseNvs] at hnvs⟩
    | done =>
        cases hzb : o.eraseZb with
        | failed left =>
            exact Or.inr ⟨⟨_, rfl⟩, fun hall => by simp [hall.eraseZb] at hzb⟩
        | done =>
            refine Or.inl ⟨_, rfl, ⟨rfl, rfl, rfl⟩, ?_, fun _ => flashFilled_erased⟩
            simp [restoreFreeBuf]

-- The next chunk arrives, or the write fails.
theorem acceptChunk_filled {d : Device L} {bytes chunk : List UInt8} (h : Filled d bytes)
    (o : Outcomes L) (hfits : bytes.length + chunk.length ≤ L.capacity) :
    (∃ e copies, Filled e (bytes ++ chunk) ∧ acceptChunk o d bytes.length chunk =
      if bytes.length + chunk.length < L.capacity then { device := e, status := .ok, copies }
      else finish o e copies) ∨
    (∃ e, acceptChunk o d bytes.length chunk = restoreFail e .operationFailed) ∧ ¬o.AllDone := by
  cases himg : d.img with
  | some img =>
      obtain rfl := h.buffered img himg
      obtain ⟨e, copies, -, hprogress, hbuffer, -, heq⟩ :=
        acceptChunk_buffered (o := o) h.progress himg hfits
      refine Or.inl ⟨e, copies, ⟨hprogress, fun img himg => ?_, fun hnone => ?_⟩, heq⟩
      · exact Option.some.inj (himg.symm.trans hbuffer)
      · rw [hbuffer] at hnone
        cases hnone
  | none =>
      obtain ⟨hfill, hall⟩ := (h.streamed himg).streamChunk o hfits
      by_cases hempty : chunk.length > 0
      · by_cases hwritten : (streamChunk o d.nvs d.zb bytes.length chunk).2.2 = true
        · have hstore : storeChunk o d bytes.length chunk =
              .ok ({ d with
                nvs := (streamChunk o d.nvs d.zb bytes.length chunk).1
                zb := (streamChunk o d.nvs d.zb bytes.length chunk).2.1 }, []) := by
            simp only [storeChunk, if_pos hempty, himg, hwritten]
            rfl
          refine Or.inl ⟨_, _, ⟨?_, ?_, ?_⟩, acceptChunk_of_store hstore h.progress.totalSize⟩
          · exact h.progress.advance rfl
          · simp [advance, himg]
          · exact fun _ => hfill hwritten
        · refine Or.inr ⟨⟨{ d with
            nvs := (streamChunk o d.nvs d.zb bytes.length chunk).1
            zb := (streamChunk o d.nvs d.zb bytes.length chunk).2.1 }, ?_⟩,
            fun hdone => hwritten (hall hdone)⟩
          simp only [acceptChunk, storeChunk, if_pos hempty, himg, hwritten]
          rfl
      · obtain rfl : chunk = [] := List.eq_nil_of_length_eq_zero (by omega)
        have hstore : storeChunk o d bytes.length [] = .ok (d, []) := rfl
        refine Or.inl ⟨_, _, ⟨?_, ?_, ?_⟩, acceptChunk_of_store hstore h.progress.totalSize⟩
        · exact h.progress.advance rfl
        · simp [advance, himg]
        · simpa [advance] using h.streamed

-- What a commit reports as written is in flash.
theorem commitFlash_filled (o : Outcomes L) {image : List UInt8}
    (hlen : image.length = L.capacity) : Writes o (commitFlash o image) image := by
  have hcap : L.capacity = L.nvsSize + L.zbSize := rfl
  have hhead : (image.take L.nvsSize).length = L.nvsSize := by
    rw [List.length_take]
    omega
  have htail : (image.drop L.nvsSize).length = L.zbSize := by
    rw [List.length_drop]
    omega
  obtain ⟨hn, hnfill⟩ := Nor.filledTo_erased.program o.writeNvs
    (show 0 + (image.take L.nvsSize).length ≤ L.nvsSize by omega)
  obtain ⟨hz, hzfill⟩ := Nor.filledTo_erased.program o.writeZb
    (show 0 + (image.drop L.nvsSize).length ≤ L.zbSize by omega)
  rw [List.length_nil] at hn hnfill hz hzfill
  have hzb : (image.drop L.nvsSize).take L.zbSize = image.drop L.nvsSize :=
    List.take_of_length_le (by omega)
  cases hen : o.eraseNvs with
  | failed left =>
      simp only [commitFlash, hen, Nor.erase, Bool.false_eq_true, if_false]
      exact ⟨fun h => absurd h (by simp), fun hall => by simp [hall.eraseNvs] at hen⟩
  | done =>
      cases hez : o.eraseZb with
      | failed left =>
          simp only [commitFlash, hen, hez, Nor.erase, Bool.false_eq_true, if_false, if_true,
            Bool.not_false, Bool.or_true]
          exact ⟨fun h => absurd h (by simp), fun hall => by simp [hall.eraseZb] at hez⟩
      | done =>
          simp only [commitFlash, hen, hez, Nor.erase, if_true, hzb]
          by_cases hwritten : o.writeNvs = .done ∧ o.writeZb = .done
          · simp only [hn.mpr hwritten.1, hz.mpr hwritten.2]
            exact ⟨fun _ => ⟨hnfill hwritten.1, hzfill hwritten.2⟩, fun _ => rfl⟩
          · have hfail : (!((Nor.erased L.nvsSize).program o.writeNvs 0 (image.take L.nvsSize)).2 ||
                !((Nor.erased L.zbSize).program o.writeZb 0 (image.drop L.nvsSize)).2) = true := by
              rw [Bool.or_eq_true, Bool.not_eq_true', Bool.not_eq_true']
              rcases not_and_or.mp hwritten with hne | hne
              · exact Or.inl (Bool.eq_false_iff.mpr fun heq => hne (hn.mp heq))
              · exact Or.inr (Bool.eq_false_iff.mpr fun heq => hne (hz.mp heq))
            simp only [hfail, if_true]
            exact ⟨fun h => absurd h (by simp), fun hall => absurd ⟨hall.writeNvs, hall.writeZb⟩
              hwritten⟩

def flash (d : Device L) : List UInt8 := d.nvs.bytes ++ d.zb.bytes

@[simp] theorem flash_restoreScheduleReboot (d : Device L) :
    flash (restoreScheduleReboot d) = flash d := by
  unfold restoreScheduleReboot
  split <;> rfl

-- The whole image has arrived.
theorem finish_filled {d : Device L} {image : List UInt8} (h : Filled d image) (o : Outcomes L)
    (copies : List Copy) (hlen : image.length = L.capacity) :
    ((finish o d copies).status = .ok → flash (finish o d copies).device = image) ∧
      (o.AllDone → zbStorageImageOk (image.drop L.nvsSize) L.zbSize = true →
        (finish o d copies).status = .ok) := by
  unfold finish
  cases himg : d.img with
  | none =>
      have hclosed : (closeSession d).img = none := himg
      simp only [hclosed, flash_restoreScheduleReboot]
      exact ⟨fun _ => (h.streamed himg).eq_of_length hlen, fun _ _ => trivial⟩
  | some img =>
      have hclosed : (closeSession d).img = some img := himg
      obtain rfl : img = image := by rw [h.buffered img himg, padded_full hlen]
      simp only [hclosed]
      by_cases hgate : zbStorageImageOk (img.drop L.nvsSize) L.zbSize = true
      · obtain ⟨hfill, hall⟩ := commitFlash_filled o hlen
        rw [hgate]
        simp only [Bool.not_true, Bool.false_eq_true, if_false, commit,
          flash_restoreScheduleReboot]
        refine ⟨fun hok => (hfill ?_).eq_of_length hlen, fun hdone _ => ?_⟩
        · by_contra hfail
          rw [if_neg hfail] at hok
          cases hok
        · rw [if_pos (hall hdone)]
      · rw [Bool.not_eq_true] at hgate
        rw [hgate]
        exact ⟨fun hok => absurd hok (by simp [restoreFail]), fun _ h => absurd h (by simp)⟩

-- The session is open and holds `bytes`, or there is nothing to hold yet.
def Uploading (d : Device L) (bytes : List UInt8) : Prop :=
  bytes = [] ∨ Filled d bytes

-- The next request of an upload that has not failed.
theorem processImmediate_upload {d : Device L} {bytes : List UInt8} (h : Uploading d bytes)
    (hfound : L.found = true) (o : Outcomes L) (chunk : List UInt8)
    (hfits : bytes.length + chunk.length ≤ L.capacity) :
    (∃ e copies, Filled e (bytes ++ chunk) ∧
      processImmediate o d (encodeRequest bytes.length L.capacity chunk) =
        if bytes.length + chunk.length < L.capacity then { device := e, status := .ok, copies }
        else finish o e copies) ∨
    (∃ e, processImmediate o d (encodeRequest bytes.length L.capacity chunk) =
      restoreFail e .operationFailed) ∧ ¬o.AllDone := by
  have hbound := L.fits
  have hcap : L.capacity = L.nvsSize + L.zbSize := rfl
  have hparse := parse_encodeRequest chunk (show bytes.length < 2 ^ 32 by omega)
    (show L.capacity < 2 ^ 32 by omega)
  have hin : ¬(bytes.length > L.capacity ∨ chunk.length > L.capacity - bytes.length) := by omega
  simp only [processImmediate, hparse, processRequest, hfound, Bool.not_true, Bool.false_eq_true,
    if_false, ne_eq, not_true_eq_false, if_neg hin]
  by_cases hzero : bytes.length = 0
  · obtain rfl := List.eq_nil_of_length_eq_zero hzero
    simp only [List.length_nil, if_true]
    rcases openSession_filled o d with ⟨e, hopen, hfill⟩ | ⟨⟨e, hopen⟩, hfail⟩
    · simp only [hopen]
      exact acceptChunk_filled hfill o hfits
    · simp only [hopen]
      exact Or.inr ⟨⟨e, rfl⟩, hfail⟩
  · have hfill : Filled d bytes := h.resolve_left fun hnil => hzero (by simp [hnil])
    simp only [if_neg hzero, hfill.progress.active, hfill.progress.nextOffset, Bool.not_true,
      Bool.false_eq_true, if_false, not_true_eq_false]
    exact acceptChunk_filled hfill o hfits

-- A later request of an upload that has failed.
theorem processImmediate_closed {d : Device L} {bytes : List UInt8} (hne : bytes ≠ [])
    (hclosed : d.session.active = false) (o : Outcomes L) (chunk : List UInt8)
    (hfits : bytes.length + chunk.length ≤ L.capacity) :
    ∃ status, status ≠ .ok ∧
      processImmediate o d (encodeRequest bytes.length L.capacity chunk) =
        restoreFail d status := by
  have hbound := L.fits
  have hcap : L.capacity = L.nvsSize + L.zbSize := rfl
  have hlen : 0 < bytes.length := List.length_pos_iff.mpr hne
  have hoffset : ∀ req, parse (encodeRequest bytes.length L.capacity chunk) = some req →
      req.offset = bytes.length := by
    intro req hparse
    rw [parse_encodeRequest chunk (by omega) (by omega)] at hparse
    rw [← Option.some.inj hparse]
  cases route o d (encodeRequest bytes.length L.capacity chunk) with
  | refused status hstatus heq => exact ⟨status, hstatus, heq⟩
  | declined req result hparse hzero =>
      have := hoffset req hparse
      omega
  | opened req e hparse _ hzero =>
      have := hoffset req hparse
      omega
  | continued req _ _ _ _ hactive => simp [hclosed] at hactive

theorem processImmediate_not_found (hfound : L.found = false) (o : Outcomes L) (d : Device L)
    (inbuffer : List UInt8) :
    ∃ status, status ≠ .ok ∧ processImmediate o d inbuffer = restoreFail d status := by
  unfold processImmediate
  cases parse inbuffer with
  | none => exact ⟨.invalidParameter, by simp, rfl⟩
  | some req => exact ⟨.operationFailed, by simp, by simp [processRequest, hfound]⟩

def AtUpload (d : Device L) (bytes : List UInt8) : Prop :=
  Uploading d bytes ∨ d.session.active = false

-- A request before the last one.
theorem atUpload_step {d : Device L} {bytes : List UInt8} (h : AtUpload d bytes) (o : Outcomes L)
    (chunk : List UInt8) (hfits : bytes.length + chunk.length < L.capacity) :
    AtUpload (processImmediate o d (encodeRequest bytes.length L.capacity chunk)).device
        (bytes ++ chunk) ∧
      (L.found = true → o.AllDone → Uploading d bytes →
        Uploading (processImmediate o d (encodeRequest bytes.length L.capacity chunk)).device
          (bytes ++ chunk)) := by
  by_cases hfound : L.found = true
  · by_cases hup : Uploading d bytes
    · rcases processImmediate_upload hup hfound o chunk hfits.le with
        ⟨e, copies, hfill, heq⟩ | ⟨⟨e, heq⟩, hfail⟩
      · rw [heq, if_pos hfits]
        exact ⟨Or.inl (Or.inr hfill), fun _ _ _ => Or.inr hfill⟩
      · rw [heq]
        exact ⟨Or.inr (restoreFail_closed e _).2, fun _ hdone => absurd hdone hfail⟩
    · have hne : bytes ≠ [] := fun hnil => hup (Or.inl hnil)
      obtain ⟨status, -, heq⟩ := processImmediate_closed hne (h.resolve_left hup) o chunk hfits.le
      rw [heq]
      exact ⟨Or.inr (restoreFail_closed d status).2, fun _ _ h => absurd h hup⟩
  · obtain ⟨status, -, heq⟩ := processImmediate_not_found (Bool.eq_false_iff.mpr hfound) o d
      (encodeRequest bytes.length L.capacity chunk)
    rw [heq]
    exact ⟨Or.inr (restoreFail_closed d status).2, fun h => absurd h hfound⟩

theorem imageOf_cons (o : Outcomes L) (chunk : List UInt8)
    (rest : List (Outcomes L × List UInt8)) :
    imageOf ((o, chunk) :: rest) = chunk ++ imageOf rest := rfl

theorem atUpload_upload {d : Device L} {bytes : List UInt8} (h : AtUpload d bytes)
    (chunks : List (Outcomes L × List UInt8))
    (hlen : (bytes ++ imageOf chunks).length < L.capacity) :
    AtUpload (upload d bytes.length chunks) (bytes ++ imageOf chunks) ∧
      (L.found = true → (∀ step ∈ chunks, step.1.AllDone) → Uploading d bytes →
        Uploading (upload d bytes.length chunks) (bytes ++ imageOf chunks)) := by
  induction chunks generalizing d bytes with
  | nil => simpa [upload, imageOf] using h
  | cons first rest ih =>
      obtain ⟨o, chunk⟩ := first
      rw [imageOf_cons, ← List.append_assoc] at hlen ⊢
      have hfits : bytes.length + chunk.length < L.capacity := by
        simp only [List.length_append] at hlen
        omega
      obtain ⟨hat, hup⟩ := atUpload_step h o chunk hfits
      obtain ⟨hrest, hrestUp⟩ := ih hat hlen
      rw [List.length_append] at hrest hrestUp
      refine ⟨hrest, fun hfound hdone h => hrestUp hfound ?_ ?_⟩
      · exact fun step hm => hdone step (by simp [hm])
      · exact hup hfound (hdone (o, chunk) (by simp)) h

-- Whatever the device was doing before, an upload from offset 0 whose last
-- request is answered OK has put exactly its image into flash, buffered or
-- streamed. It is answered OK when no partition call fails and the image
-- passes the gate.
theorem upload_byte_true (d : Device L) (chunks : List (Outcomes L × List UInt8)) (o : Outcomes L)
    (chunk : List UInt8) (hpart : (imageOf chunks).length < L.capacity)
    (hfull : (imageOf chunks).length + chunk.length = L.capacity) :
    let last := encodeRequest (imageOf chunks).length L.capacity chunk
    let res := processImmediate o (upload d 0 chunks) last
    let image := imageOf chunks ++ chunk
    (res.status = .ok → flash res.device = image) ∧
      (L.found = true → (∀ step ∈ chunks, step.1.AllDone) → o.AllDone →
        zbStorageImageOk (image.drop L.nvsSize) L.zbSize = true →
        res.status = .ok ∧ flash res.device = image) := by
  intro last res image
  have hlen : image.length = L.capacity := by rw [List.length_append]; exact hfull
  have hnlt : ¬(imageOf chunks).length + chunk.length < L.capacity := by omega
  have hstart : AtUpload d [] := Or.inl (Or.inl rfl)
  obtain ⟨hat, hup⟩ := atUpload_upload hstart chunks (by simpa using hpart)
  rw [List.nil_append, List.length_nil] at hat hup
  have hclosed : ∀ e status, status ≠ .ok → res = restoreFail e status → res.status ≠ .ok := by
    intro e status hne heq
    rw [heq]
    exact hne
  have hfinish (hfound : L.found = true)
      (hup : Uploading (upload d 0 chunks) (imageOf chunks)) :
      (∃ e copies, Filled e image ∧ res = finish o e copies) ∨ res.status ≠ .ok ∧ ¬o.AllDone := by
    rcases processImmediate_upload hup hfound o chunk hfull.le with
      ⟨e, copies, hfill, heq⟩ | ⟨⟨e, heq⟩, hfail⟩
    · exact Or.inl ⟨e, copies, hfill, heq.trans (if_neg hnlt)⟩
    · exact Or.inr ⟨hclosed e _ (by simp) heq, hfail⟩
  have hok : res.status = .ok → flash res.device = image := by
    intro hok
    by_cases hfound : L.found = true
    · by_cases huploading : Uploading (upload d 0 chunks) (imageOf chunks)
      · rcases hfinish hfound huploading with ⟨e, copies, hfill, heq⟩ | ⟨hne, -⟩
        · rw [heq] at hok ⊢
          exact (finish_filled hfill o copies hlen).1 hok
        · exact absurd hok hne
      · have hne : imageOf chunks ≠ [] := fun hnil => huploading (Or.inl hnil)
        obtain ⟨status, hstatus, heq⟩ :=
          processImmediate_closed hne (hat.resolve_left huploading) o chunk hfull.le
        exact absurd hok (hclosed _ status hstatus heq)
    · obtain ⟨status, hstatus, heq⟩ :=
        processImmediate_not_found (Bool.eq_false_iff.mpr hfound) o (upload d 0 chunks) last
      exact absurd hok (hclosed _ status hstatus heq)
  refine ⟨hok, fun hfound hall hdone hgate => ?_⟩
  have hstatus : res.status = .ok := by
    rcases hfinish hfound (hup hfound hall (Or.inl rfl)) with ⟨e, copies, hfill, heq⟩ | ⟨-, hfail⟩
    · rw [heq]
      exact (finish_filled hfill o copies hlen).2 hdone hgate
    · exact absurd hdone hfail
  exact ⟨hstatus, hok hstatus⟩

-- A chunk across the boundary on the streaming path.
theorem upload_byte_true_straddle :
    let o : Outcomes smallLayout := allDone false
    flash (processImmediate o (upload smallBoot 0 [(o, [1]), (o, [2, 3])])
      (encodeRequest 3 4 [4])).device = [1, 2, 3, 4] :=
  (upload_byte_true smallBoot [(allDone false, [1]), (allDone false, [2, 3])] (allDone false) [4]
    (by decide) (by decide)).1 (by decide +kernel)

end EspCoordinator.Restore
