import EspCoordinator.Backup.Lifecycle
import EspCoordinator.Backup.Replayable

namespace EspCoordinator.Backup.Lifecycle

open Restore (Status)
open Run (exec)

variable {size : Nat} {s t : State size} {label : Label size}

-- Left alone, the handler answers the request with this result.
def Answered (s : State size) (request : Request) (result : Result size) : Prop :=
  ∃ labels final, exec step s labels = some final ∧ final.phase = .running ∧
    final.device = result.device ∧ final.answers = s.answers ++ [(request, result.status)] ∧
    final.replayed = s.replayed

theorem answered_storeImage (o : Outcomes size) (s : State size) (request : Request) :
    Answered (s.at request .checked) request (storeImage o s.device request.inbuffer) := by
  obtain ⟨tlv, zb, reboots, phase, next, answers, replayed⟩ := s
  obtain ⟨nvsOpen, nvsSetBlob, nvsCommit, eraseZb⟩ := o
  cases nvsOpen with
  | false => exact ⟨[.nvsOpen false, .reply], _, rfl, rfl, rfl, rfl, rfl⟩
  | true =>
  cases nvsSetBlob with
  | failed stored =>
      refine ⟨[.nvsOpen true, .setBlob (.failed stored), .reply], _, rfl, rfl, ?_, rfl, rfl⟩
      cases stored <;> rfl
  | done =>
  cases nvsCommit with
  | failed stored =>
      refine ⟨[.nvsOpen true, .setBlob .done, .commit (.failed stored), .reply], _, rfl, rfl, ?_,
        rfl, rfl⟩
      cases stored <;> rfl
  | done =>
  refine ⟨[.nvsOpen true, .setBlob .done, .commit .done, .eraseZb eraseZb, .reply], ?_⟩
  cases zb with
  | none => exact ⟨_, rfl, rfl, rfl, rfl, rfl⟩
  | some flash =>
      cases eraseZb with
      | done => exact ⟨_, rfl, rfl, rfl, rfl, rfl⟩
      | failed left => exact ⟨_, rfl, rfl, rfl, rfl, rfl⟩

theorem restoreStructuredBackup_eq (o : Outcomes size) (d : Device size) (inbuffer : List UInt8) :
    restoreStructuredBackup o d inbuffer =
      if HeaderOk inbuffer then storeImage o d inbuffer
      else { device := d, status := .invalidParameter } := by
  by_cases hok : HeaderOk inbuffer
  · obtain ⟨hlong, hmagic, hversion, hlen⟩ := hok
    rw [if_pos ⟨hlong, hmagic, hversion, hlen⟩]
    simp only [restoreStructuredBackup, hlong.not_gt, hmagic, hversion, hlen.not_gt, ne_eq,
      not_true_eq_false, if_false]
  · rw [if_neg hok, restoreStructuredBackup]
    split_ifs with hlong hmagic hversion hlen
    · rfl
    · rfl
    · rfl
    · rfl
    · rw [not_not] at hmagic hversion
      exact absurd ⟨not_lt.mp hlong, hmagic, hversion, not_lt.mp hlen⟩ hok

theorem Answered.of_step {request : Request} {result : Result size}
    (h : Answered t request result) (hstep : step s label = some t)
    (hanswers : t.answers = s.answers) (hreplayed : t.replayed = s.replayed) :
    Answered s request result := by
  obtain ⟨labels, final, hrun, hphase, hdevice, hanswer, hreplay⟩ := h
  exact ⟨label :: labels, final, Run.exec_cons.mpr ⟨t, hstep, hrun⟩, hphase, hdevice,
    hanswers ▸ hanswer, hreplayed ▸ hreplay⟩

-- The steps of a request that is not interrupted come to restoreStructuredBackup.
theorem answered_request (o : Outcomes size) (inbuffer : List UInt8) (hphase : s.phase = .running) :
    Answered s { number := s.next, inbuffer } (restoreStructuredBackup o s.device inbuffer) := by
  have henter : step s (.request inbuffer) =
      some (s.at { number := s.next, inbuffer } .entered) := by
    simp only [step, hphase]
  refine Answered.of_step ?_ henter rfl rfl
  rw [restoreStructuredBackup_eq]
  by_cases hok : HeaderOk inbuffer
  · have hcheck : step (s.at { number := s.next, inbuffer } .entered) .checkHeader =
        some (s.at { number := s.next, inbuffer } .checked) := if_pos hok
    rw [if_pos hok]
    exact (answered_storeImage o s _).of_step hcheck rfl rfl
  · have hcheck : step (s.at { number := s.next, inbuffer } .entered) .checkHeader =
        some (s.at { number := s.next, inbuffer } (.replying .invalidParameter)) := if_neg hok
    rw [if_neg hok]
    have hreply : Answered (s.at { number := s.next, inbuffer } (.replying .invalidParameter))
        { number := s.next, inbuffer } { device := s.device, status := .invalidParameter } :=
      ⟨[.reply], _, rfl, rfl, rfl, rfl, rfl⟩
    exact hreply.of_step hcheck rfl rfl

-- The boot gets the blob into memory.
def Readable (o : BootOutcomes) (buf : List UInt8) : Prop :=
  o.nvsOpen = true ∧ o.blobSize = true ∧ HEADER_SIZE ≤ buf.length ∧ o.malloc = true ∧
    o.getBlob = true

theorem load_some (o : BootOutcomes) {request : Request} (hphase : s.phase = .booting)
    (htlv : s.tlv = some request) :
    (Readable o request.inbuffer → step s (.load o) = some { s with phase := .loaded request }) ∧
      (¬Readable o request.inbuffer → step s (.load o) = some { s with phase := .running }) := by
  constructor
  · rintro ⟨hopen, hsize, hlong, hmalloc, hget⟩
    simp [step, hphase, htlv, hopen, hsize, hlong.not_gt, hmalloc, hget]
  · intro hread
    simp only [step, hphase, htlv]
    split_ifs with hopen hsize hmalloc hget
    · rfl
    · rfl
    · rfl
    · rfl
    · simp_all [Readable]

theorem applyPendingRestore_unread {o : BootOutcomes} {d : Device size} {buf : List UInt8}
    (htlv : d.tlv = some buf) (h : ¬Readable o buf) :
    applyPendingRestore o d = { device := d, calls := [], restoreApplied := false } := by
  simp only [applyPendingRestore, htlv]
  split_ifs with hopen hsize hmalloc hget
  · rfl
  · rfl
  · rfl
  · rfl
  all_goals
    simp only [Bool.not_eq_true', Bool.not_eq_false, not_or, not_lt] at hopen hsize hmalloc hget
    exact absurd ⟨hopen, hsize.1, hsize.2, hmalloc, hget⟩ h

theorem applyPendingRestore_read {o : BootOutcomes} {d : Device size} {buf : List UInt8}
    (htlv : d.tlv = some buf) (h : Readable o buf) :
    applyPendingRestore o d =
      { device := { d with tlv := if o.erased then none else some buf }
        calls := if HeaderOk buf then replay (tlvSection buf) else []
        restoreApplied := decide (HeaderOk buf) } := by
  obtain ⟨hopen, hsize, hlong, hmalloc, hget⟩ := h
  have hheader : ((header buf).magic ≠ MAGIC ∨ (header buf).version ≠ VERSION ∨
      HEADER_SIZE + (header buf).payloadLen > buf.length) ↔ ¬HeaderOk buf := by
    simp only [HeaderOk, hlong, true_and, not_and_or, not_le, ne_eq]
  have hdevice : (if o.erased then { d with tlv := none } else d) =
      { d with tlv := if o.erased then none else some buf } := by
    cases o.erased with
    | false => simp [← htlv]
    | true => simp
  simp only [applyPendingRestore, htlv, hopen, hsize, hlong.not_gt, hmalloc, hget, hheader,
    hdevice, Bool.not_true, Bool.false_eq_true, false_or, if_false, ite_not, tlvSection]
  by_cases hok : HeaderOk buf
  · simp [hok]
  · simp [hok]

-- A boot that is not interrupted does what applyPendingRestore does.
theorem booted (o : BootOutcomes) (hphase : s.phase = .booting) :
    ∃ labels final requests, exec step s labels = some final ∧ final.phase = .running ∧
      final.device = (applyPendingRestore o s.device).device ∧ final.answers = s.answers ∧
      final.replayed = s.replayed ++ requests ∧
      (applyPendingRestore o s.device).calls =
        requests.flatMap (fun request => replay (tlvSection request.inbuffer)) := by
  obtain ⟨tlv, zb, reboots, phase, next, answers, replayed⟩ := s
  obtain rfl : phase = .booting := hphase
  cases tlv with
  | none => exact ⟨[.load o], _, [], rfl, rfl, rfl, rfl, by simp, rfl⟩
  | some request =>
      have hload := load_some o (s := ⟨some request, zb, reboots, .booting, next, answers,
        replayed⟩) rfl rfl
      by_cases hreadable : Readable o request.inbuffer
      · have htlv : ((if o.erased then none else some request).map Request.inbuffer) =
            if o.erased then none else some request.inbuffer := by
          split <;> rfl
        rw [applyPendingRestore_read rfl hreadable]
        by_cases hok : HeaderOk request.inbuffer
        · refine ⟨[.load o, .dropBlob o.erased, .replay], _, [request], Run.exec_cons.mpr
            ⟨_, hload.1 hreadable, Run.exec_cons.mpr ⟨_, rfl, Run.exec_cons.mpr
              ⟨_, if_pos hok, rfl⟩⟩⟩, rfl, ?_, rfl, rfl, by simp [hok]⟩
          simp only [State.device, htlv]
        · refine ⟨[.load o, .dropBlob o.erased, .replay], _, [], Run.exec_cons.mpr
            ⟨_, hload.1 hreadable, Run.exec_cons.mpr ⟨_, rfl, Run.exec_cons.mpr
              ⟨_, if_neg hok, rfl⟩⟩⟩, rfl, ?_, rfl, by simp, by simp [hok]⟩
          simp only [State.device, htlv]
      · rw [applyPendingRestore_unread rfl hreadable]
        exact ⟨[.load o], _, [], Run.exec_cons.mpr ⟨_, hload.2 hreadable, rfl⟩, rfl, rfl, rfl,
          by simp, rfl⟩

end EspCoordinator.Backup.Lifecycle
