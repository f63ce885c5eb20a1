import EspCoordinator.Backup.Lifecycle
import EspCoordinator.Backup.Replayable

namespace EspCoordinator.Backup.Lifecycle

open Restore (Status)
open Run (exec Along)

variable {size : Nat} {s t : State size} {label : Label size}

-- The blob is the image of the request in hand.
def Stage.stored : Stage → Bool
  | .committed => true
  | .replying status => status = .ok
  | _ => false

-- What one step can do.
inductive Effect (s : State size) : Label size → State size → Prop where
  | enter {inbuffer : List UInt8} (hphase : s.phase = .running) :
      Effect s (.request inbuffer) (s.at { number := s.next, inbuffer } .entered)
  | advance {label : Label size} {request : Request} {stage stage' : Stage}
      (hphase : s.phase = .handling request stage) (hstage : stage.stored = false)
      (hstage' : stage'.stored = false) : Effect s label (s.at request stage')
  | storeFailed {label : Label size} {request : Request} {stage : Stage} {stored : Bool}
      (hlabel : label = .setBlob (.failed stored) ∨ label = .commit (.failed stored))
      (hphase : s.phase = .handling request stage) (hstage : stage.stored = false) :
      Effect s label ({ s with tlv := if stored then some request else s.tlv }.at request
        (.replying .operationFailed))
  | committed {request : Request} (hphase : s.phase = .handling request .set) :
      Effect s (.commit .done) ({ s with tlv := some request }.at request .committed)
  | wiped {o : Nor.Outcome size} {request : Request} {zb : Option (Nor size)}
      (hphase : s.phase = .handling request .committed) :
      Effect s (.eraseZb o)
        ({ s with zb, reboots := s.reboots + 1 }.at request (.replying .ok))
  | wipeFailed {o : Nor.Outcome size} {request : Request} {zb : Option (Nor size)}
      (hphase : s.phase = .handling request .committed) (hzb : s.zb.isSome = true)
      (ho : o ≠ .done) :
      Effect s (.eraseZb o) ({ s with zb }.at request (.replying .operationFailed))
  | replied {request : Request} {status : Status}
      (hphase : s.phase = .handling request (.replying status)) :
      Effect s .reply { s with
        phase := .running, next := s.next + 1, answers := s.answers ++ [(request, status)] }
  | crashed {flushed : Bool} {left : Nor size} {tlv : Option Request} {zb : Option (Nor size)}
      (htlv : tlv = s.tlv ∨ ∃ request, s.phase = .handling request .set ∧ tlv = some request) :
      Effect s (.crash flushed left)
        { s with phase := .booting, reboots := 0, next := s.next + 1, tlv, zb }
  | eraseNvs (hphase : s.phase = .booting) : Effect s .eraseNvs { s with tlv := none }
  | skipped {label : Label size}
      (hphase : s.phase = .booting ∨ ∃ request, s.phase = .erased request) :
      Effect s label { s with phase := .running }
  | loaded {o : BootOutcomes} {request : Request} (hphase : s.phase = .booting)
      (htlv : s.tlv = some request) : Effect s (.load o) { s with phase := .loaded request }
  | dropped {erased : Bool} {request : Request} (hphase : s.phase = .loaded request) :
      Effect s (.dropBlob erased)
        { s with tlv := if erased then none else s.tlv, phase := .erased request }
  | replayed {request : Request} (hphase : s.phase = .erased request) :
      Effect s .replay { s with phase := .running, replayed := s.replayed ++ [request] }

theorem effect_of_step (h : step s label = some t) : Effect s label t := by
  unfold step at h
  -- the cases are the branches of `step` in their order
  split at h
  · rename_i hphase
    cases h
    exact .enter hphase
  · rename_i hphase
    split at h
    all_goals
      cases h
      exact .advance hphase rfl rfl
  · rename_i hphase
    split at h
    all_goals
      cases h
      exact .advance hphase rfl rfl
  · rename_i w hphase
    cases w with
    | done =>
        cases h
        exact .advance hphase rfl rfl
    | failed stored =>
        cases h
        exact .storeFailed (.inl rfl) hphase rfl
  · rename_i w hphase
    cases w with
    | done =>
        cases h
        exact .committed hphase
    | failed stored =>
        cases h
        exact .storeFailed (.inr rfl) hphase rfl
  · rename_i o hphase
    have hok := eraseStorage_snd { (.done : Outcomes size) with eraseZb := o } s.zb
    split at h
    · cases h
      exact .wiped hphase
    · rename_i zb heq
      cases h
      rw [heq] at hok
      obtain ⟨hzb, ho⟩ : s.zb.isSome = true ∧ o ≠ .done := by simpa using hok
      exact .wipeFailed hphase hzb ho
  · rename_i hphase
    cases h
    exact .replied hphase
  · rename_i flushed left
    dsimp only at h
    split at h
    · rename_i request hset
      cases h
      cases flushed with
      | false => exact .crashed (.inl rfl)
      | true => exact .crashed (.inr ⟨request, hset, rfl⟩)
    · cases h
      exact .crashed (.inl rfl)
    · cases h
      exact .crashed (.inl rfl)
  · rename_i hphase
    cases h
    exact .eraseNvs hphase
  · rename_i hphase
    split at h
    · cases h
      exact .skipped (.inl hphase)
    · rename_i request htlv
      repeat' split at h
      all_goals cases h
      · exact .skipped (.inl hphase)
      · exact .skipped (.inl hphase)
      · exact .skipped (.inl hphase)
      · exact .skipped (.inl hphase)
      · exact .loaded hphase htlv
  · rename_i hphase
    cases h
    exact .dropped hphase
  · rename_i hphase
    split at h
    all_goals cases h
    · exact .replayed hphase
    · exact .skipped (.inr ⟨_, hphase⟩)
  · simp at h

-- Where the image in NVS may come from.
def State.Placed (s : State size) : Prop :=
  match s.phase with
  | .handling request _ => request.number = s.next ∧ ∀ held ∈ s.tlv, held.number ≤ s.next
  | .loaded request => s.tlv = some request ∧ request.number < s.next
  | .erased request => s.tlv = none ∧ request.number < s.next
  | _ => ∀ held ∈ s.tlv, held.number < s.next

structure Numbered (s : State size) : Prop where
  answers : ∀ answer ∈ s.answers, answer.1.number < s.next
  replayed : ∀ request ∈ s.replayed, request.number < s.next
  placed : s.Placed

theorem Numbered.handling {request : Request} {stage : Stage} (h : Numbered s)
    (hphase : s.phase = .handling request stage) :
    request.number = s.next ∧ ∀ held ∈ s.tlv, held.number ≤ s.next := by
  simpa only [State.Placed, hphase] using h.placed

theorem Numbered.erased {request : Request} (h : Numbered s) (hphase : s.phase = .erased request) :
    s.tlv = none ∧ request.number < s.next := by
  simpa only [State.Placed, hphase] using h.placed

theorem Numbered.tlv_le (h : Numbered s) : ∀ held ∈ s.tlv, held.number ≤ s.next := by
  intro held hheld
  have hplaced := h.placed
  unfold State.Placed at hplaced
  split at hplaced
  · exact hplaced.2 held hheld
  · rw [hplaced.1] at hheld
    cases hheld
    exact hplaced.2.le
  · rw [hplaced.1] at hheld
    cases hheld
  · exact (hplaced held hheld).le

theorem Numbered.tlv_lt (h : Numbered s)
    (hphase : ∀ request stage, s.phase ≠ .handling request stage) :
    ∀ held ∈ s.tlv, held.number < s.next := by
  intro held hheld
  have hplaced := h.placed
  unfold State.Placed at hplaced
  split at hplaced
  · rename_i heq
    exact absurd heq (hphase _ _)
  · rw [hplaced.1] at hheld
    cases hheld
    exact hplaced.2
  · rw [hplaced.1] at hheld
    cases hheld
  · exact hplaced held hheld

theorem Numbered.step (h : Numbered s) (hstep : Effect s label t)
    (herased : label ≠ .dropBlob false) : Numbered t := by
  have hanswers : ∀ answer ∈ s.answers, answer.1.number < s.next + 1 := fun answer ha =>
    (h.answers answer ha).trans (Nat.lt_succ_self _)
  have hreplayed : ∀ request ∈ s.replayed, request.number < s.next + 1 := fun request hr =>
    (h.replayed request hr).trans (Nat.lt_succ_self _)
  cases hstep with
  | enter hphase =>
      exact ⟨h.answers, h.replayed, rfl, h.tlv_le⟩
  | advance hphase | wiped hphase | wipeFailed hphase =>
      exact ⟨h.answers, h.replayed, h.handling hphase⟩
  | committed hphase =>
      obtain ⟨hnumber, -⟩ := h.handling hphase
      refine ⟨h.answers, h.replayed, hnumber, fun held hheld => ?_⟩
      cases hheld
      exact hnumber.le
  | @storeFailed _ request stage stored _ hphase =>
      obtain ⟨hnumber, htlv⟩ := h.handling hphase
      refine ⟨h.answers, h.replayed, hnumber, fun held hheld => ?_⟩
      cases stored with
      | false => exact htlv held hheld
      | true =>
          cases hheld
          exact hnumber.le
  | @replied request status hphase =>
      obtain ⟨hnumber, htlv⟩ := h.handling hphase
      refine ⟨fun answer ha => ?_, hreplayed, fun held hheld => Nat.lt_succ_of_le (htlv held hheld)⟩
      rcases List.mem_append.mp ha with hold | hnew
      · exact hanswers answer hold
      · obtain rfl := List.mem_singleton.mp hnew
        exact Nat.lt_succ_of_le hnumber.le
  | crashed htlv =>
      refine ⟨hanswers, hreplayed, fun held hheld => Nat.lt_succ_of_le ?_⟩
      rcases htlv with rfl | ⟨request, hphase, rfl⟩
      · exact h.tlv_le held hheld
      · cases hheld
        exact (h.handling hphase).1.le
  | eraseNvs hphase =>
      refine ⟨h.answers, h.replayed, ?_⟩
      simp [State.Placed, hphase]
  | skipped hphase =>
      refine ⟨h.answers, h.replayed, h.tlv_lt ?_⟩
      rcases hphase with hphase | ⟨request, hphase⟩ <;> simp [hphase]
  | loaded hphase htlv =>
      exact ⟨h.answers, h.replayed, htlv, h.tlv_lt (by simp [hphase]) _ htlv⟩
  | @dropped erased request hphase =>
      obtain ⟨-, hnumber⟩ : s.tlv = some request ∧ request.number < s.next := by
        simpa only [State.Placed, hphase] using h.placed
      cases erased with
      | false => exact absurd rfl herased
      | true => exact ⟨h.answers, h.replayed, rfl, hnumber⟩
  | @replayed request hphase =>
      obtain ⟨hnone, hnumber⟩ := h.erased hphase
      refine ⟨h.answers, fun other ho => ?_, fun held hheld => ?_⟩
      · rcases List.mem_append.mp ho with hold | hnew
        · exact h.replayed other hold
        · obtain rfl := List.mem_singleton.mp hnew
          exact hnumber
      · rw [hnone] at hheld
        cases hheld

-- The request whose image this boot or a later one is going to replay.
def State.pending (s : State size) : Option Request :=
  match s.phase with
  | .erased request => some request
  | _ => s.tlv

theorem pending_eq_tlv (h : ∀ request, s.phase ≠ .erased request) : s.pending = s.tlv := by
  unfold State.pending
  split
  · rename_i request heq
    exact absurd heq (h request)
  · rfl

theorem Numbered.pending_of_tlv (h : Numbered s) {request : Request}
    (htlv : s.tlv = some request) : s.pending = some request := by
  rw [pending_eq_tlv, htlv]
  intro other hphase
  rw [(h.erased hphase).1] at htlv
  cases htlv

theorem pending_of_step (h : Numbered s) (hstep : Effect s label t)
    {request : Request} (hpending : t.pending = some request) :
    s.pending = some request ∨ request.number = s.next := by
  cases hstep with
  | enter hphase | advance hphase | wiped hphase | wipeFailed hphase | replied hphase
    | eraseNvs hphase =>
      left
      rw [pending_eq_tlv (by simp [hphase])]
      simp_all [State.pending, State.at]
  | committed hphase =>
      right
      cases hpending
      exact (h.handling hphase).1
  | @storeFailed _ handled stage stored _ hphase =>
      rw [pending_eq_tlv (by simp [hphase])]
      cases stored with
      | false => exact .inl hpending
      | true =>
          right
          cases hpending
          exact (h.handling hphase).1
  | crashed htlv =>
      rcases htlv with rfl | ⟨handled, hphase, rfl⟩
      · exact .inl (h.pending_of_tlv hpending)
      · cases hpending
        exact .inr (h.handling hphase).1
  | skipped hphase | loaded hphase htlv => exact .inl (h.pending_of_tlv hpending)
  | dropped hphase =>
      left
      rw [pending_eq_tlv (by simp [hphase])]
      have hplaced := h.placed
      simp only [State.Placed, hphase] at hplaced
      rw [hplaced.1]
      exact hpending
  | replayed hphase =>
      have hnone := (h.erased hphase).1
      have htlv : s.tlv = some request := hpending
      rw [hnone] at htlv
      cases htlv

theorem answers_of_step (hstep : Effect s label t) :
    t.answers = s.answers ∨ ∃ request status, s.phase = .handling request (.replying status) ∧
      t.phase = .running ∧ t.tlv = s.tlv ∧ t.answers = s.answers ++ [(request, status)] := by
  cases hstep with
  | @replied request status hphase => exact .inr ⟨request, status, hphase, rfl, rfl, rfl⟩
  | _ => exact .inl rfl

theorem replayed_of_step (hstep : Effect s label t) :
    t.replayed = s.replayed ∨ ∃ request, s.phase = .erased request ∧ t.phase = .running ∧
      t.tlv = s.tlv ∧ t.replayed = s.replayed ++ [request] := by
  cases hstep with
  | @replayed request hphase => exact .inr ⟨request, hphase, rfl, rfl, rfl⟩
  | _ => exact .inl rfl

def Unreplayed (s : State size) (request : Request) : Prop :=
  ∀ other ∈ s.replayed, other.number ≠ request.number

-- An image is replayed once.
structure Once (s : State size) : Prop where
  replayed : (s.replayed.map Request.number).Nodup
  pending : ∀ request ∈ s.pending, Unreplayed s request

theorem once_step (hnumbered : Numbered s) (h : Once s) (hstep : Effect s label t) : Once t := by
  have hpending : ∀ request ∈ t.pending, Unreplayed s request := by
    intro request hrequest
    rcases pending_of_step hnumbered hstep hrequest with hold | hnew
    · exact h.pending request hold
    · intro other ho
      rw [hnew]
      exact (hnumbered.replayed other ho).ne
  rcases replayed_of_step hstep with heq | ⟨request, hphase, hrunning, htlv, heq⟩
  · exact ⟨heq ▸ h.replayed, fun request hrequest other ho =>
      hpending request hrequest other (heq ▸ ho)⟩
  · have hfresh : Unreplayed s request := h.pending request (by simp [State.pending, hphase])
    have hnone : t.pending = none := by
      rw [pending_eq_tlv (by simp [hrunning]), htlv]
      exact (hnumbered.erased hphase).1
    refine ⟨?_, by simp [hnone]⟩
    rw [heq, List.map_append, List.nodup_append]
    refine ⟨h.replayed, by simp, ?_⟩
    intro number hnumber other ho
    obtain ⟨old, hold, rfl⟩ := List.mem_map.mp hnumber
    obtain rfl : other = request.number := by simpa using ho
    exact hfresh old hold

-- No call of the handler fails with the image stored all the same, or once it is stored.
def Harmless (s : State size) : Label size → Prop
  | .setBlob w => w ≠ .failed true
  | .commit w => w ≠ .failed true
  | .eraseZb o => s.zb.isSome = true → o = .done
  | _ => True

structure Sound (s : State size) : Prop where
  handling : ∀ request stage, s.phase = .handling request stage → stage.stored = false →
    ∀ held ∈ s.tlv, held.number < s.next
  pending : ∀ request ∈ s.pending, ∀ answer ∈ s.answers,
    answer.1.number = request.number → answer.2 = .ok
  failed : ∀ answer ∈ s.answers, answer.2 ≠ .ok → Unreplayed s answer.1

theorem handling_step (hnumbered : Numbered s) (h : Sound s) (hstep : Effect s label t)
    (hcond : Harmless s label) {request : Request} {stage : Stage}
    (hphase : t.phase = .handling request stage) (hstage : stage.stored = false) :
    ∀ held ∈ t.tlv, held.number < t.next := by
  cases hstep with
  | enter hrunning => exact hnumbered.tlv_lt (by simp [hrunning])
  | advance hbefore hstage => exact h.handling _ _ hbefore hstage
  | @storeFailed _ handled _ stored hlabel hbefore hstage =>
      obtain rfl : stored = false := by
        rcases hlabel with rfl | rfl
        · simpa [Harmless] using hcond
        · simpa [Harmless] using hcond
      exact h.handling _ _ hbefore hstage
  | committed hbefore =>
      obtain ⟨-, rfl⟩ := Phase.handling.inj hphase
      cases hstage
  | wiped hbefore =>
      obtain ⟨-, rfl⟩ := Phase.handling.inj hphase
      cases hstage
  | wipeFailed hbefore hzb ho => exact absurd (hcond hzb) ho
  | replied | crashed | skipped | loaded | dropped | replayed => cases hphase
  | eraseNvs hbooting =>
      intro held hheld
      cases hheld

theorem pending_ok_step (hnumbered : Numbered s) (h : Sound s) (hstep : Effect s label t)
    {request : Request} (hrequest : t.pending = some request) {answer : Request × Status}
    (hanswer : answer ∈ t.answers) (hnumber : answer.1.number = request.number) :
    answer.2 = .ok := by
  rcases answers_of_step hstep with heq | ⟨handled, status, hphase, hrunning, htlv, heq⟩
  · rw [heq] at hanswer
    rcases pending_of_step hnumbered hstep hrequest with hold | hnew
    · exact h.pending request hold answer hanswer hnumber
    · have hlt := hnumbered.answers answer hanswer
      omega
  · have hheld : s.tlv = some request := by
      rw [← htlv, ← pending_eq_tlv (by simp [hrunning])]
      exact hrequest
    have hhandled := (hnumbered.handling hphase).1
    rw [heq, List.mem_append, List.mem_singleton] at hanswer
    rcases hanswer with hold | rfl
    · exact h.pending request (hnumbered.pending_of_tlv hheld) answer hold hnumber
    · by_contra hne
      -- an error was answered: the image in NVS is an older one
      have hlt := h.handling _ _ hphase (by simpa [Stage.stored] using hne) request hheld
      simp only at hnumber
      omega

theorem failed_step (hnumbered : Numbered s) (h : Sound s) (hstep : Effect s label t)
    {answer : Request × Status} (hanswer : answer ∈ t.answers) (hne : answer.2 ≠ .ok) :
    Unreplayed t answer.1 := by
  intro other hother
  rcases answers_of_step hstep with heq | ⟨handled, status, hphase, -, -, heq⟩
  · rw [heq] at hanswer
    rcases replayed_of_step hstep with hsame | ⟨request, hphase, -, -, hmore⟩
    · exact h.failed answer hanswer hne other (hsame ▸ hother)
    · rw [hmore, List.mem_append, List.mem_singleton] at hother
      rcases hother with hold | rfl
      · exact h.failed answer hanswer hne other hold
      · intro hnumber
        exact hne (h.pending other (by simp [State.pending, hphase]) answer hanswer hnumber.symm)
  · have hsame : t.replayed = s.replayed := by
      rcases replayed_of_step hstep with hsame | ⟨request, herased, -⟩
      · exact hsame
      · rw [hphase] at herased
        cases herased
    rw [hsame] at hother
    rw [heq, List.mem_append, List.mem_singleton] at hanswer
    rcases hanswer with hold | rfl
    · exact h.failed answer hold hne other hother
    · have hlt := hnumbered.replayed other hother
      have hhandled := (hnumbered.handling hphase).1
      simp only
      omega

theorem sound_step (hnumbered : Numbered s) (h : Sound s) (hstep : Effect s label t)
    (hcond : Harmless s label) : Sound t := by
  constructor
  case handling => exact fun _ _ => handling_step hnumbered h hstep hcond
  case pending =>
    exact fun _ hrequest _ hanswer hnumber =>
      pending_ok_step hnumbered h hstep hrequest hanswer hnumber
  case failed => exact fun _ hanswer hne => failed_step hnumbered h hstep hanswer hne

theorem numbered_init (zb : Option (Nor size)) : Numbered (init zb) := by
  constructor <;> simp [init, State.Placed]

theorem once_init (zb : Option (Nor size)) : Once (init zb) := by
  constructor <;> simp [init, State.pending]

theorem sound_init (zb : Option (Nor size)) : Sound (init zb) := by
  constructor <;> simp [init]

theorem once_of_run {zb : Option (Nor size)} {labels : List (Label size)}
    (hrun : exec step (init zb) labels = some s)
    (herased : ∀ label ∈ labels, label ≠ .dropBlob false) : Numbered s ∧ Once s := by
  refine (Run.exec_along (fun s => Numbered s ∧ Once s) (Q := fun _ _ => True)
    ⟨numbered_init zb, once_init zb⟩ ?_ hrun (Run.along_of_forall fun _ => herased)).1
  rintro before label next ⟨hnumbered, honce⟩ hlabel hstep
  have heffect := effect_of_step hstep
  exact ⟨⟨hnumbered.step heffect hlabel, once_step hnumbered honce heffect⟩, trivial⟩

theorem sound_of_run {zb : Option (Nor size)} {labels : List (Label size)}
    (hrun : exec step (init zb) labels = some s)
    (herased : ∀ label ∈ labels, label ≠ .dropBlob false)
    (hcond : Along step (init zb) Harmless labels) : Numbered s ∧ Sound s := by
  have hboth := (Run.along_of_forall fun _ => herased).and hcond
  refine (Run.exec_along (fun s => Numbered s ∧ Sound s) (Q := fun _ _ => True)
    ⟨numbered_init zb, sound_init zb⟩ ?_ hrun hboth).1
  rintro before label next ⟨hnumbered, hsound⟩ ⟨hlabel, hharmless⟩ hstep
  have heffect := effect_of_step hstep
  exact ⟨⟨hnumbered.step heffect hlabel, sound_step hnumbered hsound heffect hharmless⟩, trivial⟩

-- A structured restore over resets at any moment, when every boot gets its
-- blob erased: an image is replayed once, and only the image of a request
-- without an error answer, unless one of the calls fails at the wrong moment.
theorem restore_lifecycle (zb : Option (Nor size)) (labels : List (Label size))
    (hrun : exec step (init zb) labels = some s)
    (herased : ∀ label ∈ labels, label ≠ .dropBlob false) :
    (s.replayed.map Request.number).Nodup ∧
      (Along step (init zb) Harmless labels →
        ∀ answer ∈ s.answers, answer.2 ≠ .ok → Unreplayed s answer.1) := by
  obtain ⟨-, honce⟩ := once_of_run hrun herased
  refine ⟨honce.replayed, fun hcond => ?_⟩
  obtain ⟨-, hsound⟩ := sound_of_run hrun herased hcond
  exact hsound.failed

-- A boot, one request for an empty image, a reset and the next boot.
def storedThenReset (o : Nor.Outcome 16) : List (Label 16) :=
  [.load (.read true), .request (MAGIC ++ [VERSION, 0, 0, 0]), .checkHeader, .nvsOpen true,
    .setBlob .done, .commit .done, .eraseZb o, .reply, .crash false (Nor.erased 16),
    .load (.read true), .dropBlob true, .replay]

-- The numbers of the answers and of the replays.
def history (s : State size) : List (Nat × Status) × List Nat :=
  (s.answers.map fun answer => (answer.1.number, answer.2), s.replayed.map Request.number)

theorem drops_storedThenReset (o : Nor.Outcome 16) :
    ∀ label ∈ storedThenReset o, label ≠ .dropBlob false := by
  simp [storedThenReset]

theorem restore_lifecycle_stored :
    ∃ s, exec step (init (some (Nor.erased 16))) (storedThenReset .done) = some s ∧
      history s = ([(0, .ok)], [0]) ∧ (s.replayed.map Request.number).Nodup ∧
        ∀ answer ∈ s.answers, answer.2 ≠ .ok → Unreplayed s answer.1 := by
  have hhistory : (exec step (init (some (Nor.erased 16))) (storedThenReset .done)).map history =
      some ([(0, .ok)], [0]) := by
    decide +kernel
  obtain ⟨s, hrun, hs⟩ := Option.map_eq_some_iff.mp hhistory
  have hcond : Along step (init (some (Nor.erased 16))) Harmless (storedThenReset .done) := by
    refine Run.along_of_forall fun before label hlabel => ?_
    simp only [storedThenReset, List.mem_cons, List.not_mem_nil, or_false] at hlabel
    rcases hlabel with rfl | rfl | rfl | rfl | rfl | rfl | rfl | rfl | rfl | rfl | rfl | rfl <;>
      simp [Harmless]
  obtain ⟨honce, hfailed⟩ := restore_lifecycle _ _ hrun (drops_storedThenReset .done)
  exact ⟨s, hrun, hs, honce, hfailed hcond⟩

-- The wipe fails, the request is answered with an error, and the next boot
-- replays its image.
theorem failed_restore_replayed :
    ¬∀ (size : Nat) (zb : Option (Nor size)) (labels : List (Label size)) (s : State size),
      exec step (init zb) labels = some s → (∀ label ∈ labels, label ≠ .dropBlob false) →
        (s.replayed.map Request.number).Nodup ∧
          ∀ answer ∈ s.answers, answer.2 ≠ .ok → Unreplayed s answer.1 := by
  intro h
  have hhistory : (exec step (init (some (Nor.erased 16)))
      (storedThenReset (.failed (Nor.erased 16)))).map history =
        some ([(0, .operationFailed)], [0]) := by
    decide +kernel
  obtain ⟨s, hrun, hs⟩ := Option.map_eq_some_iff.mp hhistory
  obtain ⟨hanswers, hreplayed⟩ := Prod.mk.inj hs
  obtain ⟨answer, hanswer, hvalue⟩ : ∃ answer ∈ s.answers, (answer.1.number, answer.2) =
      (0, Status.operationFailed) := by
    rw [← List.mem_map, hanswers]
    simp
  obtain ⟨request, hrequest, hnumber⟩ : ∃ request ∈ s.replayed, request.number = 0 := by
    rw [← List.mem_map, hreplayed]
    simp
  obtain ⟨hfirst, hstatus⟩ := Prod.mk.inj hvalue
  have hnever := (h 16 _ _ s hrun (drops_storedThenReset _)).2 answer hanswer (by simp [hstatus])
  exact hnever request hrequest (hnumber.trans hfirst.symm)

end EspCoordinator.Backup.Lifecycle
