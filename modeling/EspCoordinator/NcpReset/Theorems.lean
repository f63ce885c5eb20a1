import EspCoordinator.BootGuard.Theorems
import EspCoordinator.NcpReset

namespace EspCoordinator.NcpReset

variable {Z N : Nat} {s : State Z N}

theorem erases_iff {options : UInt8} : erases options = true ↔ options = 1 ∨ options = 2 := by
  simp [erases]

-- The word of a parked request gives its options back.
theorem parked_spec {options : UInt8} (h : erases options = true) :
    MagicOk (parked options) ∧ (parked options).toUInt8 = options := by
  rcases erases_iff.mp h with rfl | rfl
  · decide
  · decide

def Accepted (s : State Z N) (request : Nat) (options : UInt8) : Prop :=
  s.requests[request]? = some options

theorem accepted_append {requests : List UInt8} {request : Nat} {options : UInt8}
    (h : requests[request]? = some options) (more : List UInt8) :
    (requests ++ more)[request]? = some options := by
  obtain ⟨hlt, -⟩ := List.getElem?_eq_some_iff.mp h
  rw [List.getElem?_append_left hlt, h]

-- The tasks of this boot. One that has not parked its request yet is the only
-- one who knows it.
structure Tasks (s : State Z N) : Prop where
  running : s.stage ≠ .running → s.tasks = []
  accepted : ∀ task ∈ s.tasks, Accepted s task.request task.options
  nodup : (s.tasks.map Task.request).Nodup
  fresh : ∀ task ∈ s.tasks, task.cleared = false →
    task.request ∉ s.begun ∧ s.due ≠ some task.request

-- The word in RTC memory says which request is due, and it goes before the
-- erase begins.
structure Parked (s : State Z N) : Prop where
  nodup : s.begun.Nodup
  begun : ∀ request ∈ s.begun, ∃ options, Accepted s request options ∧ erases options = true
  due : ∀ request, s.due = some request → request ∉ s.begun ∧
    ∃ options, Accepted s request options ∧ erases options = true ∧
      s.pendingErase = parked options
  lost : s.due = none → ¬MagicOk s.pendingErase
  erasing : ∀ options, s.stage = .erasing options → s.due = none ∧
    (erases options = true → ∃ request ∈ s.begun, Accepted s request options)

-- The breadcrumb of a boot that has parked a request.
structure Supervised (s : State Z N) : Prop where
  due : s.stage = .running → s.due.isSome = true → s.guard.cleared = true
  breadcrumb : s.guard.cleared = true → s.guard.breadcrumb = BootGuard.crumb 0

structure Untouched (s : State Z N) : Prop where
  zb : s.begun = [] → s.zb = s.writtenZb
  nvs : (∀ request ∈ s.begun, ¬Accepted s request 2) → s.nvs = s.writtenNvs

structure Inv (s : State Z N) : Prop where
  tasks : Tasks s
  parked : Parked s
  supervised : Supervised s
  untouched : Untouched s

theorem not_magicOk_zero : ¬MagicOk 0 := by decide

theorem cleared_init (breadcrumb : UInt32) (timer : Bool) (past : List BootGuard.Boot) :
    (BootGuard.init breadcrumb timer past).cleared = false := by
  simp only [BootGuard.init]
  split_ifs <;> rfl

theorem inv_init (g : Garbage) (timer : Bool) (zb : Nor Z) (nvs : Nor N) :
    Inv (init g timer zb nvs) where
  tasks := ⟨fun _ => rfl, nofun, List.nodup_nil, nofun⟩
  parked := ⟨List.nodup_nil, nofun, nofun, fun _ => g.lost, nofun⟩
  supervised := by
    refine ⟨nofun, fun hcleared => ?_⟩
    rw [init, cleared_init] at hcleared
    cases hcleared
  untouched := ⟨fun _ => rfl, fun _ => rfl⟩

theorem mem_set_cleared {tasks : List Task} {index : Nat} {task other : Task}
    (hnodup : (tasks.map Task.request).Nodup) (hget : tasks[index]? = some task)
    (h : other ∈ tasks.set index { task with cleared := true }) :
    other = { task with cleared := true } ∨ other ∈ tasks ∧ other.request ≠ task.request := by
  obtain ⟨place, hplace⟩ := List.mem_iff_getElem?.mp h
  rw [List.getElem?_set] at hplace
  by_cases hsame : index = place
  · rw [if_pos hsame] at hplace
    split at hplace
    · exact .inl (Option.some.inj hplace).symm
    · cases hplace
  · rw [if_neg hsame] at hplace
    refine .inr ⟨List.mem_of_getElem? hplace, fun hrequest => hsame ?_⟩
    obtain ⟨hlt, -⟩ := List.getElem?_eq_some_iff.mp hget
    have hbound : index < (tasks.map Task.request).length := by rwa [List.length_map]
    refine (List.getElem?_inj hbound hnodup).mp ?_
    rw [List.getElem?_map, List.getElem?_map, hget, hplace, Option.map_some, Option.map_some,
      hrequest]

theorem map_set_cleared {tasks : List Task} {index : Nat} {task : Task}
    (hget : tasks[index]? = some task) :
    (tasks.set index { task with cleared := true }).map Task.request = tasks.map Task.request := by
  have hself : (tasks.map Task.request)[index]? = some task.request := by
    rw [List.getElem?_map, hget, Option.map_some]
  obtain ⟨hlt, heq⟩ := List.getElem?_eq_some_iff.mp hself
  rw [List.map_set]
  change (tasks.map Task.request).set index task.request = _
  rw [← heq, List.set_getElem_self]

section Step

variable (h : Inv s)

include h

theorem inv_ncpReset (options : UInt8) (hstage : s.stage = .running) :
    Inv { s with
      tasks := s.tasks ++ [{ request := s.requests.length, options, cleared := false }]
      requests := s.requests ++ [options] } := by
  have hmore (request : Nat) (options' : UInt8) (hold : Accepted s request options') :
      (s.requests ++ [options])[request]? = some options' := accepted_append hold _
  have hlt (request : Nat) (options' : UInt8) (hold : Accepted s request options') :
      request < s.requests.length := (List.getElem?_eq_some_iff.mp hold).1
  have hbegun (request : Nat) (hmem : request ∈ s.begun) : request < s.requests.length := by
    obtain ⟨options', hold, -⟩ := h.parked.begun request hmem
    exact hlt request options' hold
  constructor
  · refine ⟨fun hnot => absurd hstage hnot, fun task htask => ?_, ?_, fun task htask hnew => ?_⟩
    · rcases List.mem_append.mp htask with hold | hnew
      · exact hmore _ _ (h.tasks.accepted task hold)
      · obtain rfl := List.mem_singleton.mp hnew
        simp [Accepted]
    · rw [List.map_append, List.map_singleton, List.nodup_append]
      refine ⟨h.tasks.nodup, List.nodup_singleton _, fun request hmem other hother => ?_⟩
      obtain rfl := List.mem_singleton.mp hother
      obtain ⟨task, htask, rfl⟩ := List.mem_map.mp hmem
      exact Nat.ne_of_lt (hlt _ _ (h.tasks.accepted task htask))
    · rcases List.mem_append.mp htask with hold | hlast
      · exact h.tasks.fresh task hold hnew
      · obtain rfl := List.mem_singleton.mp hlast
        refine ⟨fun hmem => Nat.lt_irrefl _ (hbegun _ hmem), fun hdue => ?_⟩
        obtain ⟨-, options', hold, -⟩ := h.parked.due _ hdue
        exact Nat.lt_irrefl _ (hlt _ _ hold)
  · refine ⟨h.parked.nodup, fun request hmem => ?_, fun request hdue => ?_, h.parked.lost,
      fun options' hoptions => ?_⟩
    · obtain ⟨options', hold, herases⟩ := h.parked.begun request hmem
      exact ⟨options', hmore _ _ hold, herases⟩
    · obtain ⟨hnot, options', hold, hrest⟩ := h.parked.due request hdue
      exact ⟨hnot, options', hmore _ _ hold, hrest⟩
    · rw [hstage] at hoptions
      cases hoptions
  · exact ⟨h.supervised.due, h.supervised.breadcrumb⟩
  · refine ⟨h.untouched.zb, fun hnone => h.untouched.nvs fun request hmem hold => ?_⟩
    exact hnone request hmem (hmore _ _ hold)

theorem inv_park {index : Nat} {task : Task} (hget : s.tasks[index]? = some task)
    (hnew : task.cleared = false) : Inv (park s index task) := by
  have htask : task ∈ s.tasks := List.mem_of_getElem? hget
  have hstage : s.stage = .running := by
    by_contra hnot
    rw [h.tasks.running hnot] at htask
    cases htask
  have hfresh := h.tasks.fresh task htask hnew
  have haccepted := h.tasks.accepted task htask
  let guard := (BootGuard.step s.guard .ncpReset).getD s.guard
  have hclear : guard.cleared = true ∧ guard.breadcrumb = BootGuard.crumb 0 := ⟨rfl, rfl⟩
  have hrest (other : Task) (hother : other ∈ s.tasks.set index { task with cleared := true }) :
      Accepted s other.request other.options ∧ (other.cleared = false →
        other.request ∉ s.begun ∧ s.due ≠ some other.request ∧ other.request ≠ task.request) := by
    rcases mem_set_cleared h.tasks.nodup hget hother with rfl | ⟨hmem, hne⟩
    · exact ⟨haccepted, nofun⟩
    · refine ⟨h.tasks.accepted other hmem, fun hunparked => ?_⟩
      obtain ⟨hbegun, hdue⟩ := h.tasks.fresh other hmem hunparked
      exact ⟨hbegun, hdue, hne⟩
  have hnodup := map_set_cleared hget ▸ h.tasks.nodup
  unfold park
  by_cases herases : erases task.options = true
  · simp only [if_pos herases]
    constructor
    · refine ⟨fun hnot => absurd hstage hnot, fun other hother => (hrest other hother).1, hnodup,
        fun other hother hunparked => ?_⟩
      obtain ⟨hbegun, -, hne⟩ := (hrest other hother).2 hunparked
      exact ⟨hbegun, fun heq => hne (Option.some.inj heq).symm⟩
    · refine ⟨h.parked.nodup, h.parked.begun, fun request hdue => ?_, nofun, fun options hoptions => ?_⟩
      · obtain rfl := Option.some.inj hdue
        exact ⟨hfresh.1, task.options, haccepted, herases, rfl⟩
      · rw [hstage] at hoptions
        cases hoptions
    · exact ⟨fun _ _ => hclear.1, fun _ => hclear.2⟩
    · exact ⟨h.untouched.zb, h.untouched.nvs⟩
  · simp only [if_neg herases]
    constructor
    · refine ⟨fun hnot => absurd hstage hnot, fun other hother => (hrest other hother).1, hnodup,
        fun other hother hunparked => ?_⟩
      obtain ⟨hbegun, hdue, -⟩ := (hrest other hother).2 hunparked
      exact ⟨hbegun, hdue⟩
    · exact ⟨h.parked.nodup, h.parked.begun, h.parked.due, h.parked.lost, h.parked.erasing⟩
    · exact ⟨fun _ _ => hclear.1, fun _ => hclear.2⟩
    · exact ⟨h.untouched.zb, h.untouched.nvs⟩

-- The guard has a step that leaves the requests alone.
theorem inv_guard {guard : BootGuard.State}
    (hcleared : s.guard.cleared = true → guard.cleared = true)
    (hcrumb : guard.cleared = true → guard.breadcrumb = BootGuard.crumb 0) :
    Inv { s with guard } where
  tasks := ⟨h.tasks.running, h.tasks.accepted, h.tasks.nodup, h.tasks.fresh⟩
  parked := ⟨h.parked.nodup, h.parked.begun, h.parked.due, h.parked.lost, h.parked.erasing⟩
  supervised := ⟨fun hstage hdue => hcleared (h.supervised.due hstage hdue), hcrumb⟩
  untouched := ⟨h.untouched.zb, h.untouched.nvs⟩

theorem inv_boot {guard : BootGuard.State} (hguard : guard.cleared = false) :
    Inv (boot s guard) where
  tasks := ⟨fun _ => rfl, nofun, List.nodup_nil, nofun⟩
  parked := ⟨h.parked.nodup, h.parked.begun, h.parked.due, h.parked.lost, nofun⟩
  supervised := by
    refine ⟨nofun, fun hcleared => ?_⟩
    rw [boot, hguard] at hcleared
    cases hcleared
  untouched := ⟨h.untouched.zb, h.untouched.nvs⟩

theorem inv_powerCycle {guard : BootGuard.State} (hguard : guard.cleared = false) (g : Garbage) :
    Inv { boot s guard with pendingErase := g.pendingErase, due := none } :=
  have hboot := inv_boot h hguard
  { tasks := ⟨fun _ => rfl, nofun, List.nodup_nil, nofun⟩
    parked := ⟨h.parked.nodup, h.parked.begun, nofun, fun _ => g.lost, nofun⟩
    supervised := ⟨nofun, hboot.supervised.breadcrumb⟩
    untouched := ⟨h.untouched.zb, h.untouched.nvs⟩ }

theorem inv_pendingErase (hstage : s.stage = .starting) : Inv (handlePendingErase s) := by
  have htasks : s.tasks = [] := h.tasks.running (by rw [hstage]; nofun)
  unfold handlePendingErase
  by_cases hmagic : MagicOk s.pendingErase
  · obtain ⟨request, hdue⟩ : ∃ request, s.due = some request :=
      Option.ne_none_iff_exists'.mp fun hnone => h.parked.lost hnone hmagic
    obtain ⟨hnot, options, haccepted, herases, hword⟩ := h.parked.due request hdue
    obtain ⟨-, hoptions⟩ := parked_spec herases
    rw [if_neg (not_not.mpr hmagic), hword, hoptions]
    simp only [if_pos herases, hdue, Option.toList_some]
    have hmem : request ∈ s.begun ++ [request] := by simp
    constructor
    · rw [htasks]
      exact ⟨fun _ => rfl, nofun, List.nodup_nil, nofun⟩
    · refine ⟨?_, fun other hother => ?_, nofun, fun _ => not_magicOk_zero, fun options' heq => ?_⟩
      · rw [List.nodup_append]
        refine ⟨h.parked.nodup, List.nodup_singleton _, fun other hother last hlast heq => ?_⟩
        obtain rfl := List.mem_singleton.mp hlast
        exact hnot (heq ▸ hother)
      · rcases List.mem_append.mp hother with hold | hlast
        · exact h.parked.begun other hold
        · obtain rfl := List.mem_singleton.mp hlast
          exact ⟨options, haccepted, herases⟩
      · cases heq
        exact ⟨rfl, fun _ => ⟨request, hmem, haccepted⟩⟩
    · exact ⟨nofun, h.supervised.breadcrumb⟩
    · refine ⟨fun hnil => by simp at hnil, fun hnone => h.untouched.nvs fun other hother => ?_⟩
      exact hnone other (List.mem_append_left _ hother)
  · rw [if_pos hmagic]
    have hnone : s.due = none := by
      cases hdue : s.due with
      | none => rfl
      | some request =>
          obtain ⟨-, options, -, herases, hword⟩ := h.parked.due request hdue
          rw [hword] at hmagic
          exact absurd (parked_spec herases).1 hmagic
    constructor
    · rw [htasks]
      exact ⟨fun _ => rfl, nofun, List.nodup_nil, nofun⟩
    · refine ⟨h.parked.nodup, h.parked.begun, fun request hdue => ?_,
        fun _ => not_magicOk_zero, nofun⟩
      rw [hnone] at hdue
      cases hdue
    · refine ⟨fun _ hdue => ?_, h.supervised.breadcrumb⟩
      rw [hnone] at hdue
      cases hdue
    · exact ⟨h.untouched.zb, h.untouched.nvs⟩

-- The erase touches the partitions of its request only.
theorem inv_flash {options : UInt8} (hstage : s.stage = .erasing options) {stage : Stage}
    (hnext : stage = .erasing options ∨ stage = .running) {zb : Nor Z} {nvs : Nor N}
    (hzb : erases options = false → zb = s.zb) (hnvs : options ≠ 2 → nvs = s.nvs) :
    Inv { s with stage, zb, nvs } := by
  obtain ⟨hdue, hbegun⟩ := h.parked.erasing options hstage
  have htasks : s.tasks = [] := h.tasks.running (by rw [hstage]; nofun)
  constructor
  · rw [htasks]
    exact ⟨fun _ => rfl, nofun, List.nodup_nil, nofun⟩
  · refine ⟨h.parked.nodup, h.parked.begun, h.parked.due, h.parked.lost, fun options' heq => ?_⟩
    rcases hnext with rfl | rfl
    · cases heq
      exact ⟨hdue, hbegun⟩
    · cases heq
  · refine ⟨fun _ hsome => ?_, h.supervised.breadcrumb⟩
    rw [hdue] at hsome
    cases hsome
  · refine ⟨fun hnil => ?_, fun hnone => ?_⟩
    · cases herases : erases options with
      | false => exact (hzb herases).trans (h.untouched.zb hnil)
      | true =>
          obtain ⟨request, hmem, -⟩ := hbegun herases
          rw [hnil] at hmem
          cases hmem
    · by_cases htwo : options = 2
      · subst htwo
        obtain ⟨request, hmem, haccepted⟩ := hbegun rfl
        exact absurd haccepted (hnone request hmem)
      · exact (hnvs htwo).trans (h.untouched.nvs hnone)

end Step

-- How the guard of the next boot comes about.
theorem step_boot {guard next : BootGuard.State} {ending : BootGuard.Ending} {timer : Bool}
    (h : BootGuard.step guard (.boot ending timer) = some next) :
    ∃ breadcrumb, next = BootGuard.init breadcrumb timer (guard.boot ending :: guard.past) ∧
      ((∀ contents, ending ≠ .powerCycle contents) → breadcrumb = guard.breadcrumb) := by
  cases ending with
  | crash =>
      cases h
      exact ⟨_, rfl, fun _ => rfl⟩
  | deadline =>
      simp only [BootGuard.step, Option.ite_none_right_eq_some, Option.some.injEq] at h
      exact ⟨_, h.2.symm, fun _ => rfl⟩
  | restart =>
      simp only [BootGuard.step, Option.ite_none_right_eq_some, Option.some.injEq] at h
      exact ⟨_, h.2.symm, fun _ => rfl⟩
  | powerCycle contents =>
      simp only [BootGuard.step, Option.ite_none_left_eq_some, Option.some.injEq] at h
      exact ⟨_, h.2.symm, fun hwarm => absurd rfl (hwarm contents)⟩

theorem cleared_boot {guard next : BootGuard.State} {ending : BootGuard.Ending} {timer : Bool}
    (h : BootGuard.step guard (.boot ending timer) = some next) : next.cleared = false := by
  obtain ⟨breadcrumb, rfl, -⟩ := step_boot h
  exact cleared_init _ _ _

theorem inv_reboot (h : Inv s) (ending : BootGuard.Ending) (timer : Bool) :
    Inv ((BootGuard.step s.guard (.boot ending timer)).elim s fun guard => boot s guard) := by
  cases hguard : BootGuard.step s.guard (.boot ending timer) with
  | none => exact h
  | some guard => exact inv_boot h (cleared_boot hguard)

theorem inv_step (h : Inv s) (label : Label Z N) : Inv (step s label) := by
  cases label with
  | ncpReset buffer created =>
      simp only [step]
      split_ifs with hstage hcreated
      · exact inv_ncpReset h (optionsOf buffer) hstage
      · exact ⟨⟨h.tasks.running, h.tasks.accepted, h.tasks.nodup, h.tasks.fresh⟩,
          ⟨h.parked.nodup, h.parked.begun, h.parked.due, h.parked.lost, h.parked.erasing⟩,
          ⟨h.supervised.due, h.supervised.breadcrumb⟩, ⟨h.untouched.zb, h.untouched.nvs⟩⟩
      · exact h
  | park index =>
      simp only [step]
      cases hget : s.tasks[index]? with
      | none => exact h
      | some task =>
          cases hcleared : task.cleared with
          | true => simpa [hcleared] using h
          | false => simpa [hcleared] using inv_park h hget hcleared
  | zbossAlive =>
      simp only [step]
      split_ifs with hstage
      · simp only [BootGuard.step]
        split_ifs
        · exact h
        · exact inv_guard h id fun _ => rfl
      · exact h
  | selfHeal =>
      simp only [step, BootGuard.step]
      split_ifs
      · exact inv_guard h (fun _ => rfl) fun _ => rfl
      · exact h
  | reboot ending timer =>
      cases ending with
      | powerCycle contents => exact h
      | crash => exact inv_reboot h .crash timer
      | deadline => exact inv_reboot h .deadline timer
      | restart => exact inv_reboot h .restart timer
  | powerCycle g timer =>
      simp only [step]
      cases hguard : BootGuard.step s.guard (.boot (.powerCycle g.breadcrumb) timer) with
      | none => exact h
      | some guard => exact inv_powerCycle h (cleared_boot hguard) g
  | pendingErase =>
      simp only [step]
      split_ifs with hstage
      · exact inv_pendingErase h hstage
      · exact h
  | torn zb nvs =>
      simp only [step]
      cases hstage : s.stage with
      | starting => exact h
      | running => exact h
      | erasing options =>
          refine inv_flash h hstage (.inl rfl) (fun hnot => ?_) fun hnot => if_neg hnot
          rw [hnot, if_neg Bool.false_ne_true]
  | erased zbFound nvsFound zb nvs =>
      simp only [step]
      cases hstage : s.stage with
      | starting => exact h
      | running => exact h
      | erasing options =>
          refine inv_flash h hstage (.inr rfl) (fun hnot => ?_) fun hnot => ?_
          · rw [hnot, Bool.false_and, if_neg Bool.false_ne_true]
          · have hne : (options == 2) = false := by simpa using hnot
            rw [hne, Bool.false_and, if_neg Bool.false_ne_true]
  | write zb nvs =>
      simp only [step]
      split_ifs with hstage
      · exact ⟨⟨h.tasks.running, h.tasks.accepted, h.tasks.nodup, h.tasks.fresh⟩,
          ⟨h.parked.nodup, h.parked.begun, h.parked.due, h.parked.lost, h.parked.erasing⟩,
          ⟨h.supervised.due, h.supervised.breadcrumb⟩, ⟨fun _ => rfl, fun _ => rfl⟩⟩
      · exact h

theorem inv_run (g : Garbage) (timer : Bool) (zb : Nor Z) (nvs : Nor N)
    (labels : List (Label Z N)) : Inv (run g timer zb nvs labels) :=
  Run.foldl_history step (init g timer zb nvs) (fun _ s => Inv s) (inv_init g timer zb nvs)
    (fun _ _ label h => inv_step h label) labels

-- Resets, crashes and power cycles in any order: a request erases once at
-- most, no other boot erases anything, and nvs goes with a factory reset only.
theorem erase_at_most_once (g : Garbage) (timer : Bool) (zb : Nor Z) (nvs : Nor N)
    (labels : List (Label Z N)) :
    let s := run g timer zb nvs labels
    s.begun.Nodup ∧
      (∀ request ∈ s.begun, s.due ≠ some request ∧
        (s.requests[request]? = some 1 ∨ s.requests[request]? = some 2)) ∧
      (MagicOk s.pendingErase ↔ s.due.isSome = true) ∧
      (s.begun = [] → s.zb = s.writtenZb) ∧
      ((∀ request ∈ s.begun, s.requests[request]? = some 1) → s.nvs = s.writtenNvs) := by
  have h := inv_run g timer zb nvs labels
  refine ⟨h.parked.nodup, fun request hmem => ⟨fun hdue => (h.parked.due request hdue).1 hmem, ?_⟩,
    ⟨fun hmagic => ?_, fun hsome => ?_⟩, h.untouched.zb, fun hones => ?_⟩
  · obtain ⟨options, haccepted, herases⟩ := h.parked.begun request hmem
    rcases erases_iff.mp herases with rfl | rfl
    · exact .inl haccepted
    · exact .inr haccepted
  · exact Option.isSome_iff_ne_none.mpr fun hnone => h.parked.lost hnone hmagic
  · obtain ⟨request, hdue⟩ := Option.isSome_iff_exists.mp hsome
    obtain ⟨-, options, -, herases, hword⟩ := h.parked.due request hdue
    rw [hword]
    exact (parked_spec herases).1
  · refine h.untouched.nvs fun request hmem htwo => ?_
    have hone := hones request hmem
    rw [Accepted] at htwo
    rw [hone] at htwo
    cases htwo

theorem safeMode_init_crumb (timer : Bool) (past : List BootGuard.Boot) :
    (BootGuard.init (BootGuard.crumb 0) timer past).safeMode = false := by
  cases timer <;> rfl

-- A boot that begins after a request was parked, however the one before it has
-- ended, is not in safe mode and erases what the request asks for.
theorem parked_erase_runs (g : Garbage) (timer : Bool) (zb : Nor Z) (nvs : Nor N)
    (labels : List (Label Z N)) (ending : BootGuard.Ending) (next : Bool)
    (hstage : (run g timer zb nvs labels).stage = .running)
    (hdue : (run g timer zb nvs labels).due.isSome = true)
    (hwarm : ∀ contents, ending ≠ .powerCycle contents)
    (hends : (BootGuard.step (run g timer zb nvs labels).guard (.boot ending next)).isSome = true) :
    let s := run g timer zb nvs labels
    let t := run g timer zb nvs
      (labels ++ [.reboot ending next, .pendingErase, .erased true true .done .done])
    t.stage = .running ∧ t.guard.safeMode = false ∧ t.due = none ∧ ¬MagicOk t.pendingErase ∧
      ∃ request options, s.due = some request ∧ s.requests[request]? = some options ∧
        t.begun = s.begun ++ [request] ∧ t.zb = Nor.erased Z ∧
        t.nvs = if options = 2 then Nor.erased N else s.nvs := by
  have h := inv_run g timer zb nvs labels
  have hrun : run g timer zb nvs
      (labels ++ [.reboot ending next, .pendingErase, .erased true true .done .done]) =
      step (step (step (run g timer zb nvs labels) (.reboot ending next)) .pendingErase)
        (.erased true true .done .done) := List.foldl_append
  simp only [hrun]
  generalize run g timer zb nvs labels = s at h hstage hdue hends
  obtain ⟨request, hrequest⟩ := Option.isSome_iff_exists.mp hdue
  obtain ⟨-, options, haccepted, herases, hword⟩ := h.parked.due request hrequest
  obtain ⟨hmagic, hoptions⟩ := parked_spec herases
  obtain ⟨guard, hguard⟩ := Option.isSome_iff_exists.mp hends
  obtain ⟨breadcrumb, rfl, hkept⟩ := step_boot hguard
  rw [hkept hwarm, h.supervised.breadcrumb (h.supervised.due hstage hdue)] at hguard
  have hboot : step s (.reboot ending next) =
      boot s (BootGuard.init (BootGuard.crumb 0) next (s.guard.boot ending :: s.guard.past)) := by
    cases ending with
    | powerCycle contents => exact absurd rfl (hwarm contents)
    | crash => simp only [step, hguard, Option.elim_some]
    | deadline => simp only [step, hguard, Option.elim_some]
    | restart => simp only [step, hguard, Option.elim_some]
  have hsafe := safeMode_init_crumb next (s.guard.boot ending :: s.guard.past)
  rw [hboot]
  simp only [step, boot, handlePendingErase, hword, hmagic, not_true_eq_false, if_false, if_true,
    hoptions, herases, hrequest, Option.toList_some, Bool.and_true, Nor.erase,
    beq_iff_eq]
  exact ⟨trivial, hsafe, trivial, not_magicOk_zero, request, options, rfl, haccepted, rfl, trivial,
    rfl⟩

def coldGarbage : Garbage :=
  { breadcrumb := 0x12345678, pendingErase := 0x5eed1234, cold := by decide, lost := by decide }

def factoryReset : List (Label 2 3) := [.pendingErase, .ncpReset [2] true, .park 0]

theorem parked_erase_runs_factoryReset :
    let t := run coldGarbage true ⟨[1, 2], rfl⟩ ⟨[3, 4, 5], rfl⟩
      (factoryReset ++ [.reboot .crash false, .pendingErase, .erased true true .done .done])
    t.stage = .running ∧ t.guard.safeMode = false ∧ t.due = none ∧ t.begun = [0] ∧
      t.zb = Nor.erased 2 ∧ t.nvs = Nor.erased 3 := by
  obtain ⟨hstage, hsafe, hdue, -, request, options, hrequest, haccepted, hbegun, hzb, hnvs⟩ :=
    parked_erase_runs coldGarbage true ⟨[1, 2], rfl⟩ ⟨[3, 4, 5], rfl⟩ factoryReset .crash false
      (by decide) (by decide) nofun (by decide)
  have hzero : request = 0 := Option.some.inj (hrequest.symm.trans (by decide))
  subst hzero
  have htwo : options = 2 := Option.some.inj (haccepted.symm.trans (by decide))
  subst htwo
  exact ⟨hstage, hsafe, hdue, hbegun.trans (by decide), hzb, hnvs⟩

end EspCoordinator.NcpReset
