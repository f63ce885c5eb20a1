import EspCoordinator.BootGuard
import EspCoordinator.Lib.Nor

-- NCP_RESET, from the request to the erase that the next boot runs
namespace EspCoordinator.NcpReset

def NCP_ERASE_MAGIC : UInt32 := 0xFAC70000

def MagicOk (pending : UInt32) : Prop := pending &&& 0xFFFFFF00 = NCP_ERASE_MAGIC

instance (pending : UInt32) : Decidable (MagicOk pending) :=
  inferInstanceAs (Decidable (_ = _))

-- The low byte holds the options of the reset.
def parked (options : UInt8) : UInt32 := NCP_ERASE_MAGIC ||| options.toUInt32

def erases (options : UInt8) : Bool := options == 1 || options == 2

-- What RTC memory holds after a power cycle: neither of the two magics.
structure Garbage where
  breadcrumb : UInt32
  pendingErase : UInt32
  cold : ¬BootGuard.MagicOk breadcrumb
  lost : ¬MagicOk pendingErase

-- ncp_reset_deferred_task, in its first or in its second delay
structure Task where
  request : Nat
  options : UInt8
  cleared : Bool
deriving DecidableEq, Repr

inductive Stage where
  -- behind boot_guard::init
  | starting
  -- inside of handle_pending_erase
  | erasing (options : UInt8)
  -- behind it
  | running
deriving DecidableEq, Repr

variable {Z N : Nat}

structure State (Z N : Nat) where
  guard : BootGuard.State
  -- g_pending_ncp_erase
  pendingErase : UInt32
  stage : Stage
  tasks : List Task
  zb : Nor Z
  nvs : Nor N
  -- The options of the requests that got a task, in order, and the requests
  -- that were turned down. The request that was parked last, until a boot has
  -- taken it up or the power was lost; those whose erase has been begun; and
  -- what was last written to the partitions, apart from erasing them. None of
  -- them is in the code.
  requests : List UInt8
  refused : Nat
  due : Option Nat
  begun : List Nat
  writtenZb : Nor Z
  writtenNvs : Nor N

def init (g : Garbage) (timer : Bool) (zb : Nor Z) (nvs : Nor N) : State Z N :=
  { guard := BootGuard.init g.breadcrumb timer []
    pendingErase := g.pendingErase
    stage := .starting
    tasks := []
    zb
    nvs
    requests := []
    refused := 0
    due := none
    begun := []
    writtenZb := zb
    writtenNvs := nvs }

inductive Label (Z N : Nat) where
  -- cmd_handle<NCP_RESET>::process; `created` is what xTaskCreate returns
  | ncpReset (buffer : List UInt8) (created : Bool)
  -- the end of the first delay of a task, and what follows it up to the second
  | park (index : Nat)
  | zbossAlive
  | selfHeal
  -- the end of the boot with the RTC memory kept, and the end with it lost
  | reboot (ending : BootGuard.Ending) (timer : Bool)
  | powerCycle (g : Garbage) (timer : Bool)
  | pendingErase
  -- a part of the erase, and the end of it
  | torn (zb : Nor Z) (nvs : Nor N)
  | erased (zbFound nvsFound : Bool) (zb : Nor.Outcome Z) (nvs : Nor.Outcome N)
  -- the stack and the NVS library at work
  | write (zb : Nor Z) (nvs : Nor N)

-- handle_pending_erase up to the erase
def handlePendingErase (s : State Z N) : State Z N :=
  if ¬MagicOk s.pendingErase then { s with pendingErase := 0, stage := .running }
  else
    let options := s.pendingErase.toUInt8
    { s with
        pendingErase := 0
        stage := .erasing options
        due := none
        begun := if erases options then s.begun ++ s.due.toList else s.begun }

def optionsOf (buffer : List UInt8) : UInt8 := buffer.getD 0 0

def park (s : State Z N) (index : Nat) (task : Task) : State Z N :=
  let s := { s with tasks := s.tasks.set index { task with cleared := true } }
  let s :=
    if erases task.options then
      { s with pendingErase := parked task.options, due := some task.request }
    else s
  { s with guard := (BootGuard.step s.guard .ncpReset).getD s.guard }

-- The next boot begins.
def boot (s : State Z N) (guard : BootGuard.State) : State Z N :=
  { s with guard, stage := .starting, tasks := [] }

-- A step that is not enabled changes nothing.
def step (s : State Z N) : Label Z N → State Z N
  | .ncpReset buffer created =>
      if s.stage = .running then
        if created then
          let task : Task :=
            { request := s.requests.length, options := optionsOf buffer, cleared := false }
          { s with tasks := s.tasks ++ [task], requests := s.requests ++ [optionsOf buffer] }
        else { s with refused := s.refused + 1 }
      else s
  | .park index =>
      match s.tasks[index]? with
      | some task => if task.cleared then s else park s index task
      | none => s
  | .zbossAlive =>
      if s.stage = .running then
        (BootGuard.step s.guard .zbossAlive).elim s fun guard => { s with guard }
      else s
  | .selfHeal => (BootGuard.step s.guard .selfHeal).elim s fun guard => { s with guard }
  | .reboot ending timer =>
      match ending with
      | .powerCycle _ => s
      | ending => (BootGuard.step s.guard (.boot ending timer)).elim s fun guard => boot s guard
  | .powerCycle g timer =>
      (BootGuard.step s.guard (.boot (.powerCycle g.breadcrumb) timer)).elim s fun guard =>
        { boot s guard with pendingErase := g.pendingErase, due := none }
  | .pendingErase => if s.stage = .starting then handlePendingErase s else s
  | .torn zb nvs =>
      match s.stage with
      | .erasing options =>
          { s with
              zb := if erases options then zb else s.zb
              nvs := if options = 2 then nvs else s.nvs }
      | _ => s
  | .erased zbFound nvsFound zb nvs =>
      match s.stage with
      | .erasing options =>
          { s with
              stage := .running
              zb := if erases options && zbFound then (Nor.erase zb).1 else s.zb
              nvs := if options == 2 && nvsFound then (Nor.erase nvs).1 else s.nvs }
      | _ => s
  | .write zb nvs =>
      if s.stage = .running then { s with zb, nvs, writtenZb := zb, writtenNvs := nvs } else s

def run (g : Garbage) (timer : Bool) (zb : Nor Z) (nvs : Nor N) (labels : List (Label Z N)) :
    State Z N :=
  labels.foldl step (init g timer zb nvs)

end EspCoordinator.NcpReset
