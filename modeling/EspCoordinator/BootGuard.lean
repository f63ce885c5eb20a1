import EspCoordinator.Lib.Run
import Mathlib.Data.UInt

namespace EspCoordinator.BootGuard

def BOOT_BC_MAGIC : UInt32 := 0xB007BC00
def BOOT_BC_MAGIC_MASK : UInt32 := 0xFFFFFF00
def BOOT_FAIL_LIMIT : UInt32 := 3

inductive Ending where
  -- panic, watchdog, brownout, or a restart that has nothing to do with it
  | crash
  -- deadline_cb
  | deadline
  -- esp_restart behind a call of clear
  | restart
  -- with what RTC memory holds afterwards
  | powerCycle (contents : UInt32)
deriving DecidableEq, Repr

-- A boot that is over.
structure Boot where
  safeMode : Bool
  alive : Bool
  cleared : Bool
  ending : Ending
deriving DecidableEq, Repr

structure State where
  -- g_boot_breadcrumb, which a warm reset leaves alone
  breadcrumb : UInt32
  safeMode : Bool
  -- the running timers
  deadline : Bool
  heal : Bool
  -- whether this boot has called mark_zboss_alive, and clear; not in the code
  alive : Bool
  cleared : Bool
  -- the boots before this one, the last one first
  past : List Boot
deriving DecidableEq, Repr

def MagicOk (breadcrumb : UInt32) : Prop := breadcrumb &&& BOOT_BC_MAGIC_MASK = BOOT_BC_MAGIC

instance (breadcrumb : UInt32) : Decidable (MagicOk breadcrumb) :=
  inferInstanceAs (Decidable (_ = _))

def count (breadcrumb : UInt32) : UInt32 := breadcrumb &&& 0xFF

-- boot_guard::init, the first call of app_main. `timer` is whether the timer
-- that it asks for can be had.
def init (breadcrumb : UInt32) (timer : Bool) (past : List Boot) : State :=
  let fails := if MagicOk breadcrumb then count breadcrumb else 0
  if fails ≥ BOOT_FAIL_LIMIT then
    { breadcrumb, safeMode := true, deadline := false, heal := timer, alive := false,
      cleared := false, past }
  else
    { breadcrumb := BOOT_BC_MAGIC ||| (fails + 1), safeMode := false, deadline := timer,
      heal := false, alive := false, cleared := false, past }

def markZbossAlive (s : State) : State :=
  { s with breadcrumb := BOOT_BC_MAGIC ||| 0, deadline := false }

def clear (s : State) : State := { s with breadcrumb := BOOT_BC_MAGIC ||| 0 }

def State.boot (s : State) (ending : Ending) : Boot :=
  { safeMode := s.safeMode, alive := s.alive, cleared := s.cleared, ending }

inductive Label where
  -- continue_zboss
  | zbossAlive
  -- ncp_reset_deferred_task and the self-heal timer up to their esp_restart
  | ncpReset
  | selfHeal
  -- the end of the boot and app_main of the next one
  | boot (ending : Ending) (timer : Bool)
deriving DecidableEq, Repr

-- ZBOSS is not started in safe mode. A power cycle leaves no magic behind.
def step (s : State) : Label → Option State
  | .zbossAlive => if s.safeMode then none else some { markZbossAlive s with alive := true }
  | .ncpReset => some { clear s with cleared := true }
  | .selfHeal => if s.heal then some { clear s with cleared := true } else none
  | .boot ending timer =>
      let past := s.boot ending :: s.past
      match ending with
      | .crash => some (init s.breadcrumb timer past)
      | .deadline => if s.deadline then some (init s.breadcrumb timer past) else none
      | .restart => if s.cleared then some (init s.breadcrumb timer past) else none
      | .powerCycle contents =>
          if MagicOk contents then none else some (init contents timer past)

def Boot.powerCycled (boot : Boot) : Bool :=
  match boot.ending with
  | .powerCycle _ => true
  | _ => false

-- Since one of these the failures are counted anew.
def Boot.resets (boot : Boot) : Bool := boot.alive || boot.cleared || boot.powerCycled

-- The boots not in safe mode that have ended with none of these since.
def earlyFailures (past : List Boot) : Nat :=
  (past.takeWhile fun boot => !boot.resets).countP fun boot => !boot.safeMode

end EspCoordinator.BootGuard
