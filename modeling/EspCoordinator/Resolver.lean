import Mathlib.Data.List.FinRange
import Mathlib.Data.UInt
import Mathlib.Logic.Function.Basic
import Mathlib.Tactic.Ring

namespace EspCoordinator

inductive FrameType where
  | request
  | response
  | indication
deriving DecidableEq, Repr

-- cmd_t
structure Cmd where
  version : UInt8
  type : FrameType
  commandId : UInt16
  tsn : UInt8
deriving DecidableEq, Repr

-- Every reply starts with the command's own header.
def Cmd.reply (cmd : Cmd) : Cmd := { cmd with type := .response }

namespace Resolver

abbrev MAX_PARALLEL_REQUESTS : Nat := 16

instance neZero_requests : NeZero MAX_PARALLEL_REQUESTS := ⟨by decide⟩

-- size_t has 32 bits on every chip the firmware runs on.
def SIZE_MAX : UInt32 := 0xFFFFFFFF

inductive SlotState where
  | none
  | allocation
  | exec
deriving DecidableEq, Repr

-- request_t
structure Request (Arg : Type) where
  arg : Arg
  cmd : Cmd
  old : UInt32
  -- tick when the slot entered S_EXEC
  tExec : UInt32
  tsn : UInt8
  state : SlotState
deriving DecidableEq, Repr

abbrev Slot := Fin MAX_PARALLEL_REQUESTS

end Resolver

open Resolver in
-- The two statics of a request_cmd_resolver.
structure Resolver (Arg : Type) where
  storage : Slot → Request Arg
  oldCntr : UInt32

namespace Resolver

variable {Arg : Type}

-- Static storage starts zeroed.
def init (zero : Arg) : Resolver Arg :=
  { storage := fun _ =>
      { arg := zero, cmd := { version := 0, type := .request, commandId := 0, tsn := 0 },
        old := 0, tExec := 0, tsn := 0, state := .none },
    oldCntr := 0 }

def set (r : Resolver Arg) (idx : Slot) (req : Request Arg) : Resolver Arg :=
  { r with storage := Function.update r.storage idx req }

def free (r : Resolver Arg) (idx : Slot) : Resolver Arg :=
  r.set idx { r.storage idx with state := .none }

def firstFree (r : Resolver Arg) : Option Slot :=
  (List.finRange MAX_PARALLEL_REQUESTS).find? fun idx => (r.storage idx).state = .none

-- One round of the scan for the oldest S_EXEC slot: `oldest` and `res`.
def olderOf (r : Resolver Arg) (found : UInt32 × Option Slot) (idx : Slot) :
    UInt32 × Option Slot :=
  if (r.storage idx).state = .exec ∧ (r.storage idx).old < found.1 then
    ((r.storage idx).old, some idx)
  else found

def oldestExec (r : Resolver Arg) : Option Slot :=
  ((List.finRange MAX_PARALLEL_REQUESTS).foldl r.olderOf (SIZE_MAX, none)).2

def claim (r : Resolver Arg) (idx : Slot) (cmd : Cmd) : Resolver Arg :=
  { storage := Function.update r.storage idx
      { r.storage idx with cmd, old := r.oldCntr, state := .allocation },
    oldCntr := r.oldCntr + 1 }

def startResolve (r : Resolver Arg) (cmd : Cmd) : Option (Slot × Resolver Arg) :=
  match r.firstFree with
  | some idx => some (idx, r.claim idx cmd)
  | none => r.oldestExec.map fun idx => (idx, r.claim idx cmd)

-- The slot, and the copy of it that the caller works on.
def resolveTake (r : Resolver Arg) (tsn : UInt8) : Option (Slot × Request Arg × Resolver Arg) :=
  let hit := (List.finRange MAX_PARALLEL_REQUESTS).find? fun idx =>
    (r.storage idx).state = .exec ∧ (r.storage idx).tsn = tsn
  hit.map fun idx => (idx, r.storage idx, r.free idx)

def resolveTakeAt (r : Resolver Arg) (idx : UInt16) (old : UInt32) :
    Option (Slot × Request Arg × Resolver Arg) :=
  if h : idx.toNat < MAX_PARALLEL_REQUESTS then
    let slot : Slot := ⟨idx.toNat, h⟩
    if (r.storage slot).state ≠ .exec ∨ (r.storage slot).old ≠ old then none
    else some (slot, r.storage slot, r.free slot)
  else none

def stale (r : Resolver Arg) (nowTicks timeoutTicks : UInt32) (idx : Slot) : Bool :=
  (r.storage idx).state = .exec ∧ timeoutTicks ≤ nowTicks - (r.storage idx).tExec

def reclaimStale (r : Resolver Arg) (nowTicks timeoutTicks : UInt32) (outCap : Nat) :
    List Cmd × Resolver Arg :=
  let gone := (List.finRange MAX_PARALLEL_REQUESTS).filter (r.stale nowTicks timeoutTicks)
  ((gone.map fun idx => (r.storage idx).cmd).take outCap,
    { r with storage := fun idx =>
        if r.stale nowTicks timeoutTicks idx then { r.storage idx with state := .none }
        else r.storage idx })

end Resolver

end EspCoordinator
