import EspCoordinator.Lib.Lease
import EspCoordinator.Resolver

-- What request_cmd_process and the APSDE_DATA_REQ handler have in common: the
-- way of a request through its slot.
namespace EspCoordinator.Requests

open Resolver

def STATUS_CATEGORY_APS : UInt8 := 4
def STATUS_CATEGORY_ZDO : UInt8 := 5

def GENERIC_OUT_OF_RANGE : UInt8 := 6
def GENERIC_INVALID_PARAMETER : UInt8 := 23
def GENERIC_NO_RESOURCES : UInt8 := 32

structure HostRequest where
  cmd : Cmd
  buffer : List UInt8
deriving DecidableEq, Repr

-- What send_cmd_data is given.
structure Frame where
  cmd : Cmd
  data : List UInt8
deriving DecidableEq, Repr

def reportFailed (category : UInt8) (srcCmd : Cmd) (status : UInt8) : Frame :=
  { cmd := srcCmd.reply, data := [category, status] }

structure Answer where
  request : Nat
  frame : Frame
deriving DecidableEq, Repr

-- `Ret` is what the call that hands a request to ZBOSS returns.
structure Table (Arg Ret : Type) where
  resolver : Resolver Arg
  -- process on the app task, from start_resolve to zb_buf_get_out_delayed_ext
  app : Option (Slot × HostRequest)
  -- callbacks that were accepted and have not run
  pending : List Slot
  -- do_request on the ZBOSS task, from its call into ZBOSS to its last write
  running : Option (Slot × Ret)
  -- The host's requests in order, the request each slot was last claimed for,
  -- how often start_resolve claimed a slot, and the frames sent back. None of
  -- them is in the code.
  requests : List HostRequest
  owner : Slot → Nat
  allocations : Nat
  answers : List Answer

namespace Table

variable {Arg Ret : Type}

def init (zero : Arg) : Table Arg Ret :=
  { resolver := Resolver.init zero, app := none, pending := [], running := none, requests := [],
    owner := fun _ => 0, allocations := 0, answers := [] }

def slot (t : Table Arg Ret) (idx : Slot) : Request Arg := t.resolver.storage idx

def refuse (t : Table Arg Ret) (request : HostRequest) (frame : Frame) : Table Arg Ret :=
  { t with requests := t.requests ++ [request],
           answers := t.answers ++ [{ request := t.requests.length, frame }] }

def answer (t : Table Arg Ret) (idx : Slot) (frame : Frame) : Table Arg Ret :=
  { t with resolver := t.resolver.free idx,
           answers := t.answers ++ [{ request := t.owner idx, frame }] }

-- start_resolve and, when no slot can be had, the failure report.
def claim (t : Table Arg Ret) (request : HostRequest) (noSlot : Frame) : Table Arg Ret :=
  match t.resolver.startResolve request.cmd with
  | none => t.refuse request noSlot
  | some (idx, resolver) =>
      { t with resolver, app := some (idx, request), requests := t.requests ++ [request],
               owner := Function.update t.owner idx t.requests.length,
               allocations := t.allocations + 1 }

-- process writes to the slot that it was given.
def store (t : Table Arg Ret) (idx : Slot) (arg : Arg) : Table Arg Ret :=
  { t with resolver := t.resolver.set idx { t.slot idx with arg, state := .allocation } }

-- The rest of process: ZBOSS accepts or refuses the callback.
def handOver (t : Table Arg Ret) (idx : Slot) (arg : Arg) (accepted : Bool) (rejected : Frame) :
    Table Arg Ret :=
  let t := t.store idx arg
  if accepted then { t with app := none, pending := t.pending ++ [idx] }
  else { t with app := none }.answer idx rejected

def noteTsn (t : Table Arg Ret) (idx : Slot) (tsn : UInt8) : Table Arg Ret :=
  { t with resolver := t.resolver.set idx { t.slot idx with tsn } }

-- ZBOSS can run the callback of a slot when it is in no other one.
def ready (t : Table Arg Ret) (idx : Slot) : Bool :=
  t.pending.contains idx && t.running.isNone

-- ZBOSS runs a callback; the call into ZBOSS comes back with `ret`.
def start (t : Table Arg Ret) (idx : Slot) (ret : Ret) : Table Arg Ret :=
  { t with pending := t.pending.erase idx, running := some (idx, ret) }

def publish (t : Table Arg Ret) (idx : Slot) (tsn : UInt8) (tick : UInt32) : Table Arg Ret :=
  { t with resolver := t.resolver.set idx { t.slot idx with tsn, tExec := tick, state := .exec },
           running := none }

def abort (t : Table Arg Ret) (idx : Slot) (frame : Frame) : Table Arg Ret :=
  { t with running := none }.answer idx frame

-- The watchdog drops what is stale and sends nothing.
def reclaim (t : Table Arg Ret) (now timeout : UInt32) : Table Arg Ret :=
  { t with resolver := (t.resolver.reclaimStale now timeout MAX_PARALLEL_REQUESTS).2 }

-- Slots with a callback that is still owed: about to be handed over, waiting
-- or running.
def callbacks (t : Table Arg Ret) : List Slot :=
  (t.app.map Prod.fst).toList ++ t.pending ++ (t.running.map Prod.fst).toList

def book (t : Table Arg Ret) : Lease.Book Slot :=
  { next := t.requests.length,
    holder := fun idx => if (t.slot idx).state = .none then none else some (t.owner idx),
    answered := t.answers.map Answer.request }

end Table

end EspCoordinator.Requests
