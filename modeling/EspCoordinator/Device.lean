import EspCoordinator.Apsde
import EspCoordinator.Commissioning
import EspCoordinator.Lib.Credit
import EspCoordinator.RequestProcess
import Mathlib.Data.Fintype.Basic

-- All commands behind on_rx_data at once
namespace EspCoordinator.Device

open Requests (Frame HostRequest Table GENERIC_NO_RESOURCES)
open Resolver (Request)
open Credit (Part)

-- The commands of the request_cmd_process family
inductive Zdo where
  | nwkAddrReq
  | ieeeAddrReq
  | powerDescReq
  | nodeDescReq
  | simpleDescReq
  | activeEpReq
  | matchDescReq
  | bindReq
  | unbindReq
  | permitJoiningReq
  | mgmtBindReq
  | mgmtLqiReq
  | mgmtNwkUpdateReq
deriving DecidableEq, Repr

def Zdo.all : List Zdo :=
  [.nwkAddrReq, .ieeeAddrReq, .powerDescReq, .nodeDescReq, .simpleDescReq, .activeEpReq,
    .matchDescReq, .bindReq, .unbindReq, .permitJoiningReq, .mgmtBindReq, .mgmtLqiReq,
    .mgmtNwkUpdateReq]

theorem Zdo.mem_all (command : Zdo) : command ∈ Zdo.all := by
  cases command <;> decide

instance fintype_zdo : Fintype Zdo := .ofList Zdo.all Zdo.mem_all

def Zdo.ofId : CommandId → Option Zdo
  | .zdoNwkAddrReq => some .nwkAddrReq
  | .zdoIeeeAddrReq => some .ieeeAddrReq
  | .zdoPowerDescReq => some .powerDescReq
  | .zdoNodeDescReq => some .nodeDescReq
  | .zdoSimpleDescReq => some .simpleDescReq
  | .zdoActiveEpReq => some .activeEpReq
  | .zdoMatchDescReq => some .matchDescReq
  | .zdoBindReq => some .bindReq
  | .zdoUnbindReq => some .unbindReq
  | .zdoPermitJoiningReq => some .permitJoiningReq
  | .zdoMgmtBindReq => some .mgmtBindReq
  | .zdoMgmtLqiReq => some .mgmtLqiReq
  | .zdoMgmtNwkUpdateReq => some .mgmtNwkUpdateReq
  | _ => none

-- A response can be sent for each of these headers.
abbrev Credits := Multiset Cmd

-- The header of a payload that is a response
def responded (payload : List UInt8) : Credits :=
  match ZbNcp.readCmd payload with
  | some cmd => if cmd.type = .response then {cmd} else 0
  | none => 0

def payload (frame : Frame) : List UInt8 := frame.cmd.bytes ++ frame.data

section Table

variable {Arg Ret : Type}

def slotCredit (req : Request Arg) : Credits :=
  if req.state = .none then 0 else {req.cmd.reply}

def tableHeld (t : Table Arg Ret) : Credits := ∑ idx, slotCredit (t.slot idx)

-- The request that start_resolve drops when the table is full.
def overridden (t : Table Arg Ret) (cmd : Cmd) : Credits :=
  match t.resolver.startResolve cmd with
  | some (idx, _) => slotCredit (t.slot idx)
  | none => 0

def sentSince (before after : Table Arg Ret) : List (List UInt8) :=
  (after.answers.drop before.answers.length).map fun answer => payload answer.frame

end Table

structure ZdoCommand where
  Arg : Type
  Resp : Type
  zero : Arg
  command : RequestProcess.Command Arg Resp

def zdoPart (c : ZdoCommand) : Part Cmd (List UInt8) where
  State := RequestProcess.State c.Arg
  Label := RequestProcess.Label c.Resp
  step s label := (RequestProcess.step c.command s label).map fun next =>
    (next, sentSince s.table next.table)
  taken
    | .process request => {request.cmd.reply}
    | _ => 0
  lost s
    | .process request =>
        if c.command.checkArgSize request.buffer then overridden s.table request.cmd else 0
    | _ => 0
  held s := tableHeld s.table

-- What the scan of the watchdog frees.
def reclaimed (s : Apsde.State) (sample : Nat) (hz : Nat) : Credits :=
  ∑ idx, if s.table.resolver.stale (UInt32.ofNat sample)
    (Transport.pdMS_TO_TICKS hz Apsde.APSDE_WATCHDOG_TIMEOUT_MS) idx then
      slotCredit (s.table.slot idx) else 0

def apsdePart (hz : Nat) : Part Cmd (List UInt8) where
  State := Apsde.State
  Label := Apsde.Label
  step s label := (Apsde.step hz s label).map fun next => (next, sentSince s.table next.table)
  taken
    | .process request => {request.cmd.reply}
    | _ => 0
  lost s
    | .process request =>
        if Apsde.checkFrame request.buffer then overridden s.table request.cmd else 0
    | .scan => s.sampled.elim 0 fun sample => reclaimed s sample hz
    | _ => 0
  held s := tableHeld s.table

-- What goes through send_data.
def Sent.payload : Commissioning.Sent → Option (List UInt8)
  | .wakeUp => none
  | .bootReady => none
  | .formation answer => some (Device.payload answer.frame)
  | .start answer => some (Device.payload answer.frame)
  | .indication payload => some payload

def cmdCredit (cmd : Option Cmd) : Credits := cmd.elim 0 fun cmd => {cmd.reply}

def commissioningPart {τ : Type} (z : Commissioning.Stack τ) : Part Cmd (List UInt8) where
  State := Commissioning.State τ
  Label := Commissioning.Label τ
  step s label :=
    let next := Commissioning.step z s label
    some (next, (next.sent.drop s.sent.length).filterMap Sent.payload)
  taken
    | .nwkFormation cmd _ => {cmd.reply}
    | .nwkStartWithoutFormation cmd => {cmd.reply}
    | _ => 0
  lost _ _ := 0
  held s := cmdCredit s.formation.cmd + cmdCredit s.startCmd

def atOncePart {σ : Type} (service : ZbNcp.Service σ) : Part Cmd (List UInt8) where
  State := σ
  Label := CommandId × Cmd × List UInt8
  step s := fun (id, cmd, buf) =>
    let (next, reply) := service.processImmediate id s buf
    some (next, [cmd.reply.bytes ++ reply])
  taken := fun (_, cmd, _) => {cmd.reply}
  lost _ _ := 0
  held _ := 0

-- cmd_handle<NCP_RESET>::process: a request that gets its task is answered by
-- the boot-ready frame of the next boot.
def resetPart : Part Cmd (List UInt8) where
  State := Unit
  Label := Cmd × Bool
  step s := fun (cmd, created) =>
    some (s, if created then [] else [ZbNcp.statusReply cmd GENERIC_NO_RESOURCES])
  taken := fun (cmd, _) => {cmd.reply}
  lost _ := fun (cmd, created) => if created then {cmd.reply} else 0
  held _ := 0

-- The signals that are passed on to the host.
def signalPart : Part Cmd (List UInt8) where
  State := Unit
  Label := CommandId × List UInt8
  step s := fun (id, data) => some (s, (ZbNcp.indication id data).toList)
  taken _ := 0
  lost _ _ := 0
  held _ := 0

inductive Member where
  | zdo (command : Zdo)
  | apsde
  | commissioning
  | atOnce
  | reset
  | signals
deriving DecidableEq, Repr

def Member.all : List Member :=
  Zdo.all.map .zdo ++ [.apsde, .commissioning, .atOnce, .reset, .signals]

theorem Member.mem_all (member : Member) : member ∈ Member.all := by
  cases member with
  | zdo command => exact List.mem_append_left _ (List.mem_map_of_mem command.mem_all)
  | _ => exact List.mem_append_right _ (by decide)

instance fintype_member : Fintype Member := .ofList Member.all Member.mem_all

structure Firmware where
  World : Type
  service : ZbNcp.Service World
  zdo : Zdo → ZdoCommand
  hz : Nat
  Zboss : Type
  stack : Commissioning.Stack Zboss

variable (F : Firmware)

def part : Member → Part Cmd (List UInt8)
  | .zdo command => zdoPart (F.zdo command)
  | .apsde => apsdePart F.hz
  | .commissioning => commissioningPart F.stack
  | .atOnce => atOncePart F.service
  | .reset => resetPart
  | .signals => signalPart

def parts : Part Cmd (List UInt8) := Credit.parallel (part F)

-- The label of the handler that on_rx_data calls.
def enter (created : Bool) (id : CommandId) (cmd : Cmd) (buf : List UInt8) : (parts F).Label :=
  match Zdo.ofId id with
  | some command => ⟨.zdo command, RequestProcess.Label.process { cmd, buffer := buf }⟩
  | none =>
      match id with
      | .apsdeDataReq => ⟨.apsde, Apsde.Label.process { cmd, buffer := buf }⟩
      | .nwkFormation => ⟨.commissioning, Commissioning.Label.nwkFormation cmd buf⟩
      | .nwkStartWithoutFormation =>
          ⟨.commissioning, Commissioning.Label.nwkStartWithoutFormation cmd⟩
      | .ncpReset => ⟨.reset, (cmd, created)⟩
      | id => ⟨.atOnce, (id, cmd, buf)⟩

-- The labels that come from on_rx_data only.
def isEntry : (parts F).Label → Bool
  | ⟨.zdo _, RequestProcess.Label.process _⟩ => true
  | ⟨.apsde, Apsde.Label.process _⟩ => true
  | ⟨.commissioning, Commissioning.Label.nwkFormation _ _⟩ => true
  | ⟨.commissioning, Commissioning.Label.nwkStartWithoutFormation _⟩ => true
  | ⟨.atOnce, _⟩ => true
  | ⟨.reset, _⟩ => true
  | _ => false

variable {F}

structure State (F : Firmware) where
  members : (parts F).State
  lost : Credits

def zdoState (members : (parts F).State) (command : Zdo) :
    RequestProcess.State (F.zdo command).Arg := members (.zdo command)

def apsdeState (members : (parts F).State) : Apsde.State := members .apsde

-- The app task is in no handler and not in the watchdog.
def Idle (members : (parts F).State) : Prop :=
  (∀ command, (zdoState members command).table.app.isNone = true) ∧
    (apsdeState members).table.app.isNone = true ∧ (apsdeState members).sampled.isNone = true

instance (members : (parts F).State) : Decidable (Idle members) :=
  inferInstanceAs (Decidable (_ ∧ _))

def State.post (s : State F) (label : (parts F).Label) : State F × List (List UInt8) :=
  match (parts F).step s.members label with
  | some (next, out) =>
      ({ members := next, lost := s.lost + (parts F).lost s.members label }, out)
  | none => (s, [])

def handlers (created : Bool) : ZbNcp.Handlers (State F) :=
  fun id s cmd buf => s.post (enter F created id cmd buf)

inductive Label (F : Firmware) where
  -- `created` is what xTaskCreate returns, should the request be NCP_RESET
  | onRxData (data : List UInt8) (created : Bool)
  -- the rest of a handler, and everything that the ZBOSS task does
  | task (label : (parts F).Label)

-- What on_rx_data was called with, and what was handed to send_data.
structure Books (F : Firmware) where
  state : State F
  received : List (List UInt8)
  sent : List (List UInt8)

-- A step that is not enabled changes nothing.
def step (safeMode : Bool) (b : Books F) : Label F → Books F
  | .onRxData data created =>
      if Idle b.state.members then
        let (next, out) := ZbNcp.onRxData safeMode (handlers created) b.state data
        { state := next, received := b.received ++ [data], sent := b.sent ++ out }
      else b
  | .task label =>
      if isEntry F label then b
      else
        let (next, out) := b.state.post label
        { b with state := next, sent := b.sent ++ out }

-- The header of the data, unless on_rx_data drops it.
def accepted (safeMode : Bool) (data : List UInt8) : Option Cmd :=
  if data.length < CMD_SIZE then none
  else
    (ZbNcp.readCmd data).filter fun cmd =>
      cmd.type == .request || (!safeMode && cmd.type == .response)

def requested (safeMode : Bool) (data : List UInt8) : Credits :=
  cmdCredit (accepted safeMode data)

-- After the start of a boot
def init (F : Firmware) (world : F.World) (zboss : F.Zboss) (restored : Bool) :
    (parts F).State
  | .zdo command => RequestProcess.init (F.zdo command).zero
  | .apsde => Apsde.init
  | .commissioning => Commissioning.init F.stack zboss restored
  | .atOnce => world
  | .reset => ()
  | .signals => ()

def run (F : Firmware) (world : F.World) (zboss : F.Zboss) (restored safeMode : Bool)
    (labels : List (Label F)) : Books F :=
  labels.foldl (step safeMode)
    { state := { members := init F world zboss restored, lost := 0 }, received := [], sent := [] }

-- The requests that sit in a slot
def held (b : Books F) : Credits := (parts F).held b.state.members

end EspCoordinator.Device
