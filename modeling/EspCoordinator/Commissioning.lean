import EspCoordinator.Lib.Run
import EspCoordinator.NwkFormation
import EspCoordinator.ZbNcp

-- How a boot that is not in safe mode comes up, and the two commands whose
-- answer is left to a signal of the stack
namespace EspCoordinator.Commissioning

open NwkFormation (Zboss Settings Network)
open Requests (Frame Answer)

-- The calls into the stack that NWK_FORMATION does not make.
structure Stack (σ : Type) extends Zboss σ where
  lawful : toZboss.Lawful
  -- bdb_start_top_level_commissioning with ZB_BDB_INITIALIZATION
  bdbInitialization : σ → σ
  -- zb_nvram_write_dataset with ZB_IB_COUNTERS
  writeCounters : σ → σ

def Stack.plain : Stack Settings :=
  { NwkFormation.plain with
    lawful := NwkFormation.lawful_plain
    bdbInitialization := id
    writeCounters := id }

-- The stack and, which is not in the code, what it has been asked to form:
-- whether it has accepted a formation since it was done with the last one, and
-- the settings that each call has found.
structure Tracked (σ : Type) where
  stack : σ
  owed : Bool
  formations : List Settings

variable {σ : Type}

def tracked (z : Zboss σ) : Zboss (Tracked σ) where
  setChannelMask mask t := { t with stack := z.setChannelMask mask t.stack }
  setBdbPrimaryChannelSet mask t := { t with stack := z.setBdbPrimaryChannelSet mask t.stack }
  setBdbSecondaryChannelSet mask t := { t with stack := z.setBdbSecondaryChannelSet mask t.stack }
  setExtendedPanId extendedPanId t := { t with stack := z.setExtendedPanId extendedPanId t.stack }
  bdbStartTopLevelCommissioning t :=
    let (ok, stack) := z.bdbStartTopLevelCommissioning t.stack
    (ok, { stack, owed := t.owed || ok, formations := t.formations ++ [z.settings t.stack] })
  settings t := z.settings t.stack
  network t := z.network t.stack
  kept := z.kept

inductive Sent where
  -- the ACK of start_int
  | wakeUp
  -- send_boot_ready_frame
  | bootReady
  | formation (answer : Answer)
  | start (answer : Answer)
  | indication (payload : List UInt8)
deriving DecidableEq, Repr

-- A run of continue_zboss: the mask that it has found, and the settings of the
-- formations that the stack has been asked for since.
structure Continued where
  channelsMask : UInt32
  formations : List Settings
deriving DecidableEq, Repr

structure State (σ : Type) where
  -- m_channels_mask, s_init_flag and the slot of NWK_FORMATION
  formation : NwkFormation.State (Tracked σ)
  -- the slot of NWK_START_WITHOUT_FORMATION
  startCmd : Option Cmd
  -- s_restore_applied
  restoreApplied : Bool
  -- callbacks of continue_zboss that are scheduled
  scheduled : Nat
  -- zb_af_set_data_indication has been called
  dataIndication : Bool
  sent : List Sent
  -- The requests of both commands, those that the slots were last taken by,
  -- and the runs of continue_zboss. None of them is in the code.
  requests : List Cmd
  owner : Nat
  starts : List Cmd
  startOwner : Nat
  continued : List Continued

-- sizeof(int) is four, and the status is written to one byte.
def statusByte (status : Int) : UInt8 := UInt8.ofNat (status % 256).toNat

-- finish_delayed for what a signal carries
def finishDelayed (z : Zboss σ) (s : NwkFormation.State σ) (status : Int) : List UInt8 :=
  let network := if status = 0 then z.network s.zboss else ⟨0, 0, 0⟩
  [NwkFormation.STATUS_CATEGORY_NWK, statusByte status] ++
    Bytes.toLE 2 network.shortAddress.toNat ++ Bytes.toLE 2 network.panId.toNat ++
    [0, network.currentChannel]

-- cmd_handle<NWK_FORMATION>::response in zboss_signal_handler
def formationResponse (z : Zboss σ) (s : NwkFormation.State σ) (status : Int) :
    NwkFormation.State σ × List Frame :=
  match s.cmd with
  | some savedCmd =>
      ({ s with cmd := none }, [{ cmd := savedCmd.reply, data := finishDelayed z s status }])
  | none => (s, [])

def answers (request : Nat) (frames : List Frame) : List Answer :=
  frames.map fun frame => { request, frame }

def nwkFormation (z : Stack σ) (s : State σ) (cmd : Cmd) (buffer : List UInt8) : State σ :=
  let request := s.requests.length
  let (formation, frames) := NwkFormation.process (tracked z.toZboss) s.formation cmd buffer
  { s with
      formation
      sent := s.sent ++ (answers request frames).map .formation
      requests := s.requests ++ [cmd]
      owner := if s.formation.cmd = none then request else s.owner }

-- cmd_handle<NWK_START_WITHOUT_FORMATION>::response
def startResponse (s : State σ) (status : UInt8) : State σ :=
  match s.startCmd with
  | some savedCmd =>
      let frame : Frame :=
        { cmd := savedCmd.reply, data := [NwkFormation.STATUS_CATEGORY_NWK, status] }
      { s with
          startCmd := none
          sent := s.sent ++ [.start { request := s.startOwner, frame }] }
  | none => s

def nwkStartWithoutFormation (s : State σ) (cmd : Cmd) : State σ :=
  let request := s.starts.length
  let s := { s with starts := s.starts ++ [cmd] }
  match s.startCmd with
  | some _ =>
      let busy : Frame :=
        { cmd := cmd.reply, data := [STATUS_CATEGORY_GENERIC, NwkFormation.GENERIC_BUSY] }
      { s with sent := s.sent ++ [.start { request, frame := busy }] }
  | none =>
      let (formation, started) := NwkFormation.startZigbeeStack s.formation
      let s := { s with startCmd := some cmd, startOwner := request, formation }
      if started then s else startResponse s 0

inductive Signal where
  | skipStartup
  -- ZB_BDB_SIGNAL_DEVICE_FIRST_START and ZB_BDB_SIGNAL_DEVICE_REBOOT
  | deviceFirstStart
  | deviceReboot
  | formation
  -- the signals whose handlers are not about commissioning
  | other
deriving DecidableEq, Repr

def setZboss (s : State σ) (zboss : Tracked σ) : State σ :=
  { s with formation := { s.formation with zboss } }

def signalFormation (z : Stack σ) (s : State σ) (status : Int) : State σ :=
  let (formation, frames) := formationResponse (tracked z.toZboss) s.formation status
  let zboss := { formation.zboss with owed := false }
  let zboss :=
    if status = 0 ∧ s.restoreApplied then
      { zboss with stack := z.writeCounters zboss.stack }
    else zboss
  { s with
      formation := { formation with zboss }
      sent := s.sent ++ (answers s.owner frames).map .formation }

def signalHandler (z : Stack σ) (s : State σ) (status : Int) : Signal → State σ
  | .skipStartup => { s with scheduled := s.scheduled + 1 }
  | .deviceFirstStart => startResponse s (if status = 0 then 0 else 1)
  | .deviceReboot => startResponse s (if status = 0 then 0 else 1)
  | .formation => signalFormation z s status
  | .other => s

def setChannelMask (z : Stack σ) (s : State σ) (mask : UInt32) : State σ :=
  { s with formation := NwkFormation.setChannelMask (tracked z.toZboss) mask s.formation }

def continueZboss (z : Stack σ) (s : State σ) : State σ :=
  let s := { s with sent := s.sent ++ [.bootReady], dataIndication := true }
  let commission := (tracked z.toZboss).bdbStartTopLevelCommissioning
  if s.formation.cmd ≠ none then
    let s := setChannelMask z s s.formation.channelsMask
    let (res, zboss) := commission s.formation.zboss
    let s := setZboss s zboss
    if res then s
    else
      let (formation, frames) :=
        NwkFormation.response (tracked z.toZboss) s.formation GENERIC_ERROR
      { s with formation, sent := s.sent ++ (answers s.owner frames).map .formation }
  else if s.restoreApplied then
    let s := setChannelMask z s s.formation.channelsMask
    setZboss s (commission s.formation.zboss).2
  else
    let zboss := s.formation.zboss
    setZboss s { zboss with stack := z.bdbInitialization zboss.stack }

-- What the stack has been asked for between the two states
def Continued.between (s next : State σ) : Continued :=
  { channelsMask := s.formation.channelsMask
    formations := next.formation.zboss.formations.drop s.formation.zboss.formations.length }

inductive Label (σ : Type) where
  | nwkFormation (cmd : Cmd) (buffer : List UInt8)
  | nwkStartWithoutFormation (cmd : Cmd)
  -- SET_ZIGBEE_CHANNEL_MASK
  | setChannelMask (mask : UInt32)
  | signal (signal : Signal) (status : Int)
  -- a callback that was scheduled
  | continueZboss
  -- a frame that data_indication forwards
  | dataIndication (data : List UInt8)
  -- the stack at work
  | stack (stack : σ)

-- A step that is not enabled changes nothing.
def step (z : Stack σ) (s : State σ) : Label σ → State σ
  | .nwkFormation cmd buffer => nwkFormation z s cmd buffer
  | .nwkStartWithoutFormation cmd => nwkStartWithoutFormation s cmd
  | .setChannelMask mask => setChannelMask z s mask
  | .signal signal status => signalHandler z s status signal
  | .continueZboss =>
      if s.scheduled = 0 then s
      else
        let next := continueZboss z { s with scheduled := s.scheduled - 1 }
        { next with continued := s.continued ++ [.between s next] }
  | .dataIndication data =>
      if s.dataIndication then
        { s with
            sent := s.sent ++ ((ZbNcp.indication .apsdeDataInd data).map .indication).toList }
      else s
  | .stack stack => setZboss s { s.formation.zboss with stack }

-- init_int and start_int up to the event pump
def init (z : Stack σ) (stack : σ) (restoreApplied : Bool) : State σ :=
  let formation : NwkFormation.State (Tracked σ) :=
    { channelsMask := (z.settings stack).channelMask
      initFlag := false
      cmd := none
      zboss := { stack, owed := false, formations := [] } }
  { formation := (NwkFormation.startZigbeeStack formation).1
    startCmd := none
    restoreApplied
    scheduled := 0
    dataIndication := false
    sent := [.wakeUp]
    requests := []
    owner := 0
    starts := []
    startOwner := 0
    continued := [] }

def run (z : Stack σ) (stack : σ) (restoreApplied : Bool) (labels : List (Label σ)) : State σ :=
  labels.foldl (step z) (init z stack restoreApplied)

def Sent.toFormation : Sent → Option Answer
  | .formation answer => some answer
  | _ => none

def Sent.toStart : Sent → Option Answer
  | .start answer => some answer
  | _ => none

def State.formationAnswers (s : State σ) : List Answer := s.sent.filterMap Sent.toFormation

def State.startAnswers (s : State σ) : List Answer := s.sent.filterMap Sent.toStart

-- The host sees no data of the network before it has seen that the NCP is up.
def Ordered (sent : List Sent) : Prop :=
  ∀ past payload, past ++ [.indication payload] <+: sent → Sent.bootReady ∈ past

def Label.isSkipStartup : Label σ → Bool
  | .signal s _ => s == .skipStartup
  | _ => false

-- Each request of NWK_START_WITHOUT_FORMATION answered at once
def startReplies (starts : List Cmd) : List Answer :=
  starts.mapIdx fun request cmd =>
    { request, frame := { cmd := cmd.reply, data := [NwkFormation.STATUS_CATEGORY_NWK, 0] } }

-- A formation that continue_zboss has started runs on m_channels_mask, whatever
-- the stack had made of the channel sets before.
def Continued.Masked (z : Stack σ) (k : Continued) : Prop :=
  ∀ settings ∈ k.formations, settings.channelMask = z.kept k.channelsMask ∧
    settings.bdbPrimaryChannelSet = z.kept k.channelsMask ∧
    settings.bdbSecondaryChannelSet = z.kept k.channelsMask

-- The requests of NWK_FORMATION, with its slot as the only place.
def book (requests : List Cmd) (cmd : Option Cmd) (owner : Nat) (answers : List Answer) :
    Lease.Book Unit :=
  { next := requests.length
    holder := fun _ => cmd.map fun _ => owner
    answered := answers.map Answer.request }

end EspCoordinator.Commissioning
