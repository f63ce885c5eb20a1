import EspCoordinator.Immediate

-- The way of a command through zb_ncp
namespace EspCoordinator.ZbNcp

open Bytes
open Immediate (GENERIC_BLOCKED GENERIC_NOT_IMPLEMENTED)

def frameType (byte : UInt8) : Option FrameType :=
  [FrameType.request, FrameType.response, FrameType.indication].find? fun type =>
    type.toByte == byte

-- The cmd_t in front of the data. A type that is none of frame_type_t is
-- turned down like INDICATION.
def readCmd (data : List UInt8) : Option Cmd :=
  (frameType (data.getD 1 0)).map fun type =>
    { version := data.getD 0 0
      type
      commandId := UInt16.ofNat (ofLE ((data.drop 2).take 2))
      tsn := data.getD 4 0 }

-- cmd_handle<Name>::process for every command: what the handler makes of the
-- state, and what it hands to send_cmd_data before it returns.
abbrev Handlers (σ : Type*) := CommandId → σ → Cmd → List UInt8 → σ × List (List UInt8)

def statusReply (cmd : Cmd) (status : UInt8) : List UInt8 :=
  cmd.reply.bytes ++ [STATUS_CATEGORY_GENERIC, status]

variable {σ : Type*}

-- on_rx_data in the boot guard's safe mode
def onRxDataSafe (handlers : Handlers σ) (s : σ) (cmd : Cmd) (buf : List UInt8) :
    σ × List (List UInt8) :=
  if cmd.type ≠ .request then (s, [])
  else
    match CommandId.find cmd.commandId with
    | some .getModuleVersion => handlers .getModuleVersion s cmd buf
    | some .ncpReset => handlers .ncpReset s cmd buf
    | _ => (s, [statusReply cmd GENERIC_BLOCKED])

def onRxData (safeMode : Bool) (handlers : Handlers σ) (s : σ) (data : List UInt8) :
    σ × List (List UInt8) :=
  if data.length < CMD_SIZE then (s, [])
  else
    match readCmd data with
    | none => (s, [])
    | some cmd =>
        let buf := data.drop CMD_SIZE
        if safeMode then onRxDataSafe handlers s cmd buf
        else if cmd.type ≠ .request ∧ cmd.type ≠ .response then (s, [])
        else
          match CommandId.find cmd.commandId with
          | some id => handlers id s cmd buf
          | none => (s, [statusReply cmd GENERIC_NOT_IMPLEMENTED])

-- sizeof(buffer) in indication
def INDICATION_BUFFER_SIZE : Nat := 512

-- What indication hands to send_data.
def indication (cmd : CommandId) (data : List UInt8) : Option (List UInt8) :=
  if data.length + 4 > INDICATION_BUFFER_SIZE then none
  else some ([0, FrameType.indication.toByte] ++ toLE 2 cmd.value.toNat ++ data)

-- The commands that indication is called with.
def indications : List CommandId :=
  [.zdoDevAnnceInd, .nwkLeaveInd, .zdoDevUpdateInd, .zdoDevAuthorizedInd, .apsdeDataInd]

theorem frameType_toByte (type : FrameType) : frameType type.toByte = some type := by
  cases type <;> rfl

theorem readCmd_bytes (cmd : Cmd) (buf : List UInt8) : readCmd (cmd.bytes ++ buf) = some cmd := by
  obtain ⟨version, type, commandId, tsn⟩ := cmd
  have hid : UInt16.ofNat (ofLE (toLE 2 commandId.toNat)) = commandId := by
    rw [ofLE_toLE _ _ commandId.toNat_lt, UInt16.ofNat_toNat]
  simp only [readCmd, Cmd.bytes, toLE, List.cons_append, List.nil_append, List.getD_cons_zero,
    List.getD_cons_succ, List.drop_succ_cons, List.drop_zero, List.take_succ_cons, List.take_zero,
    frameType_toByte, Option.map_some]
  simp only [toLE] at hid
  rw [hid]

theorem length_indication {cmd : CommandId} {data payload : List UInt8}
    (h : indication cmd data = some payload) : payload.length ≤ INDICATION_BUFFER_SIZE := by
  rw [indication] at h
  split at h
  · cases h
  · cases h
    simp only [List.length_append, List.length_cons, List.length_nil, length_toLE]
    omega

-- A handler table in which some commands are answered before process returns.
structure Service (σ : Type*) where
  handlers : Handlers σ
  atOnce : CommandId → Bool
  -- process_immediate
  processImmediate : CommandId → σ → List UInt8 → σ × List UInt8
  process_eq : ∀ id s cmd buf, atOnce id = true → handlers id s cmd buf =
    ((processImmediate id s buf).1, [cmd.reply.bytes ++ (processImmediate id s buf).2])
  fits : ∀ id s buf, atOnce id = true → (processImmediate id s buf).2.length ≤ 2034

namespace Service

variable (S : Service σ) (safeMode : Bool)

-- In safe mode only two commands reach their handlers.
def reaches (id : CommandId) : Bool := !safeMode || id == .getModuleVersion || id == .ncpReset

def served (commandId : UInt16) : Bool :=
  match CommandId.find commandId with
  | some id => !reaches safeMode id || S.atOnce id
  | none => true

-- A request answered by a direct call.
def call (s : σ) (commandId : UInt16) (payload : List UInt8) : σ × List UInt8 :=
  match CommandId.find commandId with
  | some id =>
      if reaches safeMode id then S.processImmediate id s payload
      else (s, [STATUS_CATEGORY_GENERIC, GENERIC_BLOCKED])
  | none =>
      (s, [STATUS_CATEGORY_GENERIC, if safeMode then GENERIC_BLOCKED else GENERIC_NOT_IMPLEMENTED])

variable {S safeMode}

theorem onRxData_request (cmd : Cmd) (htype : cmd.type = .request)
    (hserved : S.served safeMode cmd.commandId = true) (s : σ) (payload : List UInt8) :
    onRxData safeMode S.handlers s (cmd.bytes ++ payload) =
      ((S.call safeMode s cmd.commandId payload).1,
        [cmd.reply.bytes ++ (S.call safeMode s cmd.commandId payload).2]) := by
  have hlen : ¬(cmd.bytes ++ payload).length < CMD_SIZE := by
    rw [List.length_append, Cmd.length_bytes]
    omega
  have hbuf : (cmd.bytes ++ payload).drop CMD_SIZE = payload := by
    rw [← cmd.length_bytes, List.drop_left]
  rw [onRxData, if_neg hlen, readCmd_bytes]
  simp only [hbuf, onRxDataSafe, htype]
  unfold served at hserved
  unfold call
  cases hfind : CommandId.find cmd.commandId with
  | none => cases safeMode <;> rfl
  | some id =>
      simp only [hfind] at hserved ⊢
      cases safeMode with
      | false => exact S.process_eq id s cmd payload (by simpa [reaches] using hserved)
      | true =>
          by_cases hreach : reaches true id = true
          · have honce : S.atOnce id = true := by simpa [hreach] using hserved
            have hid : id = .getModuleVersion ∨ id = .ncpReset := by
              simpa [reaches] using hreach
            rw [if_pos hreach]
            rcases hid with rfl | rfl
            · exact S.process_eq _ s cmd payload honce
            · exact S.process_eq _ s cmd payload honce
          · rw [if_neg hreach]
            cases id <;> first | rfl | exact absurd rfl hreach

theorem length_call {commandId : UInt16} (hserved : S.served safeMode commandId = true) (s : σ)
    (payload : List UInt8) : (S.call safeMode s commandId payload).2.length ≤ 2034 := by
  unfold served at hserved
  unfold call
  cases hfind : CommandId.find commandId with
  | none => simp
  | some id =>
      simp only [hfind] at hserved ⊢
      by_cases hreach : reaches safeMode id = true
      · rw [if_pos hreach]
        exact S.fits id s payload (by simpa [hreach] using hserved)
      · rw [if_neg hreach]
        simp

end Service

end EspCoordinator.ZbNcp
