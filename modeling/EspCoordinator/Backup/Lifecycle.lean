import EspCoordinator.Backup
import EspCoordinator.Lib.Run

namespace EspCoordinator.Backup.Lifecycle

open Restore (Status)

-- A RESTORE_STRUCTURED_BACKUP request, in the order of arrival.
structure Request where
  number : Nat
  inbuffer : List UInt8
deriving DecidableEq

-- Where process_immediate is.
inductive Stage where
  | entered
  -- the header is accepted
  | checked
  | opened
  -- nvs_set_blob has succeeded, the commit is to come
  | set
  | committed
  | replying (status : Status)
deriving DecidableEq

inductive Phase where
  -- before apply_pending_restore
  | booting
  -- apply_pending_restore has the blob in memory
  | loaded (request : Request)
  -- and has erased it
  | erased (request : Request)
  | running
  | handling (request : Request) (stage : Stage)
deriving DecidableEq

-- The blob comes with the request that stored it, and the history with what
-- was answered and what was replayed.
structure State (size : Nat) where
  tlv : Option Request
  zb : Option (Nor size)
  reboots : Nat
  phase : Phase
  -- the number of the request in hand, or else of the next one
  next : Nat
  answers : List (Request × Status)
  replayed : List Request
deriving DecidableEq

variable {size : Nat}

def init (zb : Option (Nor size)) : State size :=
  { tlv := none, zb, reboots := 0, phase := .booting, next := 0, answers := [], replayed := [] }

def State.device (s : State size) : Device size :=
  { tlv := s.tlv.map Request.inbuffer, zb := s.zb, reboots := s.reboots }

inductive Label (size : Nat) where
  | request (inbuffer : List UInt8)
  | checkHeader
  | nvsOpen (ok : Bool)
  | setBlob (w : NvsWrite)
  | commit (w : NvsWrite)
  | eraseZb (o : Nor.Outcome size)
  | reply
  -- A reset at any moment. A blob that was set may have reached the flash, and
  -- a wipe that was under way leaves zb_storage as it is then.
  | crash (flushed : Bool) (left : Nor size)
  -- nvs_flash_init does not find a usable partition
  | eraseNvs
  | load (o : BootOutcomes)
  | dropBlob (erased : Bool)
  | replay

def HeaderOk (inbuffer : List UInt8) : Prop :=
  HEADER_SIZE ≤ inbuffer.length ∧ (header inbuffer).magic = MAGIC ∧
    (header inbuffer).version = VERSION ∧
    HEADER_SIZE + (header inbuffer).payloadLen ≤ inbuffer.length

instance (inbuffer : List UInt8) : Decidable (HeaderOk inbuffer) :=
  inferInstanceAs (Decidable (_ ∧ _))

def State.at (s : State size) (request : Request) (stage : Stage) : State size :=
  { s with phase := .handling request stage }

def step (s : State size) (label : Label size) : Option (State size) :=
  match s.phase, label with
  | .running, .request inbuffer => some (s.at { number := s.next, inbuffer } .entered)
  | .handling request .entered, .checkHeader =>
      if HeaderOk request.inbuffer then some (s.at request .checked)
      else some (s.at request (.replying .invalidParameter))
  | .handling request .checked, .nvsOpen ok =>
      if ok then some (s.at request .opened)
      else some (s.at request (.replying .operationFailed))
  | .handling request .opened, .setBlob w =>
      match w.apply s.tlv (some request) with
      | (_, true) => some (s.at request .set)
      | (tlv, false) => some ({ s with tlv }.at request (.replying .operationFailed))
  | .handling request .set, .commit w =>
      match w.apply s.tlv (some request) with
      | (tlv, true) => some ({ s with tlv }.at request .committed)
      | (tlv, false) => some ({ s with tlv }.at request (.replying .operationFailed))
  | .handling request .committed, .eraseZb o =>
      match eraseStorage { (.done : Outcomes size) with eraseZb := o } s.zb with
      | (zb, true) =>
          some ({ s with zb, reboots := s.reboots + 1 }.at request (.replying .ok))
      | (zb, false) => some ({ s with zb }.at request (.replying .operationFailed))
  | .handling request (.replying status), .reply =>
      some { s with
        phase := .running, next := s.next + 1, answers := s.answers ++ [(request, status)] }
  | phase, .crash flushed left =>
      let s := { s with phase := .booting, reboots := 0, next := s.next + 1 }
      match phase with
      | .handling request .set => some { s with tlv := if flushed then some request else s.tlv }
      | .handling _ .committed => some { s with zb := s.zb.map fun _ => left }
      | _ => some s
  | .booting, .eraseNvs => some { s with tlv := none }
  | .booting, .load o =>
      match s.tlv with
      | none => some { s with phase := .running }
      | some request =>
          if !o.nvsOpen then some { s with phase := .running }
          else if !o.blobSize ∨ request.inbuffer.length < HEADER_SIZE then
            some { s with phase := .running }
          else if !o.malloc then some { s with phase := .running }
          else if !o.getBlob then some { s with phase := .running }
          else some { s with phase := .loaded request }
  | .loaded request, .dropBlob erased =>
      some { s with tlv := if erased then none else s.tlv, phase := .erased request }
  | .erased request, .replay =>
      if HeaderOk request.inbuffer then
        some { s with phase := .running, replayed := s.replayed ++ [request] }
      else some { s with phase := .running }
  | _, _ => none

end EspCoordinator.Backup.Lifecycle
