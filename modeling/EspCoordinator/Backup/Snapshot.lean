import EspCoordinator.Reply
import EspCoordinator.Restore

-- GET_NETWORK_BACKUP
namespace EspCoordinator.Backup.Snapshot

open Bytes
open Restore (Layout field)
open Memory (Store)

-- How a call of esp_partition_read ends. A call that fails may leave anything
-- in the buffer.
inductive Reading where
  | done
  | failed (left : List UInt8)
deriving DecidableEq, Repr

structure Outcomes where
  malloc : Bool
  -- the two reads of the snapshot, and those of a single chunk
  snapshotNvs : Reading
  snapshotZb : Reading
  chunkNvs : Reading
  chunkZb : Reading
deriving DecidableEq, Repr

-- A request with everything it meets. The handler has the lock of the stack,
-- so nothing of this changes under its hands.
structure Request (L : Layout) where
  inbuffer : List UInt8
  joined : Bool
  panId : UInt16
  nvs : Nor L.nvsSize
  zb : Nor L.zbSize
  outcomes : Outcomes

variable {L : Layout}

def Request.offset (r : Request L) : Nat :=
  if r.inbuffer.length ≥ 4 then field r.inbuffer 0 4 else 0

-- What the two partitions hold.
def Request.image (r : Request L) : List UInt8 := r.nvs.bytes ++ r.zb.bytes

def Request.onNetwork (r : Request L) : Bool := r.joined && r.panId != 0xFFFF

inductive Answer where
  | refused
  | unread (left : List UInt8)
  | served (chunk : List UInt8)
deriving DecidableEq, Repr

-- s_backup_snapshot; its size is s_backup_snapshot_size.
abbrev State := Option (List UInt8)

def partitionRead (bytes : List UInt8) (offset size : Nat) :
    Reading → Except (List UInt8) (List UInt8)
  | .done => .ok ((bytes.drop offset).take size)
  | .failed left => .error (left.take size)

-- Both reads go into the old buffer, when there is one of this size.
def takeSnapshot (s : State) (r : Request L) : State :=
  let buffer := match s with
    | some old => old.length == L.capacity || r.outcomes.malloc
    | none => r.outcomes.malloc
  if buffer then
    match partitionRead r.nvs.bytes 0 L.nvsSize r.outcomes.snapshotNvs,
        partitionRead r.zb.bytes 0 L.zbSize r.outcomes.snapshotZb with
    | .ok nvs, .ok zb => some (nvs ++ zb)
    | _, _ => none
  else none

def chunkLen (L : Layout) (offset : Nat) : Nat :=
  if offset ≥ L.capacity then 0
  else if offset + 128 > L.capacity then L.capacity - offset
  else 128

-- The chunk as the flash has it now.
def readChunk (r : Request L) (offset len : Nat) : Except (List UInt8) (List UInt8) :=
  if offset < L.nvsSize then
    let readLen := if offset + len > L.nvsSize then L.nvsSize - offset else len
    match partitionRead r.nvs.bytes offset readLen r.outcomes.chunkNvs with
    | .error left => .error left
    | .ok first =>
        if readLen < len then
          match partitionRead r.zb.bytes 0 (len - readLen) r.outcomes.chunkZb with
          | .error left => .error (first ++ left)
          | .ok second => .ok (first ++ second)
        else .ok first
  else partitionRead r.zb.bytes (offset - L.nvsSize) len r.outcomes.chunkZb

-- The snapshot goes when the last chunk has been served.
def release (L : Layout) (s : State) (offset len : Nat) : State :=
  if offset + len ≥ L.capacity then none else s

def serve (s : State) (r : Request L) (offset len : Nat) : State × Answer :=
  let direct := match readChunk r offset len with
    | .error left => (s, .unread left)
    | .ok chunk => (release L s offset len, .served chunk)
  if len > 0 then
    match s with
    | some bytes =>
        if offset + len ≤ bytes.length then
          (release L s offset len, .served ((bytes.drop offset).take len))
        else direct
    | none => direct
  else (release L s offset len, .served [])

def processImmediate (s : State) (r : Request L) : State × Answer :=
  if !L.found then (s, .refused)
  else if r.offset = 0 then
    -- the poison-backup guard
    if !r.onNetwork then (none, .refused)
    else serve (takeSnapshot s r) r r.offset (chunkLen L r.offset)
  else serve s r r.offset (chunkLen L r.offset)

-- The statics after some requests since boot.
def after (past : List (Request L)) : State :=
  past.foldl (fun s r => (processImmediate s r).1) none

-- What is written behind cmd_t.
def Answer.reply (L : Layout) : Answer → Reply
  | .refused =>
      { stores := [{ offset := 0, bytes := [STATUS_CATEGORY_GENERIC] },
          { offset := 1, bytes := [GENERIC_OK] }, { offset := 1, bytes := [GENERIC_OPERATION_FAILED] },
          { offset := 2, bytes := toLE 4 0 }, { offset := 6, bytes := toLE 4 0 }]
        outlen := 10 }
  | .unread left =>
      { stores := [{ offset := 0, bytes := [STATUS_CATEGORY_GENERIC] },
          { offset := 1, bytes := [GENERIC_OK] }, { offset := 2, bytes := toLE 4 L.capacity },
          { offset := 10, bytes := left }, { offset := 1, bytes := [GENERIC_OPERATION_FAILED] },
          { offset := 6, bytes := toLE 4 0 }]
        outlen := 10 }
  | .served chunk =>
      { stores := [{ offset := 0, bytes := [STATUS_CATEGORY_GENERIC] },
          { offset := 1, bytes := [GENERIC_OK] }, { offset := 2, bytes := toLE 4 L.capacity },
          { offset := 6, bytes := toLE 4 chunk.length }, { offset := 10, bytes := chunk }]
        outlen := 10 + chunk.length }

end EspCoordinator.Backup.Snapshot
