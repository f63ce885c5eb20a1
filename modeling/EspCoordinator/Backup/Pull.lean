import EspCoordinator.Backup.Snapshot
import EspCoordinator.Backup.Web

-- GET_NETWORK_BACKUP as it counts, in 32 bits, and the page that pulls the image
namespace EspCoordinator.Backup.Pull

open Bytes
open Restore (field)
open Snapshot (Reading State)
open Web (Error getUint)

inductive Part where
  | nvs
  | zb
deriving DecidableEq, Repr

-- What the two partitions hold, up to the largest sizes that still leave room
-- for a chunk.
structure Flash where
  nvs : List UInt8
  zb : List UInt8
  fits : nvs.length + zb.length + 128 < 2 ^ 32

namespace Flash

def part (f : Flash) : Part → List UInt8
  | .nvs => f.nvs
  | .zb => f.zb

def size (f : Flash) (part : Part) : UInt32 := UInt32.ofNat (f.part part).length

def totalSize (f : Flash) : UInt32 := f.size .nvs + f.size .zb

def image (f : Flash) : List UInt8 := f.nvs ++ f.zb

-- What a host wants to have at `offset`.
def chunkAt (f : Flash) (offset : Nat) : List UInt8 := (f.image.drop offset).take 128

end Flash

structure Coordinator where
  flash : Flash
  found : Bool
  joined : Bool
  panId : UInt16

-- A call of esp_partition_read.
structure Read where
  part : Part
  offset : UInt32
  size : UInt32
deriving DecidableEq, Repr

def Read.Inside (f : Flash) (read : Read) : Prop :=
  read.offset.toNat + read.size.toNat ≤ (f.part read.part).length

instance (f : Flash) (read : Read) : Decidable (read.Inside f) :=
  inferInstanceAs (Decidable (_ ≤ _))

def Read.bytes (f : Flash) (read : Read) : List UInt8 :=
  ((f.part read.part).drop read.offset.toNat).take read.size.toNat

-- A read that goes beyond the end of its partition is refused.
def partitionRead (f : Flash) (read : Read) : Reading → Option (List UInt8)
  | .done => if read.Inside f then some (read.bytes f) else none
  | .failed _ => none

-- One read behind the other, up to the first that fails: those that were made,
-- and what they gave together.
def readAll (f : Flash) : List (Read × Reading) → List Read × Option (List UInt8)
  | [] => ([], some [])
  | (read, outcome) :: rest =>
      match partitionRead f read outcome with
      | none => ([read], none)
      | some bytes =>
          let later := readAll f rest
          (read :: later.1, later.2.map (bytes ++ ·))

structure Request where
  inbuffer : List UInt8
  outcomes : Snapshot.Outcomes

def Request.offset (r : Request) : UInt32 :=
  if r.inbuffer.length ≥ 4 then UInt32.ofNat (field r.inbuffer 0 4) else 0

structure Response where
  status : UInt8
  totalSize : UInt32
  len : UInt32
  chunk : List UInt8
deriving DecidableEq, Repr

def Response.bytes (response : Response) : List UInt8 :=
  [STATUS_CATEGORY_GENERIC, response.status] ++ toLE 4 response.totalSize.toNat ++
    toLE 4 response.len.toNat ++ response.chunk

def failed (totalSize : UInt32) : Response :=
  { status := GENERIC_OPERATION_FAILED, totalSize, len := 0, chunk := [] }

-- What one request does.
structure Exchange where
  state : State
  reads : List Read
  response : Response

-- The old buffer serves again when its size is right.
def buffer (f : Flash) (s : State) (outcomes : Snapshot.Outcomes) : Bool :=
  match s with
  | some old => if UInt32.ofNat old.length ≠ f.totalSize then outcomes.malloc else true
  | none => outcomes.malloc

def takeSnapshot (f : Flash) (s : State) (outcomes : Snapshot.Outcomes) : List Read × State :=
  if buffer f s outcomes then
    readAll f [({ part := .nvs, offset := 0, size := f.size .nvs }, outcomes.snapshotNvs),
      ({ part := .zb, offset := 0, size := f.size .zb }, outcomes.snapshotZb)]
  else ([], none)

def chunkLen (f : Flash) (offset : UInt32) : UInt32 :=
  if offset ≥ f.totalSize then 0
  else if offset + 128 > f.totalSize then f.totalSize - offset
  else 128

-- The reads of a chunk that is not in the snapshot.
def chunkReads (f : Flash) (offset len : UInt32) (outcomes : Snapshot.Outcomes) :
    List (Read × Reading) :=
  if offset < f.size .nvs then
    let readLen := if offset + len > f.size .nvs then f.size .nvs - offset else len
    ({ part := .nvs, offset, size := readLen }, outcomes.chunkNvs) ::
      if readLen < len then
        [({ part := .zb, offset := 0, size := len - readLen }, outcomes.chunkZb)]
      else []
  else [({ part := .zb, offset := offset - f.size .nvs, size := len }, outcomes.chunkZb)]

-- The chunk of a snapshot that reaches so far.
def fromSnapshot (s : State) (offset len : UInt32) : Option (List UInt8) :=
  match s with
  | some bytes =>
      if offset + len ≤ UInt32.ofNat bytes.length then
        some ((bytes.drop offset.toNat).take len.toNat)
      else none
  | none => none

def readChunk (f : Flash) (s : State) (offset len : UInt32) (outcomes : Snapshot.Outcomes) :
    List Read × Option (List UInt8) :=
  if len > 0 then
    match fromSnapshot s offset len with
    | some chunk => ([], some chunk)
    | none => readAll f (chunkReads f offset len outcomes)
  else ([], some [])

def release (f : Flash) (s : State) (offset len : UInt32) : State :=
  if offset + len ≥ f.totalSize then none else s

def serve (f : Flash) (s : State) (offset : UInt32) (outcomes : Snapshot.Outcomes) : Exchange :=
  let len := chunkLen f offset
  match readChunk f s offset len outcomes with
  | (reads, some chunk) =>
      { state := release f s offset len
        reads
        response := { status := GENERIC_OK, totalSize := f.totalSize, len, chunk } }
  | (reads, none) => { state := s, reads, response := failed f.totalSize }

def processImmediate (c : Coordinator) (s : State) (r : Request) : Exchange :=
  if !c.found then { state := s, reads := [], response := failed 0 }
  else if r.offset = 0 then
    if !c.joined || c.panId == 0xFFFF then { state := none, reads := [], response := failed 0 }
    else
      let opened := takeSnapshot c.flash s r.outcomes
      let served := serve c.flash opened.2 r.offset r.outcomes
      { served with reads := opened.1 ++ served.reads }
  else serve c.flash s r.offset r.outcomes

-- The statics after some requests.
def after (c : Coordinator) (s : State) (requests : List Request) : State :=
  requests.foldl (fun s r => (processImmediate c s r).state) s

-- What doBackup has when its loop is through.
structure Pulled where
  totalSize : Nat
  chunks : List (List UInt8)
deriving DecidableEq, Repr

-- The loop of doBackup, with what its requests meet, or nothing when the fuel
-- does not suffice.
def pull (c : Coordinator) :
    Nat → (Nat → Snapshot.Outcomes) → State → Nat → List (List UInt8) →
      Option (Except Error Pulled)
  | 0, _, _, _, _ => none
  | fuel + 1, outcomes, s, offset, chunks =>
      let exchange := processImmediate c s { inbuffer := toLE 4 offset, outcomes := outcomes 0 }
      let response := exchange.response.bytes
      if response[1]? ≠ some 0 then
        some (.error (.error ("GET_NETWORK_BACKUP failed at offset " ++ toString offset)))
      else
        match getUint response 2 4, getUint response 6 4 with
        | .error thrown, _ => some (.error thrown)
        | .ok _, .error thrown => some (.error thrown)
        | .ok totalSize, .ok chunkLen =>
            if chunkLen > 0 then
              let chunks := chunks ++ [(response.drop 10).take chunkLen]
              let offset := offset + chunkLen
              if offset < totalSize then
                pull c fuel (fun index => outcomes (index + 1)) exchange.state offset chunks
              else some (.ok { totalSize, chunks })
            else some (.ok { totalSize, chunks })

-- raw.set(chunk, ptr)
def set (raw chunk : List UInt8) (ptr : Nat) : Except Error (List UInt8) :=
  if ptr + chunk.length ≤ raw.length then
    .ok (raw.take ptr ++ chunk ++ raw.drop (ptr + chunk.length))
  else .error .rangeError

def setAll (raw : List UInt8) (ptr : Nat) : List (List UInt8) → Except Error (List UInt8)
  | [] => .ok raw
  | chunk :: rest =>
      match set raw chunk ptr with
      | .error thrown => .error thrown
      | .ok raw => setAll raw (ptr + chunk.length) rest

def Pulled.raw (pulled : Pulled) : Except Error (List UInt8) :=
  setAll (List.replicate pulled.totalSize 0) 0 pulled.chunks

def doBackup (c : Coordinator) (fuel : Nat) (outcomes : Nat → Snapshot.Outcomes) (s : State) :
    Option (Except Error (List UInt8)) :=
  (pull c fuel outcomes s 0 []).map (·.bind Pulled.raw)

end EspCoordinator.Backup.Pull
