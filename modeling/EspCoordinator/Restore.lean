import EspCoordinator.Lib.Bytes
import EspCoordinator.Lib.Nor

namespace EspCoordinator.Restore

open Bytes

-- The two partitions of the network backup, as esp_partition_find_first
-- reports them. Their sizes are far below the 32 bits they are kept in.
structure Layout where
  nvsSize : Nat
  zbSize : Nat
  found : Bool
  fits : nvsSize + zbSize + 0x2000 < 2 ^ 32

def Layout.capacity (L : Layout) : Nat := L.nvsSize + L.zbSize

inductive Status where
  | ok
  | invalidParameter
  | operationFailed
  | invalidState
deriving DecidableEq, Repr

-- restore_session_t
structure Session where
  nextOffset : Nat
  totalSize : Nat
  active : Bool
deriving DecidableEq, Repr

structure Device (L : Layout) where
  nvs : Nor L.nvsSize
  zb : Nor L.zbSize
  session : Session
  -- s_restore_img
  img : Option (List UInt8)
  flashDirty : Bool
  rebootPending : Bool
  -- the reboot tasks created this boot
  reboots : Nat
deriving DecidableEq

-- How the calls out of one request end: malloc and the five partition calls
-- it can make.
structure Outcomes (L : Layout) where
  malloc : Bool
  eraseNvs : Nor.Outcome L.nvsSize
  eraseZb : Nor.Outcome L.zbSize
  writeNvs : Nor.Outcome L.nvsSize
  writeZb : Nor.Outcome L.zbSize
  wipeZb : Nor.Outcome L.zbSize

-- A memcpy into s_restore_img.
structure Copy where
  offset : Nat
  length : Nat
deriving DecidableEq, Repr

structure Result (L : Layout) where
  device : Device L
  status : Status
  copies : List Copy

variable {L : Layout}

def boot (nvs : Nor L.nvsSize) (zb : Nor L.zbSize) : Device L :=
  { nvs, zb, session := { nextOffset := 0, totalSize := 0, active := false }, img := none,
    flashDirty := false, rebootPending := false, reboots := 0 }

def restoreFreeBuf (d : Device L) : Device L := { d with img := none }

def restoreScheduleReboot (d : Device L) : Device L :=
  if d.rebootPending then d else { d with rebootPending := true, reboots := d.reboots + 1 }

def closeSession (d : Device L) : Device L :=
  { d with session := { d.session with active := false } }

def restoreFail (d : Device L) (status : Status) : Result L :=
  let d := closeSession (restoreFreeBuf d)
  { device := if d.flashDirty then restoreScheduleReboot d else d, status, copies := [] }

def ZB_NVRAM_PAGE_SZ : Nat := 0x2000
def ZB_NVRAM_PAGE_MAGIC : Nat := 0x001e0040

def field (img : List UInt8) (pos width : Nat) : Nat := ofLE ((img.drop pos).take width)

-- The versions at 0x08 and 0x10 are only logged.
def zbNvramPageClass (p : List UInt8) : Nat :=
  let magic := field p 0x04 4
  if magic ≠ ZB_NVRAM_PAGE_MAGIC then 0
  else
    let seq := field p 0x40 4
    let rlen := field p 0x44 2
    let rtype := field p 0x46 2
    if seq = 0xffffffff ∨ rlen = 0xffff then 1
    else if rlen = 0 ∨ rlen > ZB_NVRAM_PAGE_SZ then 0
    else if rtype ≥ 64 then 0
    else 2

-- The pages start at the multiples of the page size that leave room for one.
def zbStorageImageOk (img : List UInt8) (size : Nat) : Bool :=
  (List.range (size / ZB_NVRAM_PAGE_SZ)).any fun page =>
    zbNvramPageClass (img.drop (page * ZB_NVRAM_PAGE_SZ)) ≥ 2

structure Request where
  offset : Nat
  totalSize : Nat
  chunk : List UInt8
deriving DecidableEq, Repr

-- inlen is a 32-bit size_t, so the length of the chunk needs no truncation.
def parse (inbuffer : List UInt8) : Option Request :=
  if inbuffer.length < 8 then none
  else
    some
      { offset := field inbuffer 0 4
        totalSize := field inbuffer 4 4
        chunk := inbuffer.drop 8 }

-- The request at offset 0: buffer the image if there is memory for it, else
-- erase both partitions and stream.
def openSession (o : Outcomes L) (d : Device L) (totalSize : Nat) :
    Except (Result L) (Device L) :=
  let session := { nextOffset := 0, totalSize, active := true }
  let d := restoreFreeBuf d
  if o.malloc then
    .ok { d with img := some (List.replicate L.capacity 0xff), session }
  else
    let (nvs, erNvs) := Nor.erase o.eraseNvs
    let (zb, erZb) := Nor.erase o.eraseZb
    let d := { d with flashDirty := true, nvs, zb }
    if !erNvs || !erZb then .error (restoreFail d .operationFailed)
    else .ok { d with session }

def memcpy (img : List UInt8) (offset : Nat) (chunk : List UInt8) : List UInt8 :=
  img.take offset ++ (chunk ++ img.drop (offset + chunk.length))

-- A chunk may lie across the boundary of the two partitions.
def streamChunk (o : Outcomes L) (nvs : Nor L.nvsSize) (zb : Nor L.zbSize) (offset : Nat)
    (chunk : List UInt8) : Nor L.nvsSize × Nor L.zbSize × Bool :=
  if offset < L.nvsSize then
    let writeLen := if offset + chunk.length > L.nvsSize then L.nvsSize - offset else chunk.length
    let (nvs, we) := nvs.program o.writeNvs offset (chunk.take writeLen)
    if we && writeLen < chunk.length then
      let (zb, we) := zb.program o.writeZb 0 (chunk.drop writeLen)
      (nvs, zb, we)
    else (nvs, zb, we)
  else
    let (zb, we) := zb.program o.writeZb (offset - L.nvsSize) chunk
    (nvs, zb, we)

def storeChunk (o : Outcomes L) (d : Device L) (offset : Nat) (chunk : List UInt8) :
    Except (Result L) (Device L × List Copy) :=
  if chunk.length > 0 then
    match d.img with
    | some img =>
        .ok ({ d with img := some (memcpy img offset chunk) }, [{ offset, length := chunk.length }])
    | none =>
        let (nvs, zb, we) := streamChunk o d.nvs d.zb offset chunk
        let d := { d with nvs, zb }
        if !we then .error (restoreFail d .operationFailed) else .ok (d, [])
  else .ok (d, [])

-- Both halves of the gated image go to flash. When that fails, a torn
-- zb_storage must not be left for the next boot.
def commitFlash (o : Outcomes L) (img : List UInt8) : Nor L.nvsSize × Nor L.zbSize × Bool :=
  let (nvs, e1) := Nor.erase o.eraseNvs
  let (zb, e2) := Nor.erase o.eraseZb
  let (nvs, e3) := if e1 then nvs.program o.writeNvs 0 (img.take L.nvsSize) else (nvs, false)
  let (zb, e4) :=
    if e2 then zb.program o.writeZb 0 ((img.drop L.nvsSize).take L.zbSize) else (zb, false)
  if !e3 || !e4 then (nvs, (Nor.erase o.wipeZb).1, false) else (nvs, zb, true)

def commit (o : Outcomes L) (d : Device L) (img : List UInt8) (copies : List Copy) : Result L :=
  let (nvs, zb, written) := commitFlash o img
  let d := restoreFreeBuf { d with flashDirty := true, nvs, zb }
  { device := restoreScheduleReboot d
    status := if written then .ok else .operationFailed
    copies }

def finish (o : Outcomes L) (d : Device L) (copies : List Copy) : Result L :=
  let d := closeSession d
  match d.img with
  | some img =>
      if !zbStorageImageOk (img.drop L.nvsSize) L.zbSize then
        { restoreFail d .operationFailed with copies }
      else commit o d img copies
  | none => { device := restoreScheduleReboot d, status := .ok, copies }

def advance (d : Device L) (nextOffset : Nat) : Device L :=
  { d with session := { d.session with nextOffset } }

def acceptChunk (o : Outcomes L) (d : Device L) (offset : Nat) (chunk : List UInt8) : Result L :=
  match storeChunk o d offset chunk with
  | .error result => result
  | .ok (d, copies) =>
      let d := advance d (offset + chunk.length)
      if d.session.nextOffset ≥ d.session.totalSize then finish o d copies
      else { device := d, status := .ok, copies }

def processRequest (o : Outcomes L) (d : Device L) (req : Request) : Result L :=
  if !L.found then restoreFail d .operationFailed
  else if req.totalSize ≠ L.capacity then restoreFail d .invalidParameter
  else if req.offset > L.capacity ∨ req.chunk.length > L.capacity - req.offset then
    restoreFail d .invalidParameter
  else if req.offset = 0 then
    match openSession o d req.totalSize with
    | .error result => result
    | .ok d => acceptChunk o d req.offset req.chunk
  else if !d.session.active then restoreFail d .invalidState
  else if req.offset ≠ d.session.nextOffset then restoreFail d .invalidParameter
  else acceptChunk o d req.offset req.chunk

def processImmediate (o : Outcomes L) (d : Device L) (inbuffer : List UInt8) : Result L :=
  match parse inbuffer with
  | none => restoreFail d .invalidParameter
  | some req => processRequest o d req

end EspCoordinator.Restore
