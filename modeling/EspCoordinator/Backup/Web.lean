import EspCoordinator.Backup

namespace EspCoordinator.Backup.Web

open Bytes
open Restore (field)

-- What the parser throws: an Error of its own, or the RangeError of a DataView.
inductive Error where
  | error (message : String)
  | rangeError
deriving DecidableEq, Repr

structure DeviceEntry where
  nwkAddress : String
  ieeeAddress : String
  isChild : Bool
deriving DecidableEq, Repr

-- A field that was not read is undefined.
structure Structured where
  panId : Option Nat
  extendedPanId : Option (List UInt8)
  channel : Option UInt8
  nwkUpdateId : Option UInt8
  coordinatorIeee : Option (List UInt8)
  networkKey : Option (List UInt8)
  networkKeySeq : Option UInt8
  frameCounter : Option Nat
  devices : List DeviceEntry
deriving DecidableEq, Repr

def Structured.empty : Structured :=
  { panId := none, extendedPanId := none, channel := none, nwkUpdateId := none,
    coordinatorIeee := none, networkKey := none, networkKeySeq := none, frameCounter := none,
    devices := [] }

-- n.toString(16).padStart(width, '0')
def hex (width n : Nat) : String := String.ofList ((Nat.toDigits 16 n).leftpad width '0')

def buf2hex (buf : List UInt8) : String := String.join (buf.map fun b => hex 2 b.toNat)

-- An element of an Uint8Array in a message.
def shown : Option UInt8 → String
  | some b => toString b.toNat
  | none => "undefined"

def getUint (view : List UInt8) (pos width : Nat) : Except Error Nat :=
  if pos + width ≤ view.length then .ok (field view pos width) else .error .rangeError

-- lo | (hi << 8), where an element past the end counts as 0.
def join16 (lo hi : UInt8) : Nat := lo.toNat ||| (hi.toNat <<< 8)

theorem join16_eq (lo hi : UInt8) : join16 lo hi = ofLE [lo, hi] := by
  have hlo : lo.toNat < 2 ^ 8 := lo.toNat_lt
  have hor := Nat.shiftLeft_add_eq_or_of_lt hlo hi.toNat
  rw [join16, Nat.or_comm, ← hor, Nat.shiftLeft_eq]
  simp only [ofLE]
  omega

theorem join16_lt (lo hi : UInt8) : join16 lo hi < 2 ^ 16 := by
  rw [join16_eq]
  exact ofLE_pair_lt lo hi

-- One turn of the loop over the TLVs: slice() cuts a value that runs past the
-- end short.
def scanTlv : List UInt8 → Scan UInt8 Tlv
  | tag :: lo :: hi :: rest =>
      let tlen := join16 lo hi
      .item (Tlv.front tag tlen (join16_lt lo hi) rest) (rest.drop tlen)
  | tail => .wait tail

theorem scanTlv_shrinks {input rest : List UInt8} {t : Tlv}
    (h : scanTlv input = .item t rest) : rest.length < input.length := by
  match input with
  | tag :: lo :: hi :: tail =>
      cases h
      simp only [List.length_drop, List.length_cons]
      omega
  | [] | [_] | [_, _] => cases h

def tlvs : Scanner UInt8 Tlv := { scan := scanTlv, shrinks := scanTlv_shrinks }

def deviceEntry (val : List UInt8) : DeviceEntry :=
  { nwkAddress := hex 4 (join16 (val.getD 8 0) (val.getD 9 0))
    ieeeAddress := buf2hex (val.take 8)
    isChild := true }

-- One turn of the loop over the device records.
def scanDevice (val : List UInt8) : Scan UInt8 DeviceEntry :=
  if 16 ≤ val.length then .item (deviceEntry val) (val.drop 16) else .wait val

theorem scanDevice_shrinks {val rest : List UInt8} {entry : DeviceEntry}
    (h : scanDevice val = .item entry rest) : rest.length < val.length := by
  simp only [scanDevice] at h
  split at h
  · cases h
    simp only [List.length_drop]
    omega
  · cases h

def devices : Scanner UInt8 DeviceEntry := { scan := scanDevice, shrinks := scanDevice_shrinks }

-- The switch over the tag of one TLV. No length is checked here.
def parseTlv (result : Structured) (t : Tlv) : Except Error Structured :=
  let val := t.value
  if t.tag = 0x01 then
    .ok { result with panId := some (join16 (val.getD 0 0) (val.getD 1 0)) }
  else if t.tag = 0x02 then .ok { result with extendedPanId := some val }
  else if t.tag = 0x03 then .ok { result with channel := val[0]? }
  else if t.tag = 0x04 then .ok { result with nwkUpdateId := val[0]? }
  else if t.tag = 0x05 then .ok { result with coordinatorIeee := some val }
  else if t.tag = 0x06 then .ok { result with networkKey := some val }
  else if t.tag = 0x07 then .ok { result with networkKeySeq := val[0]? }
  else if t.tag = 0x08 then
    (getUint val 0 4).map fun frameCounter => { result with frameCounter := some frameCounter }
  else if t.tag = 0x10 then
    .ok { result with devices := result.devices ++ (devices.cut val).1 }
  else .ok result

-- `behind` is what the buffer under `payload` holds after it: the DataView
-- made here reaches to the end of the buffer.
def parseStructuredTLVs (payload behind : List UInt8) : Except Error Structured :=
  if payload[1]? ≠ some 0 then
    throw (.error ("GET_STRUCTURED_BACKUP failed (status=" ++ shown payload[1]? ++ ")"))
  else do
    let dv := payload ++ behind
    let magic ← getUint dv 2 4
    if magic ≠ 0x4253425a then
      throw (.error ("Bad magic in structured backup (0x" ++ hex 0 magic ++ ")"))
    else if payload[6]? ≠ some 1 then
      throw (.error ("Unsupported structured-backup format version: " ++ shown payload[6]?))
    else do
      let payloadLen ← getUint dv 8 2
      (tlvs.cut ((payload.drop 10).take payloadLen)).1.foldlM parseTlv Structured.empty

end EspCoordinator.Backup.Web
