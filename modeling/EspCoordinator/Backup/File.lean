import EspCoordinator.Backup.Pull
import EspCoordinator.Immediate
import EspCoordinator.Lib.Base64
import EspCoordinator.Restore.ByteTrue

-- The file between doBackup and doRestore, and the loop of doRestore
namespace EspCoordinator.Backup.File

open Bytes
open Restore (Layout)

-- The code units of a string.
abbrev JsString := List UInt16

def codeUnits (s : String) : JsString := s.toList.map fun c => UInt16.ofNat c.toNat

def standard : Base64.Alphabet UInt16 where
  digits := codeUnits "ABCDEFGHIJKLMNOPQRSTUVWXYZabcdefghijklmnopqrstuvwxyz0123456789+/"
  pad := 0x3d
  length_digits := by decide
  nodup := by decide
  pad_notMem := by decide

-- What btoa and atob throw.
inductive DomException where
  | invalidCharacterError
deriving DecidableEq, Repr

-- btoa takes code units that are bytes.
def btoa (s : JsString) : Except DomException JsString :=
  if s.all (· < 256) then .ok (Base64.encode standard (s.map UInt16.toUInt8))
  else .error .invalidCharacterError

def whitespace (unit : UInt16) : Bool :=
  [(0x09 : UInt16), 0x0a, 0x0c, 0x0d, 0x20].contains unit

def atob (s : JsString) : Except DomException JsString :=
  match Base64.decode standard (s.filter fun unit => !whitespace unit) with
  | some bytes => .ok (bytes.map UInt8.toUInt16)
  | none => .error .invalidCharacterError

-- String.fromCharCode.apply
def fromCharCode (bytes : List UInt8) : JsString := bytes.map UInt8.toUInt16

def binaryChunk : Nat := 0x8000

-- The loop of buf2base64 from `i` on.
def binaryString (buf : List UInt8) (i : Nat) (s : JsString) : JsString :=
  if i < buf.length then
    binaryString buf (i + binaryChunk)
      (s ++ fromCharCode ((buf.drop i).take (min (i + binaryChunk) buf.length - i)))
  else s
termination_by buf.length - i
decreasing_by
  have hchunk : 0 < binaryChunk := Nat.zero_lt_succ _
  omega

def buf2base64 (buf : List UInt8) : Except DomException JsString := btoa (binaryString buf 0 [])

def base642buf (s : JsString) : Except DomException (List UInt8) :=
  (atob s).map fun bin => bin.map UInt16.toUInt8

-- What doRestore finds in the file that it is given: JSON with
-- stack_specific.zboss.raw_nvram, or bytes that are no JSON.
inductive Contents where
  | json (rawNvram : Option JsString)
  | binary (bytes : List UInt8)
deriving DecidableEq, Repr

-- The backup that doBackup writes to a file.
def contents (raw : List UInt8) : Except DomException Contents :=
  (buf2base64 raw).map fun b64 => .json (some b64)

-- An empty string counts as missing.
def Contents.raw : Contents → Option (List UInt8)
  | .json none => none
  | .json (some []) => none
  | .json (some b64) => (base642buf b64).toOption
  | .binary bytes => some bytes

inductive Ended where
  -- before the port is opened
  | badJson
  | refused (size : Nat)
  | error (message : String)
  | complete
deriving DecidableEq, Repr

def EXPECTED_RAW_SIZE : Nat := 0x6000 + 0x4000

def chunkSize : Nat := 128

variable {L : Layout}

-- The loop of doRestore from `offset` on, with what its requests meet, or
-- nothing when the fuel does not suffice.
def restoreLoop (raw : List UInt8) :
    Nat → (Nat → Restore.Outcomes L) → Restore.Device L → Nat → Option (Restore.Device L × Ended)
  | 0, _, _, _ => none
  | fuel + 1, outcomes, d, offset =>
      if offset < raw.length then
        let chunk := (raw.drop offset).take (min (offset + chunkSize) raw.length - offset)
        let payload := toLE 4 offset ++ (toLE 4 raw.length ++ chunk)
        let result := Restore.processImmediate (outcomes 0) d payload
        let response := [STATUS_CATEGORY_GENERIC, Immediate.statusByte result.status]
        if response[1]? ≠ some 0 then
          some (result.device, .error ("Restore failed at offset " ++ toString offset))
        else
          restoreLoop raw fuel (fun index => outcomes (index + 1)) result.device
            (offset + chunk.length)
      else some (d, .complete)

def doRestore (fuel : Nat) (outcomes : Nat → Restore.Outcomes L) (d : Restore.Device L)
    (file : Contents) : Option (Restore.Device L × Ended) :=
  match file.raw with
  | none => some (d, .badJson)
  | some raw =>
      if raw.length ≠ EXPECTED_RAW_SIZE then some (d, .refused raw.length)
      else restoreLoop raw fuel outcomes d 0

end EspCoordinator.Backup.File
