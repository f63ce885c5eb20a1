import EspCoordinator.Lib.Bytes
import EspCoordinator.Lib.Memory
import EspCoordinator.Resolver

namespace EspCoordinator

instance nontrivial_byte : Nontrivial UInt8 := ⟨0, 1, by decide⟩

-- frame_type_t
def FrameType.toByte : FrameType → UInt8
  | .request => 0
  | .response => 1
  | .indication => 2

def Cmd.bytes (cmd : Cmd) : List UInt8 :=
  [cmd.version, cmd.type.toByte] ++ Bytes.toLE 2 cmd.commandId.toNat ++ [cmd.tsn]

-- sizeof(cmd_t)
def CMD_SIZE : Nat := 5

@[simp] theorem Cmd.length_bytes (cmd : Cmd) : cmd.bytes.length = CMD_SIZE := rfl

def STATUS_CATEGORY_GENERIC : UInt8 := 0

def GENERIC_OK : UInt8 := 0
def GENERIC_ERROR : UInt8 := 1
def GENERIC_OPERATION_FAILED : UInt8 := 24

-- What a handler writes to `outdata`, its buffer on the stack, and how much of
-- the buffer it hands to send_cmd_data.
structure Reply where
  stores : List (Memory.Store UInt8)
  outlen : Nat
deriving DecidableEq, Repr

-- What is sent when `outdata` held this at the start.
def Reply.frame (reply : Reply) (outdata : Memory UInt8) : List UInt8 :=
  (outdata.storeAll reply.stores).read 0 reply.outlen

-- Nothing is written behind the end of the buffer.
def Reply.Within (reply : Reply) (size : Nat) : Prop :=
  ∀ store ∈ reply.stores, store.offset + store.bytes.length ≤ size

-- The header of the request, turned into that of its response.
def Reply.header (cmd : Cmd) : List (Memory.Store UInt8) :=
  [{ offset := 0, bytes := cmd.bytes }, { offset := 1, bytes := [FrameType.response.toByte] }]

theorem Reply.storeAll_header (outdata : Memory UInt8) (cmd : Cmd) :
    outdata.storeAll (header cmd) = outdata.write 0 cmd.reply.bytes := by
  let rest := Bytes.toLE 2 cmd.commandId.toNat ++ [cmd.tsn]
  have hfront (type : UInt8) : (outdata.write 0 [cmd.version]).write 1 (type :: rest) =
      outdata.write 0 (cmd.version :: type :: rest) :=
    Memory.write_write outdata 0 [cmd.version] (type :: rest)
  calc outdata.storeAll (header cmd)
      = (outdata.write 0 (cmd.version :: cmd.type.toByte :: rest)).write 1 [0x01] := rfl
    _ = (outdata.write 0 [cmd.version]).write 1 (0x01 :: rest) := by
        rw [← hfront, Memory.write_head]
    _ = outdata.write 0 cmd.reply.bytes := hfront 0x01

-- What a handler has written behind cmd_t, with the header put in front of it.
def Reply.respond (cmd : Cmd) (reply : Reply) : Reply :=
  { stores := reply.stores.map (Memory.Store.shift CMD_SIZE) ++ header cmd
    outlen := CMD_SIZE + reply.outlen }

-- Every byte that is sent has been written.
def Reply.Determined (reply : Reply) : Prop :=
  ∀ index < reply.outlen, Memory.Covered reply.stores index

instance (reply : Reply) : Decidable reply.Determined :=
  inferInstanceAs (Decidable (∀ index < reply.outlen, Memory.Covered reply.stores index))

theorem Reply.frame_respond (reply : Reply) (cmd : Cmd) (outdata : Memory UInt8) :
    (reply.respond cmd).frame outdata =
      cmd.reply.bytes ++ reply.frame (outdata.above CMD_SIZE) := by
  let body := outdata.storeAll (reply.stores.map (Memory.Store.shift CMD_SIZE))
  have hfront : (body.write 0 cmd.reply.bytes).read 0 CMD_SIZE = cmd.reply.bytes :=
    Memory.read_write body 0 cmd.reply.bytes
  have hbehind : body.read CMD_SIZE reply.outlen = reply.frame (outdata.above CMD_SIZE) := by
    have habove := Memory.read_above body CMD_SIZE 0 reply.outlen
    rw [Nat.add_zero, Memory.above_storeAll] at habove
    exact habove.symm
  rw [frame, respond, Memory.storeAll_append, storeAll_header, Memory.read_add, Nat.zero_add,
    hfront, Memory.read_write_outside (.inr (Nat.le_refl CMD_SIZE)), hbehind]

theorem Reply.determined_iff (reply : Reply) :
    reply.Determined ↔
      ∀ outdata other : Memory UInt8, reply.frame outdata = reply.frame other := by
  have hread := Memory.read_storeAll_iff reply.stores 0 reply.outlen
  simp only [Nat.zero_add] at hread
  exact hread.symm

-- The response does not depend on the buffer, just when the handler has
-- written all that it says it has.
theorem Reply.frame_eq_iff (reply : Reply) (cmd : Cmd) :
    (∀ outdata other : Memory UInt8,
      (reply.respond cmd).frame outdata = (reply.respond cmd).frame other) ↔
      reply.Determined := by
  rw [determined_iff]
  simp only [frame_respond, List.append_cancel_left_eq]
  refine ⟨fun hsame memory other => ?_, fun hsame _ _ => hsame _ _⟩
  obtain ⟨outdata, rfl⟩ := Memory.above_surjective CMD_SIZE memory
  obtain ⟨another, rfl⟩ := Memory.above_surjective CMD_SIZE other
  exact hsame outdata another

end EspCoordinator
