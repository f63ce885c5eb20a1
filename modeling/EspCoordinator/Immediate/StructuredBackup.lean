import EspCoordinator.Backup.Image
import EspCoordinator.Immediate.Stack
import EspCoordinator.Lib.Cursor
import EspCoordinator.Reply

-- GET_STRUCTURED_BACKUP, on the buffer
namespace EspCoordinator.Immediate

open Bytes
open Backup (Neighbor Network MAGIC VERSION TAG_PAN_ID TAG_EXT_PAN_ID TAG_CHANNEL TAG_NWK_UPDATE_ID
  TAG_COORD_IEEE TAG_NWK_KEY TAG_NWK_FRAME_COUNTER TAG_DEVICE_TABLE MAX_DEVICES RECORD_SIZE
  deviceRecord)

def emit (tag : UInt8) (value : List UInt8) (c : Cursor UInt8) : Cursor UInt8 :=
  ((c.put [tag]).put (toLE 2 value.length)).put value

def emitNetwork (stack : Stack) (c : Cursor UInt8) : Cursor UInt8 :=
  let c := emit TAG_PAN_ID (toLE 2 stack.panId.toNat) c
  let c := emit TAG_EXT_PAN_ID stack.extendedPanId.toList c
  let c := emit TAG_CHANNEL [stack.currentChannel] c
  let c := emit TAG_NWK_UPDATE_ID [stack.updateId] c
  let c := emit TAG_COORD_IEEE stack.longAddress.toList c
  let c :=
    match stack.primaryNetworkKey with
    | some nwkKey => emit TAG_NWK_KEY nwkKey.toList c
    | none => c
  emit TAG_NWK_FRAME_COUNTER (toLE 4 stack.frameCounter.toNat) c

def emitDevices : List Neighbor → Nat → Cursor UInt8 → Nat × Cursor UInt8
  | [], devCount, c => (devCount, c)
  | nbr :: iter, devCount, c =>
      if devCount < MAX_DEVICES then emitDevices iter (devCount + 1) (c.put (deviceRecord nbr))
      else (devCount, c)

def emitDeviceTable (neighbors : List Neighbor) (c : Cursor UInt8) : Cursor UInt8 :=
  let c := c.put [TAG_DEVICE_TABLE]
  let devLenField := c.pos
  let c := c.skip 2
  let (devCount, c) := emitDevices neighbors 0 c
  c.patch devLenField (toLE 2 (devCount * RECORD_SIZE))

-- category, status and the header up to payload_len
def emitHeader : Cursor UInt8 :=
  let c := (Cursor.start.put [STATUS_CATEGORY_GENERIC]).put [GENERIC_OK]
  ((c.put MAGIC).put [VERSION]).put [0]

def structuredBackup (stack : Stack) : Reply :=
  let c := emitHeader.skip 2
  let tlvStart := c.pos
  let c := emitNetwork stack c
  let c := emitDeviceTable stack.neighbors c
  let c := c.patch emitHeader.pos (toLE 2 (c.pos - tlvStart))
  { stores := c.stores, outlen := c.pos }

variable {c : Cursor UInt8} {gaps : Set Nat} {memory : Memory UInt8} {out : List UInt8}

theorem filled_emit (h : c.Filled gaps) (tag : UInt8) (value : List UInt8) :
    (emit tag value c).Filled gaps :=
  ((h.put _).put _).put _

theorem filled_emitNetwork (stack : Stack) (h : c.Filled gaps) :
    (emitNetwork stack c).Filled gaps := by
  have hfront := filled_emit (filled_emit (filled_emit (filled_emit (filled_emit h
    TAG_PAN_ID (toLE 2 stack.panId.toNat)) TAG_EXT_PAN_ID stack.extendedPanId.toList)
    TAG_CHANNEL [stack.currentChannel]) TAG_NWK_UPDATE_ID [stack.updateId])
    TAG_COORD_IEEE stack.longAddress.toList
  unfold emitNetwork
  cases stack.primaryNetworkKey with
  | none => exact filled_emit hfront _ _
  | some nwkKey => exact filled_emit (filled_emit hfront _ _) _ _

theorem filled_emitDevices (neighbors : List Neighbor) (devCount : Nat) (h : c.Filled gaps) :
    (emitDevices neighbors devCount c).2.Filled gaps := by
  induction neighbors generalizing devCount c with
  | nil => exact h
  | cons nbr iter ih =>
      rw [emitDevices]
      split
      · exact ih (devCount + 1) (h.put _)
      · exact h

theorem filled_emitDeviceTable (neighbors : List Neighbor) (h : c.Filled gaps) :
    (emitDeviceTable neighbors c).Filled gaps := by
  have hopen := ((h.put [TAG_DEVICE_TABLE]).skip 2)
  refine ((filled_emitDevices neighbors 0 hopen).patch _ _).mono ?_
  rintro index ⟨hgap | hgap, hout⟩
  · exact hgap
  · exact absurd hgap hout

-- Both length fields are filled before the response goes out.
theorem determined_structuredBackup (stack : Stack) : (structuredBackup stack).Determined := by
  have hheader : emitHeader.Filled ∅ :=
    ((((Cursor.filled_start.put _).put _).put _).put _).put _
  have htlvs := filled_emitDeviceTable stack.neighbors (filled_emitNetwork stack (hheader.skip 2))
  have hdone := htlvs.patch emitHeader.pos
    (toLE 2 ((emitDeviceTable stack.neighbors (emitNetwork stack (emitHeader.skip 2))).pos -
      (emitHeader.skip 2).pos))
  intro index hindex
  refine hdone index hindex ?_
  rintro ⟨hgap | hgap, hout⟩
  · exact hgap
  · exact hout hgap

-- What the stack of a network in operation returns.
def Stack.network (stack : Stack) (hge : 11 ≤ stack.currentChannel)
    (hle : stack.currentChannel ≤ 26) : Network :=
  { panId := stack.panId
    extendedPanId := stack.extendedPanId
    currentChannel := stack.currentChannel
    updateId := stack.updateId
    longAddress := stack.longAddress
    primaryNetworkKey := stack.primaryNetworkKey
    frameCounter := stack.frameCounter
    channel_ge := hge
    channel_le := hle }

theorem holds_emit (h : c.Holds memory out) (tag : UInt8) (value : List UInt8) :
    (emit tag value c).Holds memory (Backup.emit tag value out) := by
  have hput := ((h.put [tag]).put (toLE 2 value.length)).put value
  simp only [List.append_assoc, List.singleton_append] at hput
  exact hput

theorem holds_emitNetwork (stack : Stack) (hge : 11 ≤ stack.currentChannel)
    (hle : stack.currentChannel ≤ 26) (h : c.Holds memory out) :
    (emitNetwork stack c).Holds memory (Backup.emitNetwork (stack.network hge hle) out) := by
  have hfront := holds_emit (holds_emit (holds_emit (holds_emit (holds_emit h
    TAG_PAN_ID (toLE 2 stack.panId.toNat)) TAG_EXT_PAN_ID stack.extendedPanId.toList)
    TAG_CHANNEL [stack.currentChannel]) TAG_NWK_UPDATE_ID [stack.updateId])
    TAG_COORD_IEEE stack.longAddress.toList
  unfold emitNetwork Backup.emitNetwork Stack.network
  cases stack.primaryNetworkKey with
  | none => exact holds_emit hfront _ _
  | some nwkKey => exact holds_emit (holds_emit hfront _ _) _ _

theorem holds_emitDevices (neighbors : List Neighbor) (devCount : Nat)
    (h : c.Holds memory out) :
    (emitDevices neighbors devCount c).1 = (Backup.emitDevices neighbors devCount out).1 ∧
      (emitDevices neighbors devCount c).2.Holds memory
        (Backup.emitDevices neighbors devCount out).2 := by
  induction neighbors generalizing devCount c out with
  | nil => exact ⟨rfl, h⟩
  | cons nbr iter ih =>
      rw [emitDevices, Backup.emitDevices]
      split
      · exact ih (devCount + 1) (h.put _)
      · exact ⟨rfl, h⟩

theorem holds_skip (h : c.Holds memory out) (width : Nat) :
    (c.skip width).Holds memory (Backup.reserve memory width out) := by
  have hreserve : Backup.reserve memory width out = out ++ memory.read out.length width := rfl
  rw [hreserve, h.length]
  exact h.skip width

theorem holds_emitDeviceTable (neighbors : List Neighbor) (h : c.Holds memory out) :
    (emitDeviceTable neighbors c).Holds memory
      (Backup.emitDeviceTable neighbors memory out) := by
  have hopen := holds_skip (h.put [TAG_DEVICE_TABLE]) 2
  obtain ⟨hcount, hdevices⟩ := holds_emitDevices neighbors 0 hopen
  have hend := hdevices.length
  rw [Backup.emitDevices_eq, List.length_append, hopen.length] at hend
  have hfield : (out ++ [TAG_DEVICE_TABLE]).length = (c.put [TAG_DEVICE_TABLE]).pos :=
    (h.put [TAG_DEVICE_TABLE]).length
  simp only [emitDeviceTable, Backup.emitDeviceTable, hcount, hfield, Backup.patch]
  refine hdevices.patch ?_
  rw [length_toLE, ← hend]
  exact Nat.le_add_right _ _

-- On a network in operation the response carries the image.
theorem frame_structuredBackup (stack : Stack) (hge : 11 ≤ stack.currentChannel)
    (hle : stack.currentChannel ≤ 26) (cmd : Cmd) (outdata : Memory UInt8) :
    ((structuredBackup stack).respond cmd).frame outdata =
      cmd.reply.bytes ++
        Backup.getStructuredBackup (stack.network hge hle) stack.neighbors
          (outdata.above CMD_SIZE) := by
  have hheader : emitHeader.Holds (outdata.above CMD_SIZE) ([0, 0] ++ (MAGIC ++ [VERSION, 0])) :=
    (((((Cursor.holds_start _).put [STATUS_CATEGORY_GENERIC]).put [GENERIC_OK]).put MAGIC).put
      [VERSION]).put [0]
  have hopen := holds_skip hheader 2
  have htlvs := holds_emitDeviceTable stack.neighbors (holds_emitNetwork stack hge hle hopen)
  have hend := htlvs.length
  rw [Backup.emitDeviceTable_eq _ (outdata.above CMD_SIZE), Backup.emitNetwork_eq,
    List.length_append, List.length_append, hopen.length, Nat.add_assoc] at hend
  let payloadLen := (emitDeviceTable stack.neighbors (emitNetwork stack (emitHeader.skip 2))).pos -
    (emitHeader.skip 2).pos
  have hfits : emitHeader.pos + (toLE 2 payloadLen).length ≤
      (emitDeviceTable stack.neighbors (emitNetwork stack (emitHeader.skip 2))).pos := by
    rw [length_toLE, ← hend]
    exact Nat.le_add_right _ _
  have hdone := htlvs.patch hfits
  rw [Reply.frame_respond]
  refine congrArg (cmd.reply.bytes ++ ·) (hdone.read.trans ?_)
  simp only [Backup.getStructuredBackup, Backup.patch, htlvs.length, hopen.length]
  rfl

end EspCoordinator.Immediate
