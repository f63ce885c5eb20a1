import EspCoordinator.Protocol

namespace EspCoordinator.ZbossSerial

open Bytes

def crc8_table : Array UInt8 := #[
    0xea, 0xd4, 0x96, 0xa8, 0x12, 0x2c, 0x6e, 0x50, 0x7f, 0x41, 0x03, 0x3d, 0x87, 0xb9, 0xfb, 0xc5,
    0xa5, 0x9b, 0xd9, 0xe7, 0x5d, 0x63, 0x21, 0x1f, 0x30, 0x0e, 0x4c, 0x72, 0xc8, 0xf6, 0xb4, 0x8a,
    0x74, 0x4a, 0x08, 0x36, 0x8c, 0xb2, 0xf0, 0xce, 0xe1, 0xdf, 0x9d, 0xa3, 0x19, 0x27, 0x65, 0x5b,
    0x3b, 0x05, 0x47, 0x79, 0xc3, 0xfd, 0xbf, 0x81, 0xae, 0x90, 0xd2, 0xec, 0x56, 0x68, 0x2a, 0x14,
    0xb3, 0x8d, 0xcf, 0xf1, 0x4b, 0x75, 0x37, 0x09, 0x26, 0x18, 0x5a, 0x64, 0xde, 0xe0, 0xa2, 0x9c,
    0xfc, 0xc2, 0x80, 0xbe, 0x04, 0x3a, 0x78, 0x46, 0x69, 0x57, 0x15, 0x2b, 0x91, 0xaf, 0xed, 0xd3,
    0x2d, 0x13, 0x51, 0x6f, 0xd5, 0xeb, 0xa9, 0x97, 0xb8, 0x86, 0xc4, 0xfa, 0x40, 0x7e, 0x3c, 0x02,
    0x62, 0x5c, 0x1e, 0x20, 0x9a, 0xa4, 0xe6, 0xd8, 0xf7, 0xc9, 0x8b, 0xb5, 0x0f, 0x31, 0x73, 0x4d,
    0x58, 0x66, 0x24, 0x1a, 0xa0, 0x9e, 0xdc, 0xe2, 0xcd, 0xf3, 0xb1, 0x8f, 0x35, 0x0b, 0x49, 0x77,
    0x17, 0x29, 0x6b, 0x55, 0xef, 0xd1, 0x93, 0xad, 0x82, 0xbc, 0xfe, 0xc0, 0x7a, 0x44, 0x06, 0x38,
    0xc6, 0xf8, 0xba, 0x84, 0x3e, 0x00, 0x42, 0x7c, 0x53, 0x6d, 0x2f, 0x11, 0xab, 0x95, 0xd7, 0xe9,
    0x89, 0xb7, 0xf5, 0xcb, 0x71, 0x4f, 0x0d, 0x33, 0x1c, 0x22, 0x60, 0x5e, 0xe4, 0xda, 0x98, 0xa6,
    0x01, 0x3f, 0x7d, 0x43, 0xf9, 0xc7, 0x85, 0xbb, 0x94, 0xaa, 0xe8, 0xd6, 0x6c, 0x52, 0x10, 0x2e,
    0x4e, 0x70, 0x32, 0x0c, 0xb6, 0x88, 0xca, 0xf4, 0xdb, 0xe5, 0xa7, 0x99, 0x23, 0x1d, 0x5f, 0x61,
    0x9f, 0xa1, 0xe3, 0xdd, 0x67, 0x59, 0x1b, 0x25, 0x0a, 0x34, 0x76, 0x48, 0xf2, 0xcc, 0x8e, 0xb0,
    0xd0, 0xee, 0xac, 0x92, 0x28, 0x16, 0x54, 0x6a, 0x45, 0x7b, 0x39, 0x07, 0xbd, 0x83, 0xc1, 0xff]

def crc8 (buf : List UInt8) : UInt8 :=
  buf.foldl (fun crc b => crc8_table.getD (crc ^^^ b).toNat 0) 0x00

def crc16_table : Array UInt16 := #[
    0x0000, 0x1189, 0x2312, 0x329b, 0x4624, 0x57ad, 0x6536, 0x74bf, 0x8c48, 0x9dc1, 0xaf5a, 0xbed3,
    0xca6c, 0xdbe5, 0xe97e, 0xf8f7, 0x1081, 0x0108, 0x3393, 0x221a, 0x56a5, 0x472c, 0x75b7, 0x643e,
    0x9cc9, 0x8d40, 0xbfdb, 0xae52, 0xdaed, 0xcb64, 0xf9ff, 0xe876, 0x2102, 0x308b, 0x0210, 0x1399,
    0x6726, 0x76af, 0x4434, 0x55bd, 0xad4a, 0xbcc3, 0x8e58, 0x9fd1, 0xeb6e, 0xfae7, 0xc87c, 0xd9f5,
    0x3183, 0x200a, 0x1291, 0x0318, 0x77a7, 0x662e, 0x54b5, 0x453c, 0xbdcb, 0xac42, 0x9ed9, 0x8f50,
    0xfbef, 0xea66, 0xd8fd, 0xc974, 0x4204, 0x538d, 0x6116, 0x709f, 0x0420, 0x15a9, 0x2732, 0x36bb,
    0xce4c, 0xdfc5, 0xed5e, 0xfcd7, 0x8868, 0x99e1, 0xab7a, 0xbaf3, 0x5285, 0x430c, 0x7197, 0x601e,
    0x14a1, 0x0528, 0x37b3, 0x263a, 0xdecd, 0xcf44, 0xfddf, 0xec56, 0x98e9, 0x8960, 0xbbfb, 0xaa72,
    0x6306, 0x728f, 0x4014, 0x519d, 0x2522, 0x34ab, 0x0630, 0x17b9, 0xef4e, 0xfec7, 0xcc5c, 0xddd5,
    0xa96a, 0xb8e3, 0x8a78, 0x9bf1, 0x7387, 0x620e, 0x5095, 0x411c, 0x35a3, 0x242a, 0x16b1, 0x0738,
    0xffcf, 0xee46, 0xdcdd, 0xcd54, 0xb9eb, 0xa862, 0x9af9, 0x8b70, 0x8408, 0x9581, 0xa71a, 0xb693,
    0xc22c, 0xd3a5, 0xe13e, 0xf0b7, 0x0840, 0x19c9, 0x2b52, 0x3adb, 0x4e64, 0x5fed, 0x6d76, 0x7cff,
    0x9489, 0x8500, 0xb79b, 0xa612, 0xd2ad, 0xc324, 0xf1bf, 0xe036, 0x18c1, 0x0948, 0x3bd3, 0x2a5a,
    0x5ee5, 0x4f6c, 0x7df7, 0x6c7e, 0xa50a, 0xb483, 0x8618, 0x9791, 0xe32e, 0xf2a7, 0xc03c, 0xd1b5,
    0x2942, 0x38cb, 0x0a50, 0x1bd9, 0x6f66, 0x7eef, 0x4c74, 0x5dfd, 0xb58b, 0xa402, 0x9699, 0x8710,
    0xf3af, 0xe226, 0xd0bd, 0xc134, 0x39c3, 0x284a, 0x1ad1, 0x0b58, 0x7fe7, 0x6e6e, 0x5cf5, 0x4d7c,
    0xc60c, 0xd785, 0xe51e, 0xf497, 0x8028, 0x91a1, 0xa33a, 0xb2b3, 0x4a44, 0x5bcd, 0x6956, 0x78df,
    0x0c60, 0x1de9, 0x2f72, 0x3efb, 0xd68d, 0xc704, 0xf59f, 0xe416, 0x90a9, 0x8120, 0xb3bb, 0xa232,
    0x5ac5, 0x4b4c, 0x79d7, 0x685e, 0x1ce1, 0x0d68, 0x3ff3, 0x2e7a, 0xe70e, 0xf687, 0xc41c, 0xd595,
    0xa12a, 0xb0a3, 0x8238, 0x93b1, 0x6b46, 0x7acf, 0x4854, 0x59dd, 0x2d62, 0x3ceb, 0x0e70, 0x1ff9,
    0xf78f, 0xe606, 0xd49d, 0xc514, 0xb1ab, 0xa022, 0x92b9, 0x8330, 0x7bc7, 0x6a4e, 0x58d5, 0x495c,
    0x3de3, 0x2c6a, 0x1ef1, 0x0f78]

def crc16 (buf : List UInt8) : UInt16 :=
  buf.foldl (fun crc b =>
    crc16_table.getD ((crc ^^^ b.toUInt16) &&& 0xff).toNat 0 ^^^ ((crc >>> 8) &&& 0xff)) 0x0000

structure State where
  seq : Fin 4
  nextTsn : UInt8
  -- undefined until the first frame
  recvSeq : Option (Fin 4)
  buffer : List UInt8
  -- the cmdId of the request that waits under a tsn
  pendingRequests : UInt8 → Option UInt16

def init : State :=
  { seq := 0, nextTsn := 1, recvSeq := none, buffer := [], pendingRequests := fun _ => none }

-- What processBuffer does besides changing the state.
inductive Action where
  | write (bytes : List UInt8)
  | logNack (ackSeq : Fin 4)
  | logCrcMismatch
  | resolve (tsn : UInt8) (data : List UInt8)
deriving DecidableEq, Repr

-- The bits of byte 5 of a frame.
structure Flags where
  isACK : Bool
  isNACK : Bool
  sequence : Fin 4
  ackSeq : Fin 4
deriving DecidableEq, Repr

def flags (byte : UInt8) : Flags :=
  { isACK := byte &&& 0x01 = 1
    isNACK := byte &&& 0x02 = 0x02
    sequence := Fin.ofNat 4 ((byte >>> 2) &&& 0x03).toNat
    ackSeq := Fin.ofNat 4 ((byte >>> 4) &&& 0x03).toNat }

-- The buffer from the first DE AD on.
def findStart : List UInt8 → Option (List UInt8)
  | [] => none
  | byte :: rest =>
      if byte = 0xde ∧ rest.head? = some 0xad then some (byte :: rest) else findStart rest

-- What the buffer is cut to when it has no DE AD.
def dropGarbage (buffer : List UInt8) : List UInt8 :=
  if buffer.getLast? = some 0xde then [0xde] else []

-- buffer[pos] | (buffer[pos + 1] << 8)
def getUint16 (buffer : List UInt8) (pos : Nat) : Nat := ofLE ((buffer.drop pos).take 2)

-- What the loop of processBuffer finds at the front of the buffer.
inductive Item where
  -- DE AD with a malformed length or a wrong header CRC
  | skip
  | frame (packet_len : Nat) (frame : List UInt8)
deriving DecidableEq, Repr

-- One iteration of the loop up to the slice that takes the frame out.
def scan (buffer : List UInt8) : Scan UInt8 Item :=
  if buffer.length < 7 then .wait buffer
  else
    match findStart buffer with
    | none => .wait (dropGarbage buffer)
    | some buffer =>
        if buffer.length < 7 then .wait buffer
        else
          let packet_len := getUint16 buffer 2
          if packet_len ≠ 5 ∧ packet_len < 7 then .item .skip (buffer.drop 2)
          else if crc8 ((buffer.drop 2).take 4) ≠ buffer.getD 6 0 then
            .item .skip (buffer.drop 2)
          else if buffer.length < packet_len + 2 then .wait buffer
          else
            .item (.frame packet_len (buffer.take (packet_len + 2))) (buffer.drop (packet_len + 2))

theorem findStart_length {buffer p : List UInt8} (h : findStart buffer = some p) :
    p.length ≤ buffer.length := by
  induction buffer with
  | nil => simp [findStart] at h
  | cons byte rest ih =>
      simp only [findStart] at h
      split at h
      · cases h
        exact Nat.le_refl _
      · exact (ih h).trans (by simp)

theorem scan_shrinks {buffer rest : List UInt8} {it : Item} (h : scan buffer = .item it rest) :
    rest.length < buffer.length := by
  unfold scan at h
  split at h
  · simp at h
  split at h
  · simp at h
  rename_i p hp
  have hle := findStart_length hp
  split at h
  · simp at h
  dsimp only at h
  split_ifs at h <;> simp only [Scan.item.injEq] at h <;>
    (obtain ⟨-, rfl⟩ := h; simp only [List.length_drop]; omega)

def scanner : Scanner UInt8 Item := ⟨scan, scan_shrinks⟩

def sendAck (ackSeq : Fin 4) : List UInt8 :=
  let header : List UInt8 := [0xde, 0xad, 5, 0, 0x06, (0xc1 : UInt8) ||| (UInt8.ofNat ackSeq <<< 4)]
  header ++ [crc8 ((header.drop 2).take 4)]

-- The request that waits under the tsn of the payload, if it asked for this
-- command. An element past the end is undefined, which is no tsn.
def deliver (s : State) (payload : List UInt8) : State × List Action :=
  match payload[4]? with
  | none => (s, [])
  | some tsn =>
      if s.pendingRequests tsn = some (UInt16.ofNat (getUint16 payload 2)) then
        ({ s with pendingRequests := fun other =>
            if other = tsn then none else s.pendingRequests other },
          [.resolve tsn (payload.drop 5)])
      else (s, [])

-- The rest of the iteration, once the frame is out of the buffer.
def onFrame (s : State) (packet_len : Nat) (frame : List UInt8) : State × List Action :=
  let bits := flags (frame.getD 5 0)
  let s := { s with recvSeq := some bits.sequence }
  if bits.isNACK then (s, [.logNack bits.ackSeq])
  else if bits.isACK ∧ packet_len = 5 then (s, [])
  else if packet_len > 5 then
    let payload := frame.drop 9
    if (crc16 payload).toNat ≠ getUint16 frame 7 then
      (s, [.write (sendAck bits.sequence), .logCrcMismatch])
    else
      let (s, actions) := deliver s payload
      (s, .write (sendAck bits.sequence) :: actions)
  else (s, [])

def handle (s : State) : Item → State × List Action
  | .skip => (s, [])
  | .frame packet_len frame => onFrame s packet_len frame

def processBuffer (s : State) : State × List Action :=
  match _h : scan s.buffer with
  | .wait buffer => ({ s with buffer }, [])
  | .item it buffer =>
      let (next, actions) := handle { s with buffer } it
      let (last, more) := processBuffer { next with buffer }
      (last, actions ++ more)
termination_by s.buffer.length
decreasing_by exact scan_shrinks _h

-- A chunk that readLoop has read.
def read (s : State) (value : List UInt8) : State × List Action :=
  processBuffer { s with buffer := s.buffer ++ value }

-- The request that is written to the port, and the slot it waits in.
def sendCommand (s : State) (cmdId : UInt16) (payload : List UInt8) : State × List UInt8 :=
  let tsn := s.nextTsn
  let reqData : List UInt8 := [0, 0] ++ toLE 2 cmdId.toNat ++ [tsn] ++ payload
  let packetLen := 7 + reqData.length
  let flags := (0xc0 : UInt8) ||| (UInt8.ofNat s.seq <<< 2) |||
    (UInt8.ofNat (s.recvSeq.getD 0) <<< 4)
  let header := [0xde, 0xad] ++ toLE 2 packetLen ++ [0x06, flags]
  let out := header ++ [crc8 ((header.drop 2).take 4)] ++ toLE 2 (crc16 reqData).toNat ++ reqData
  ({ s with
      seq := s.seq + 1
      nextTsn := s.nextTsn + 1
      pendingRequests := fun other =>
        if other = tsn then some cmdId else s.pendingRequests other },
    out)

end EspCoordinator.ZbossSerial
