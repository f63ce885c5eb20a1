import EspCoordinator.Lib.Bytes
import EspCoordinator.Lib.Scanner
import EspCoordinator.Utils

namespace EspCoordinator.Protocol

open Bytes

def RX_BUFFER_SIZE : Nat := 1024
def TX_BUFFER_SIZE : Nat := 2048
def MAX_FRAME_SIZE : Nat := TX_BUFFER_SIZE
def ZBOSS_NCP_API_HL : UInt8 := 0x06

-- Sequence numbers count modulo 4.
instance neZero_seq : NeZero 4 := ⟨by decide⟩

-- ncp_header_t without the signature, which is DE AD in every header.
structure NcpHeader where
  packetLen : UInt16
  packetType : UInt8
  isAck : Bool
  isNack : Bool
  packetSeq : Fin 4
  ackSeq : Fin 4
  firstFragment : Bool
  lastFragment : Bool
  headerCrc : UInt8
deriving DecidableEq, Repr

def HEADER_SIZE : Nat := 7

namespace NcpHeader

-- The bit fields share one byte, the first field in the lowest bit.
def flags (hdr : NcpHeader) : UInt8 :=
  UInt8.ofNat (hdr.isAck.toNat + 2 * hdr.isNack.toNat + 4 * hdr.packetSeq + 16 * hdr.ackSeq +
    64 * hdr.firstFragment.toNat + 128 * hdr.lastFragment.toNat)

-- The four bytes from packet_len on that the header CRC covers.
def crcInput (hdr : NcpHeader) : List UInt8 :=
  toLE 2 hdr.packetLen.toNat ++ [hdr.packetType, hdr.flags]

def withCrc (hdr : NcpHeader) : NcpHeader := { hdr with headerCrc := Utils.crc8 hdr.crcInput }

def bytes (hdr : NcpHeader) : List UInt8 :=
  [0xde, 0xad] ++ hdr.crcInput ++ [hdr.headerCrc]

-- The header at the front of the received bytes.
def read (rxData : List UInt8) : NcpHeader :=
  let flags := (rxData.getD 5 0).toNat
  { packetLen := UInt16.ofNat (ofLE ((rxData.drop 2).take 2))
    packetType := rxData.getD 4 0
    isAck := flags.testBit 0
    isNack := flags.testBit 1
    packetSeq := Fin.ofNat 4 (flags / 4)
    ackSeq := Fin.ofNat 4 (flags / 16)
    firstFragment := flags.testBit 6
    lastFragment := flags.testBit 7
    headerCrc := rxData.getD 6 0 }

end NcpHeader

structure Link where
  txSeq : UInt8
  -- m_last_rx_seq only ever holds the packet_seq of a header
  lastRxSeq : Fin 4
  lastRxSeqValid : Bool
deriving DecidableEq, Repr

structure State where
  -- m_rx_buffer up to m_rx_buffer_pos
  rxBuffer : List UInt8
  link : Link
deriving DecidableEq, Repr

-- The calls that leave the protocol layer: transport::send of an ACK or NACK
-- header, and app::on_rx_data.
inductive Action where
  | send (rsp : NcpHeader)
  | onRxData (data : List UInt8)
deriving DecidableEq, Repr

def initInt : State :=
  { rxBuffer := [], link := { txSeq := 1, lastRxSeq := 0, lastRxSeqValid := false } }

-- The bytes from the signature on. A 0xDE at the very end is kept, since its
-- 0xAD may still arrive.
def findSignature : List UInt8 → Option (List UInt8)
  | [] => none
  | byte :: rest =>
      if byte = 0xde ∧ (rest = [] ∨ rest.head? = some 0xad) then some (byte :: rest)
      else findSignature rest

def next_seq_map : Fin 4 → UInt8
  | 0 => 0x01
  | 1 => 0x02
  | 2 => 0x03
  | 3 => 0x01

def nextSeq (seq : UInt8) : UInt8 :=
  next_seq_map (Fin.ofNat 4 seq.toNat)

-- The common body of send_ack and send_nack. The outcome of transport::send
-- is only logged.
def reply (isNack : Bool) (link : Link) (hdr : NcpHeader) : Link × List Action :=
  let rsp : NcpHeader :=
    { packetLen := 5
      packetType := ZBOSS_NCP_API_HL
      isAck := true
      isNack := isNack
      packetSeq := Fin.ofNat 4 link.txSeq.toNat
      ackSeq := hdr.packetSeq
      firstFragment := true
      lastFragment := true
      headerCrc := 0 }
  ({ link with txSeq := nextSeq link.txSeq },
    [.send rsp.withCrc])

def sendAck : Link → NcpHeader → Link × List Action := reply false

def sendNack : Link → NcpHeader → Link × List Action := reply true

-- What send_data_int comes to before transport::send takes the frame.
inductive SendData where
  | nothing
  | tooLong
  | frame (hdr : NcpHeader) (data : List UInt8)
deriving DecidableEq, Repr

def sendDataInt (link : Link) (data : List UInt8) : Link × SendData :=
  if data = [] then (link, .nothing)
  else if data.length > TX_BUFFER_SIZE - HEADER_SIZE - 2 then (link, .tooLong)
  else
    let hdr : NcpHeader :=
      { packetLen := UInt16.ofNat (data.length + HEADER_SIZE + 2 - 2)
        packetType := ZBOSS_NCP_API_HL
        isAck := false
        isNack := false
        packetSeq := Fin.ofNat 4 link.txSeq.toNat
        ackSeq := 0
        firstFragment := true
        lastFragment := true
        headerCrc := 0 }
    ({ link with txSeq := nextSeq link.txSeq }, .frame hdr.withCrc data)

def onRxPacket (link : Link) (hdr : NcpHeader) (data : Option (List UInt8)) :
    Link × List Action :=
  if hdr.isAck then (link, [])
  else
    match data with
    | none => (link, [])
    | some data =>
        if hdr.packetType ≠ ZBOSS_NCP_API_HL then sendNack link hdr
        -- a retransmission of the frame accepted last: its ACK was lost
        else if hdr.isNack && link.lastRxSeqValid && hdr.packetSeq == link.lastRxSeq then
          sendAck link hdr
        else
          let (link, actions) := sendAck link hdr
          ({ link with lastRxSeq := hdr.packetSeq, lastRxSeqValid := true },
            actions ++ [.onRxData data])

-- What the loop of on_rx_int finds at the front of the unread bytes.
inductive Item where
  -- DE AD with a wrong header CRC or an impossible packet_len
  | skip
  | empty (hdr : NcpHeader)
  | badData (hdr : NcpHeader)
  | packet (hdr : NcpHeader) (data : List UInt8)
deriving DecidableEq, Repr

def HeaderOk (rxData : List UInt8) : Prop :=
  Utils.crc8 ((rxData.drop 2).take 4) = (NcpHeader.read rxData).headerCrc

instance (rxData : List UInt8) : Decidable (HeaderOk rxData) :=
  inferInstanceAs (Decidable (_ = _))

-- One iteration of the loop up to the call that handles the packet. The
-- breaks of the loop are the `wait` cases, with the bytes it leaves unread.
def scan (rxData : List UInt8) : Scan UInt8 Item :=
  if rxData.length < 7 then .wait rxData
  else
    match findSignature rxData with
    | none => .wait rxData
    | some p =>
        if p.length < 7 then .wait p
        else
          let hdr := NcpHeader.read p
          if ¬HeaderOk p then .item .skip (p.drop 2)
          else if p.length < hdr.packetLen.toNat + 2 then .wait p
          else if hdr.packetLen.toNat = 5 then .item (.empty hdr) (p.drop HEADER_SIZE)
          else if hdr.packetLen.toNat < 7 then .item .skip (p.drop 2)
          else
            let dataLen := hdr.packetLen.toNat - 5 - 2
            let packetLen := HEADER_SIZE + 2 + dataLen
            let dataCrcExpected := UInt16.ofNat (ofLE ((p.drop HEADER_SIZE).take 2))
            let data := (p.drop (HEADER_SIZE + 2)).take dataLen
            if Utils.crc16 data ≠ dataCrcExpected then .item (.badData hdr) (p.drop packetLen)
            else .item (.packet hdr data) (p.drop packetLen)

-- What holds of the bytes from the signature on, and still with one more byte
-- in front that starts none, holds of the whole input.
theorem findSignature_induction {motive : List UInt8 → Prop} {rxData p : List UInt8}
    (h : findSignature rxData = some p)
    (found : ∀ rest, p = 0xde :: rest → rest = [] ∨ rest.head? = some 0xad → motive p)
    (garbage : ∀ byte rest, findSignature rest = some p →
      ¬(byte = 0xde ∧ (rest = [] ∨ rest.head? = some 0xad)) → motive rest →
      motive (byte :: rest)) : motive rxData := by
  induction rxData with
  | nil => simp [findSignature] at h
  | cons byte rest ih =>
      rw [findSignature] at h
      split at h
      · rename_i hsig
        obtain ⟨rfl, hnext⟩ := hsig
        cases h
        exact found rest rfl hnext
      · rename_i hnot
        exact garbage byte rest h hnot (ih h)

theorem findSignature_length {rxData p : List UInt8} (h : findSignature rxData = some p) :
    p.length ≤ rxData.length :=
  findSignature_induction (motive := fun data => p.length ≤ data.length) h
    (fun _ _ _ => Nat.le_refl _) fun _ _ _ _ ih => Nat.le_succ_of_le ih

theorem scan_shrinks {rxData rest : List UInt8} {it : Item}
    (h : scan rxData = .item it rest) : rest.length < rxData.length := by
  unfold scan at h
  split at h
  · simp at h
  split at h
  · simp at h
  rename_i p hp
  have hle := findSignature_length hp
  split at h
  · simp at h
  dsimp only at h
  split_ifs at h <;> simp only [Scan.item.injEq] at h <;>
    (obtain ⟨-, rfl⟩ := h; simp only [List.length_drop, HEADER_SIZE]; omega)

def scanner : Scanner UInt8 Item := ⟨scan, scan_shrinks⟩

def handle (link : Link) : Item → Link × List Action
  | .skip => (link, [])
  | .empty hdr => onRxPacket link hdr none
  | .badData hdr => sendNack link hdr
  | .packet hdr data => onRxPacket link hdr (some data)

-- The loop of on_rx_int: the bytes it leaves unread come last.
def onRxLoop (link : Link) (rxData : List UInt8) : Link × List Action × List UInt8 :=
  match _h : scan rxData with
  | .wait tail => (link, [], tail)
  | .item it rest =>
      let (link, actions) := handle link it
      let (link, more, tail) := onRxLoop link rest
      (link, actions ++ more, tail)
termination_by rxData.length
decreasing_by exact scan_shrinks _h

-- The received bytes behind the buffered ones. When they do not fit, the
-- oldest bytes give way.
def appendRx (rxBuffer data : List UInt8) : List UInt8 :=
  if rxBuffer.length + data.length > RX_BUFFER_SIZE then
    let overflow := rxBuffer.length + data.length - RX_BUFFER_SIZE
    let moved := if overflow < rxBuffer.length then rxBuffer.drop overflow else rxBuffer
    moved.take (RX_BUFFER_SIZE - data.length) ++ data
  else rxBuffer ++ data

def onRxInt (s : State) (data : List UInt8) : State × List Action :=
  let (link, actions, tail) := onRxLoop s.link (appendRx s.rxBuffer data)
  ({ rxBuffer := tail, link }, actions)

-- Calls of on_rx_int with the chunks in order.
def onRx (s : State) : List (List UInt8) → State × List Action
  | [] => (s, [])
  | data :: rest =>
      let (s, actions) := onRxInt s data
      let (s, more) := onRx s rest
      (s, actions ++ more)

end EspCoordinator.Protocol
