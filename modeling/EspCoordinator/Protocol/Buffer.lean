import EspCoordinator.Lib.Memory
import EspCoordinator.Protocol

-- on_rx_int over m_rx_buffer itself, with its indices and lengths. Whatever
-- it looks at must have been received, and whatever it writes must fit.
namespace EspCoordinator.Protocol.Buffer

open Bytes

inductive Fault where
  | unfilled (index : Nat)
  | overrun (index : Nat)
  -- a length below zero
  | negative
  -- a loop has not ended in the rounds it was given
  | endless
deriving DecidableEq, Repr

-- m_rx_buffer and m_rx_buffer_pos.
structure Rx where
  rxBuffer : Memory UInt8
  rxBufferPos : Nat

def Rx.contents (rx : Rx) : List UInt8 := rx.rxBuffer.read 0 rx.rxBufferPos

def minus (count less : Nat) : Except Fault Nat :=
  if less ≤ count then .ok (count - less) else .error .negative

def Rx.byte (rx : Rx) (index : Nat) : Except Fault UInt8 :=
  if index < rx.rxBufferPos then .ok (rx.rxBuffer index) else .error (.unfilled index)

def Rx.bytes (rx : Rx) (index size : Nat) : Except Fault (List UInt8) :=
  if index + size ≤ rx.rxBufferPos then .ok (rx.rxBuffer.read index size)
  else .error (.unfilled (index + size))

-- memcpy and memmove into the buffer.
def Rx.put (rx : Rx) (index : Nat) (data : List UInt8) : Except Fault Rx :=
  if index + data.length ≤ RX_BUFFER_SIZE then
    .ok { rx with rxBuffer := rx.rxBuffer.write index data }
  else .error (.overrun (index + data.length))

-- The oldest bytes go, and the others move to the front.
def discard (rx : Rx) (overflow : Nat) : Except Fault Rx :=
  if overflow < rx.rxBufferPos then do
    let kept ← minus rx.rxBufferPos overflow
    rx.put 0 (← rx.bytes overflow kept)
  else .ok rx

-- Room for `size` more bytes.
def makeRoom (rx : Rx) (size : Nat) : Except Fault Rx :=
  if rx.rxBufferPos + size > RX_BUFFER_SIZE then do
    let overflow ← minus (rx.rxBufferPos + size) RX_BUFFER_SIZE
    let rx ← discard rx overflow
    let rxBufferPos ← minus RX_BUFFER_SIZE size
    return { rx with rxBufferPos }
  else .ok rx

def appendRx (rx : Rx) (data : List UInt8) : Except Fault Rx := do
  let rx ← makeRoom rx data.length
  let rx ← rx.put rx.rxBufferPos data
  return { rx with rxBufferPos := rx.rxBufferPos + data.length }

-- The index of the signature from `start` on, where `last` ends the search.
def findSignature (rx : Rx) (last : Nat) : Nat → Nat → Except Fault (Option Nat)
  | 0, _ => .error .endless
  | rounds + 1, start => do
      if start = last then return none
      if (← rx.byte start) ≠ 0xde then findSignature rx last rounds (start + 1)
      else if start + 1 = last then return some start
      else if (← rx.byte (start + 1)) = 0xad then return some start
      else findSignature rx last rounds (start + 1)

-- One round of the loop: rx_data and rx_data_size when it is over, and what
-- has been found, unless the loop breaks.
structure Round where
  item? : Option Item
  rxData : Nat
  rxDataSize : Nat

-- The round behind the header CRC.
def packetRound (rx : Rx) (hdr : NcpHeader) (rxData rxDataSize : Nat) : Except Fault Round := do
  if rxDataSize < hdr.packetLen.toNat + 2 then return { item? := none, rxData, rxDataSize }
  else if hdr.packetLen.toNat = 5 then
    let rxDataSize ← minus rxDataSize HEADER_SIZE
    return { item? := some (.empty hdr), rxData := rxData + HEADER_SIZE, rxDataSize }
  else if hdr.packetLen.toNat < 7 then
    let rxDataSize ← minus rxDataSize 2
    return { item? := some .skip, rxData := rxData + 2, rxDataSize }
  else
    let dataLen ← minus (← minus hdr.packetLen.toNat 5) 2
    let packetLen := HEADER_SIZE + 2 + dataLen
    let dataCrcExpected := UInt16.ofNat (ofLE (← rx.bytes (rxData + HEADER_SIZE) 2))
    let data ← rx.bytes (rxData + HEADER_SIZE + 2) dataLen
    let item := if Utils.crc16 data ≠ dataCrcExpected then .badData hdr else .packet hdr data
    let rxDataSize ← minus rxDataSize packetLen
    return { item? := some item, rxData := rxData + packetLen, rxDataSize }

def round (rx : Rx) (rxData rxDataSize : Nat) : Except Fault Round := do
  if rxDataSize < 7 then return { item? := none, rxData, rxDataSize }
  else
    match ← findSignature rx rx.rxBufferPos (RX_BUFFER_SIZE + 1) rxData with
    | none => return { item? := none, rxData, rxDataSize }
    | some rxData =>
        let rxDataSize ← minus rx.rxBufferPos rxData
        if rxDataSize < 7 then return { item? := none, rxData, rxDataSize }
        else
          let hdr := NcpHeader.read (← rx.bytes rxData HEADER_SIZE)
          let hdrCrc := Utils.crc8 (← rx.bytes (rxData + 2) 4)
          if hdrCrc ≠ hdr.headerCrc then
            let rxDataSize ← minus rxDataSize 2
            return { item? := some .skip, rxData := rxData + 2, rxDataSize }
          else packetRound rx hdr rxData rxDataSize

-- rx_data and rx_data_size come last.
def loop (rx : Rx) : Nat → Link → Nat → Nat → Except Fault (Link × List Action × Nat × Nat)
  | 0, _, _, _ => .error .endless
  | rounds + 1, link, rxData, rxDataSize => do
      let found ← round rx rxData rxDataSize
      match found.item? with
      | none => return (link, [], found.rxData, found.rxDataSize)
      | some item =>
          let (link, actions) := handle link item
          let (link, more, tail) ← loop rx rounds link found.rxData found.rxDataSize
          return (link, actions ++ more, tail)

-- What has not been consumed moves to the front.
def keepTail (rx : Rx) (rxData rxDataSize : Nat) : Except Fault Rx :=
  if rxData ≠ 0 ∧ rxDataSize ≠ 0 then do rx.put 0 (← rx.bytes rxData rxDataSize) else .ok rx

def onRxInt (rounds : Nat) (rx : Rx) (link : Link) (data : List UInt8) :
    Except Fault (Rx × Link × List Action) := do
  let rx ← appendRx rx data
  let (link, actions, rxData, rxDataSize) ← loop rx rounds link 0 rx.rxBufferPos
  let rx ← keepTail rx rxData rxDataSize
  return ({ rx with rxBufferPos := rxDataSize }, link, actions)

end EspCoordinator.Protocol.Buffer
