import EspCoordinator.Lib.Chunked
import EspCoordinator.Transport.Pump

namespace EspCoordinator.Transport.Routing

open Pump (Iface)

@[ext] structure State where
  -- m_active, without IFACE_NONE
  active : Option Iface
  -- m_usb_pending_de and m_uart_pending_de
  pendingDe : Iface → Bool

def init : State := { active := none, pendingDe := fun _ => false }

-- What an RX task has read from its driver.
abbrev Arrival := Chunk Iface UInt8

-- The bytes from the first DE AD on.
def signature : List UInt8 → Option (List UInt8)
  | first :: second :: rest =>
      if first = 0xde ∧ second = 0xad then some (first :: second :: rest)
      else signature (second :: rest)
  | _ => none

def endsInDe (data : List UInt8) : Bool := data.getLast? = some 0xde

def State.setPending (s : State) (iface : Iface) (pending : Bool) : State :=
  { s with pendingDe := Function.update s.pendingDe iface pending }

-- The interface has shown a signature: the frames go out on it from now on.
def State.take (s : State) (iface : Iface) : State :=
  { active := some iface, pendingDe := Function.update s.pendingDe iface false }

-- The 0xDE of the signature went with the previous chunk.
def spans (s : State) (iface : Iface) (data : List UInt8) : Bool :=
  s.pendingDe iface && data.head? = some 0xad

-- The state, and what rx_pump is called with.
def rxQualifiedPump (s : State) (iface : Iface) (data : List UInt8) :
    State × List (List UInt8) :=
  if s.active = some iface then (s.setPending iface (endsInDe data), [data])
  else if spans s iface data then (s.take iface, [[0xde], data])
  else
    match signature data with
    | none => (s.setPending iface (endsInDe data), [])
    | some sig => (s.take iface, [sig])

-- The state, and the bytes that go on to the protocol layer.
def forward (s : State) (iface : Iface) (data : List UInt8) : State × List UInt8 :=
  let (t, calls) := rxQualifiedPump s iface data
  (t, calls.flatten)

end EspCoordinator.Transport.Routing
