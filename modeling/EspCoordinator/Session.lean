import EspCoordinator.ZbNcp
import EspCoordinator.ZbossSerial.RoundTrip

-- The web page and the device at the two ends of the link
namespace EspCoordinator.Session

open Bytes
open Protocol (Link Item Action RX_BUFFER_SIZE)
open ZbNcp (Handlers Service)

variable {σ : Type*}

structure Device (σ : Type*) where
  protocol : Protocol.State
  app : σ

-- send_data, with what transport::send gets
def sendData (link : Link) (data : List UInt8) : Link × List UInt8 :=
  let (link, frame) := Protocol.sendDataInt link data
  (link, frame.sent.getD [])

def sendAll (link : Link) : List (List UInt8) → Link × List UInt8
  | [] => (link, [])
  | data :: rest =>
      let (link, bytes) := sendData link data
      let (link, more) := sendAll link rest
      (link, bytes ++ more)

-- The calls that the protocol layer makes, and those that on_rx_data makes
-- from inside of them.
def perform (safeMode : Bool) (handlers : Handlers σ) (link : Link) (app : σ) :
    List Action → Link × σ × List UInt8
  | [] => (link, app, [])
  | .send rsp :: rest =>
      let (link, app, more) := perform safeMode handlers link app rest
      (link, app, rsp.bytes ++ more)
  | .onRxData data :: rest =>
      let (app, replies) := ZbNcp.onRxData safeMode handlers app data
      let (link, bytes) := sendAll link replies
      let (link, app, more) := perform safeMode handlers link app rest
      (link, app, bytes ++ more)

def handleAll (safeMode : Bool) (handlers : Handlers σ) (link : Link) (app : σ) :
    List Item → Link × σ × List UInt8
  | [] => (link, app, [])
  | it :: rest =>
      let (link, actions) := Protocol.handle link it
      let (link, app, bytes) := perform safeMode handlers link app actions
      let (link, app, more) := handleAll safeMode handlers link app rest
      (link, app, bytes ++ more)

-- on_rx with everything that it sends.
def onRx (safeMode : Bool) (handlers : Handlers σ) (d : Device σ) (chunk : List UInt8) :
    Device σ × List UInt8 :=
  let (items, rxBuffer) := Protocol.scanner.cut (Protocol.appendRx d.protocol.rxBuffer chunk)
  let (link, app, bytes) := handleAll safeMode handlers d.protocol.link d.app items
  ({ protocol := { rxBuffer, link }, app }, bytes)

structure Call where
  cmdId : UInt16
  payload : List UInt8
  tsn : UInt8
deriving DecidableEq, Repr

structure State (σ : Type*) where
  page : ZbossSerial.State
  device : Device σ
  toDevice : List UInt8
  toPage : List UInt8
  -- The calls of sendCommand, and what their promises were resolved with.
  calls : List Call
  results : List (UInt8 × List UInt8)

def init (app : σ) : State σ :=
  { page := ZbossSerial.init
    device := { protocol := Protocol.initInt, app }
    toDevice := []
    toPage := []
    calls := []
    results := [] }

inductive Label where
  | sendCommand (cmdId : UInt16) (payload : List UInt8)
  -- one of the two sides takes at most `count` bytes
  | onRx (count : Nat)
  | read (count : Nat)
  | indication (cmd : CommandId) (data : List UInt8)
deriving DecidableEq, Repr

def written (actions : List ZbossSerial.Action) : List UInt8 :=
  actions.flatMap fun
    | .write bytes => bytes
    | _ => []

def resolved (actions : List ZbossSerial.Action) : List (UInt8 × List UInt8) :=
  actions.filterMap fun
    | .resolve tsn data => some (tsn, data)
    | _ => none

-- The page asks for commands that are answered at once, never for those of the
-- indications. It has a free slot for the answer, and the request fits the
-- receive buffer.
def mayCall (S : Service σ) (safeMode : Bool) (page : ZbossSerial.State) (cmdId : UInt16)
    (payload : List UInt8) : Bool :=
  page.pendingRequests page.nextTsn == none && S.served safeMode cmdId &&
    !(ZbNcp.indications.map CommandId.value).contains cmdId &&
    decide (14 + payload.length ≤ RX_BUFFER_SIZE)

-- The link keeps the order of the bytes and cuts them anywhere. A read that
-- overflows the receive buffer is left out.
def step (S : Service σ) (safeMode : Bool) (s : State σ) : Label → State σ
  | .sendCommand cmdId payload =>
      if mayCall S safeMode s.page cmdId payload then
        let (page, out) := ZbossSerial.sendCommand s.page cmdId payload
        { s with
            page
            toDevice := s.toDevice ++ out
            calls := s.calls ++ [{ cmdId, payload, tsn := s.page.nextTsn }] }
      else s
  | .onRx count =>
      let chunk := s.toDevice.take count
      if s.device.protocol.rxBuffer.length + chunk.length ≤ RX_BUFFER_SIZE then
        let (device, bytes) := onRx safeMode S.handlers s.device chunk
        { s with device, toDevice := s.toDevice.drop count, toPage := s.toPage ++ bytes }
      else s
  | .read count =>
      let (page, actions) := ZbossSerial.read s.page (s.toPage.take count)
      { s with
          page
          toPage := s.toPage.drop count
          toDevice := s.toDevice ++ written actions
          results := s.results ++ resolved actions }
  | .indication cmd data =>
      if ZbNcp.indications.contains cmd then
        let protocol := s.device.protocol
        let (link, bytes) := sendAll protocol.link (ZbNcp.indication cmd data).toList
        { s with
            device := { s.device with protocol := { protocol with link } }
            toPage := s.toPage ++ bytes }
      else s

def run (S : Service σ) (safeMode : Bool) (app : σ) (labels : List Label) : State σ :=
  labels.foldl (step S safeMode) (init app)

-- A call with the data its promise is resolved with.
abbrev Answer := Call × List UInt8

def Answer.result (answer : Answer) : UInt8 × List UInt8 := (answer.1.tsn, answer.2)

-- The calls made directly, one after the other.
def replay (S : Service σ) (safeMode : Bool) (app : σ) : List Call → σ × List Answer
  | [] => (app, [])
  | call :: rest =>
      let (app, data) := S.call safeMode app call.cmdId call.payload
      let (app, more) := replay S safeMode app rest
      (app, (call, data) :: more)

end EspCoordinator.Session
