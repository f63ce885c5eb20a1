import EspCoordinator.Protocol

namespace EspCoordinator.Transport

def RINGBUF_SIZE : Nat := 1024 * 20
def RINGBUF_TIMEOUT_MS : Nat := 50
-- of app
def EVENT_QUEUE_LEN : Nat := 60
def BUFFER_SIZE : Nat := 2048

inductive EspErr where
  | ok
  | fail
deriving DecidableEq, Repr

inductive Event where
  -- NCP to host
  | input
  -- host to NCP
  | output
  | reset
deriving DecidableEq, Repr

structure Ctx where
  event : Event
  size : Nat
deriving DecidableEq, Repr

def spacesAvailable (inputBuf : List UInt8) : Nat := RINGBUF_SIZE - inputBuf.length

-- xStreamBufferSend without a wait: as much as fits, and how much that was.
def streamBufferSend (inputBuf data : List UInt8) : List UInt8 × Nat :=
  let size := min data.length (spacesAvailable inputBuf)
  (inputBuf ++ data.take size, size)

-- It must not wait: the ZBOSS task gets here from a critical section.
def sendEventInt (queue : List Ctx) (ctx : Ctx) : List Ctx × EspErr :=
  if queue.length < EVENT_QUEUE_LEN then (queue ++ [ctx], .ok) else (queue, .fail)

-- The sizes of the events of one kind, in the order of the queue.
def eventSizes (event : Event) (queue : List Ctx) : List Nat :=
  (queue.filter (·.event = event)).map Ctx.size

theorem eventSizes_cons (event : Event) (ctx : Ctx) (queue : List Ctx) :
    eventSizes event (ctx :: queue) =
      if ctx.event = event then ctx.size :: eventSizes event queue else eventSizes event queue := by
  by_cases hevent : ctx.event = event
  · simp [eventSizes, hevent]
  · simp [eventSizes, hevent]

theorem eventSizes_sendEventInt (event : Event) (queue : List Ctx) (ctx : Ctx) :
    eventSizes event (sendEventInt queue ctx).1 =
      if ctx.event = event ∧ queue.length < EVENT_QUEUE_LEN then
        eventSizes event queue ++ [ctx.size]
      else eventSizes event queue := by
  unfold sendEventInt
  by_cases hevent : ctx.event = event
  · split <;> simp_all [eventSizes]
  · split <;> simp_all [eventSizes]

inductive Poll where
  | retry (count : Nat)
  | timeout
  | ready
deriving DecidableEq, Repr

-- One look at the free space in the capacity wait of send_int. After the
-- loop only `count` tells whether there was room.
def poll (spaces size count : Nat) : Poll :=
  if spaces < size then
    if count = 0 then .timeout else .retry (count - 1)
  else if count = 0 then .timeout
  else .ready

-- The free space seen when `count` rounds are left is `spaces count`.
def capacityWait (spaces : Nat → Nat) (size : Nat) : Nat → Bool
  | 0 => poll (spaces 0) size 0 = .ready
  | count + 1 =>
      match poll (spaces (count + 1)) size (count + 1) with
      | .ready => true
      | .timeout => false
      | .retry _ => capacityWait spaces size count

-- m_input_buf and m_queue.
@[ext] structure Stores where
  inputBuf : List UInt8
  queue : List Ctx
deriving DecidableEq, Repr

-- A call of send_int that no other task interrupts. `none` is a null pointer.
-- The 16 bits of the event hold any size that the buffer has room for.
def sendInt (s : Stores) (data : Option (List UInt8)) : Stores × EspErr :=
  match data with
  | none => (s, .fail)
  | some data =>
      if capacityWait (fun _ => spacesAvailable s.inputBuf) data.length
          (RINGBUF_TIMEOUT_MS / 10) then
        let (inputBuf, retSize) := streamBufferSend s.inputBuf data
        if retSize ≠ data.length then ({ s with inputBuf }, .fail)
        else
          let (queue, res) := sendEventInt s.queue { event := .input, size := data.length }
          ({ inputBuf, queue }, res)
      else (s, .fail)

def pdMS_TO_TICKS (hz : Nat) (ms : Nat) : UInt32 :=
  UInt32.ofNat (ms * hz % 2 ^ 32 / 1000)

inductive Round where
  | leave
  | blocked
  | read (got inputBuf : List UInt8)
deriving DecidableEq, Repr

-- One round of the loop of process_input_int. A read from the empty buffer
-- blocks until there are bytes or the deadline is over.
def inputRound (tick deadline : UInt32) (inputBuf : List UInt8) (size : Nat)
    (got : List UInt8) : Round :=
  if got.length < size then
    if tick ≥ deadline then .leave
    else if inputBuf = [] then .blocked
    else .read (got ++ inputBuf.take (size - got.length)) (inputBuf.drop (size - got.length))
  else .leave

end EspCoordinator.Transport
