import CanGui.Common.Run
import CanGui.Common.Shift
/-!
# CAN transport — the transmit queue

Sixteen places for the frames the controller has no room for: the
high-priority frames first, behind them the rest in order, at most one
waiting frame for each identifier of those sent as the latest value. What
was accepted, sent and evicted is kept beside, in order.
-/

namespace CanGui

/-- The eight bytes of a classic frame. -/
abbrev Payload := Vector UInt8 8

namespace Transport

def txQueueCapacity : Nat := 16

def queueStuckTimeoutMs : UInt32 := 1000

inductive IdType where
  | standard
  | extended
  deriving DecidableEq, Repr

inductive Result where
  | ok
  | queued
  | notInitialized
  | invalidId
  | queueFull
  | halError
  deriving DecidableEq, Repr

/-- What comes of handing the controller a frame. -/
inductive Outcome where
  /-- No place in its FIFO. -/
  | full
  /-- The HAL reports an error; the frame is not sent. -/
  | error
  | ok
  deriving DecidableEq, Repr

/-- A frame of the queue. `serial` numbers the calls it came from and is
not part of the source's record. -/
structure Message where
  identifier : UInt32
  idType : IdType
  data : Payload
  highPriority : Bool
  replaceable : Bool
  serial : Nat
  deriving DecidableEq, Repr

instance : Inhabited Message := ⟨⟨0, .standard, .replicate 8 0, false, false, 0⟩⟩

structure Stats where
  sentDirect : UInt32 := 0
  enqueued : UInt32 := 0
  coalesced : UInt32 := 0
  highPriorityEnqueued : UInt32 := 0
  periodicEvicted : UInt32 := 0
  sentFromQueue : UInt32 := 0
  queueOverflow : UInt32 := 0
  halError : UInt32 := 0
  queueStuckEvents : UInt32 := 0
  currentPendingMs : UInt32 := 0
  longestPendingMs : UInt32 := 0
  pendingCount : Nat := 0
  queueHighWatermark : Nat := 0
  queueStuckActive : Bool := false
  deriving DecidableEq, Repr

/-- What happened to the frames, in order. -/
structure Ledger where
  /-- The calls so far. -/
  calls : Nat := 0
  /-- The frames whose call returned `ok` or `queued`. -/
  accepted : List Message := []
  /-- The frames the controller took. -/
  sent : List Message := []
  /-- The frames that made room for another. -/
  evicted : List Message := []
  deriving DecidableEq, Repr

namespace Ledger

/-- A call is accepted. -/
def accept (ledger : Ledger) (message : Message) : Ledger :=
  { ledger with calls := ledger.calls + 1, accepted := ledger.accepted ++ [message] }

/-- A call is refused. -/
def refuse (ledger : Ledger) : Ledger := { ledger with calls := ledger.calls + 1 }

def send (ledger : Ledger) (message : Message) : Ledger :=
  { ledger with sent := ledger.sent ++ [message] }

def evict (ledger : Ledger) (message : Message) : Ledger :=
  { ledger with evicted := ledger.evicted ++ [message] }

@[simp] theorem accepted_accept (ledger : Ledger) (m : Message) :
    (ledger.accept m).accepted = ledger.accepted ++ [m] := rfl

@[simp] theorem accepted_refuse (ledger : Ledger) :
    ledger.refuse.accepted = ledger.accepted := rfl

@[simp] theorem sent_accept (ledger : Ledger) (m : Message) :
    (ledger.accept m).sent = ledger.sent := rfl

@[simp] theorem accepted_send (ledger : Ledger) (m : Message) :
    (ledger.send m).accepted = ledger.accepted := rfl

@[simp] theorem sent_send (ledger : Ledger) (m : Message) :
    (ledger.send m).sent = ledger.sent ++ [m] := rfl

end Ledger

structure Machine where
  /-- `can_handle` is set. -/
  initialized : Bool := false
  txQueue : List Message := List.replicate txQueueCapacity default
  txQueueCount : Nat := 0
  stats : Stats := {}
  queuePendingSinceTick : UInt32 := 0
  queuePendingTimerActive : Bool := false
  queueStuckReported : Bool := false
  ledger : Ledger := {}
  deriving DecidableEq, Repr

namespace Machine

/-- The frames waiting. -/
def pending (machine : Machine) : List Message := machine.txQueue.take machine.txQueueCount

/-- The message at a place of the queue. -/
def at' (machine : Machine) (i : Nat) : Message := machine.txQueue.getD i default

/-- `CAN_Transport_UpdateQueueHealth` -/
def updateQueueHealth (machine : Machine) (now : UInt32) : Machine :=
  if machine.txQueueCount = 0 then
    let duration := now - machine.queuePendingSinceTick
    { machine with
      queuePendingTimerActive := false
      queueStuckReported := false
      stats := { machine.stats with
        longestPendingMs :=
          if machine.queuePendingTimerActive = true ∧ machine.stats.longestPendingMs < duration
          then duration else machine.stats.longestPendingMs
        currentPendingMs := 0
        queueStuckActive := false } }
  else
    let since := if machine.queuePendingTimerActive then machine.queuePendingSinceTick else now
    let reported := machine.queuePendingTimerActive && machine.queueStuckReported
    let duration := now - since
    let stuck := decide (queueStuckTimeoutMs ≤ duration) && !reported
    { machine with
      queuePendingSinceTick := since
      queuePendingTimerActive := true
      queueStuckReported := reported || stuck
      stats := { machine.stats with
        currentPendingMs := duration
        longestPendingMs :=
          if machine.stats.longestPendingMs < duration then duration
          else machine.stats.longestPendingMs
        queueStuckActive := machine.stats.queueStuckActive || stuck
        queueStuckEvents :=
          if stuck then machine.stats.queueStuckEvents + 1 else machine.stats.queueStuckEvents } }

/-- The controller took the frame. -/
def send (machine : Machine) (message : Message) : Machine :=
  { machine with ledger := machine.ledger.send message }

/-- The HAL refused the frame. -/
def halFailed (machine : Machine) : Machine :=
  { machine with stats := { machine.stats with halError := machine.stats.halError + 1 } }

/-- The first replaceable place below `index`, from above; the lowest
place when there is none. -/
def findEvict (machine : Machine) : Nat → Nat
  | 0 => 0
  | index + 1 => if (machine.at' index).replaceable then index else machine.findEvict index

/-- Where the high-priority frames end; `fuel` bounds the places left. -/
def findInsert (machine : Machine) : (fuel insertIndex : Nat) → Nat
  | 0, insertIndex => insertIndex
  | fuel + 1, insertIndex =>
    if insertIndex < machine.txQueueCount ∧ (machine.at' insertIndex).highPriority then
      machine.findInsert fuel (insertIndex + 1)
    else insertIndex

/-- Taking a place out of the queue. -/
def remove (machine : Machine) (index : Nat) : Machine :=
  { machine with
    txQueue := shiftDown machine.txQueue index (machine.txQueueCount - 1 - index)
    txQueueCount := machine.txQueueCount - 1 }

/-- Making room in a full queue for a high-priority frame. -/
def evict (machine : Machine) : Machine :=
  let index := machine.findEvict machine.txQueueCount
  let evicted := machine.at' index
  let machine := machine.remove index
  { machine with
    stats := { machine.stats with periodicEvicted := machine.stats.periodicEvicted + 1 }
    ledger := machine.ledger.evict evicted }

/-- Putting a frame into a queue that has room; `queueWasEmpty` is what
`CAN_Transport_Enqueue` noted first. -/
def insert (machine : Machine) (message : Message) (queueWasEmpty : Bool) (now : UInt32) :
    Machine :=
  let index :=
    if message.highPriority then machine.findInsert machine.txQueueCount 0
    else machine.txQueueCount
  let count := machine.txQueueCount + 1
  { machine with
    txQueue := (shiftUp machine.txQueue index (machine.txQueueCount - index)).set index message
    txQueueCount := count
    queuePendingSinceTick := if queueWasEmpty then now else machine.queuePendingSinceTick
    queuePendingTimerActive := queueWasEmpty || machine.queuePendingTimerActive
    queueStuckReported := !queueWasEmpty && machine.queueStuckReported
    stats := { machine.stats with
      enqueued := machine.stats.enqueued + 1
      currentPendingMs := if queueWasEmpty then 0 else machine.stats.currentPendingMs
      queueStuckActive := !queueWasEmpty && machine.stats.queueStuckActive
      highPriorityEnqueued :=
        if message.highPriority then machine.stats.highPriorityEnqueued + 1
        else machine.stats.highPriorityEnqueued
      queueHighWatermark := max machine.stats.queueHighWatermark count } }

def overflow (machine : Machine) : Machine :=
  { machine with
    stats := { machine.stats with queueOverflow := machine.stats.queueOverflow + 1 } }

/-- `CAN_Transport_Enqueue` -/
def enqueue (machine : Machine) (message : Message) (now : UInt32) : Result × Machine :=
  let queueWasEmpty := decide (machine.txQueueCount = 0)
  if txQueueCapacity ≤ machine.txQueueCount then
    if message.highPriority = false then (.queueFull, machine.overflow)
    else if (machine.at' (machine.findEvict machine.txQueueCount)).replaceable = false then
      (.queueFull, machine.overflow)
    else (.queued, machine.evict.insert message queueWasEmpty now)
  else (.queued, machine.insert message queueWasEmpty now)

/-- `CAN_Transport_FindPending`: the first place that waits for a newer
value of this identifier. -/
def findPending (machine : Machine) (identifier : UInt32) (idType : IdType) : Option Nat :=
  machine.pending.findIdx? fun message =>
    message.identifier == identifier && message.idType == idType && message.replaceable

/-- Giving a waiting frame the newest value. -/
def replace (machine : Machine) (index : Nat) (message : Message) : Machine :=
  { machine with
    txQueue := machine.txQueue.set index
      { machine.at' index with data := message.data, serial := message.serial }
    stats := { machine.stats with coalesced := machine.stats.coalesced + 1 } }

/-- What follows when the frame was not sent at once. -/
def waitOrReplace (machine : Machine) (message : Message) (now : UInt32) : Result × Machine :=
  match message.replaceable, machine.findPending message.identifier message.idType with
  | true, some index => (.queued, machine.replace index message)
  | _, _ => machine.enqueue message now

/-- The send proper: at once when nothing waits, else through the queue. -/
def transmit (machine : Machine) (message : Message) (outcome : Outcome) (now : UInt32) :
    Result × Machine :=
  if machine.txQueueCount = 0 then
    match outcome with
    | .ok =>
      let machine := machine.send message
      (.ok, { machine with
        stats := { machine.stats with sentDirect := machine.stats.sentDirect + 1 } })
    | .error => machine.halFailed.waitOrReplace message now
    | .full => machine.waitOrReplace message now
  else machine.waitOrReplace message now

end Machine

/-- The largest identifier of a type. -/
def IdType.maximum : IdType → UInt32
  | standard => 0x7FF
  | extended => 0x1FFFFFFF

/-- Which of the three calls is made. -/
inductive Kind where
  | plain
  | latest
  | highPriority
  deriving DecidableEq, Repr

/-- A call: its arguments, what the controller answers when it is asked,
and the two readings of the clock. -/
structure Send where
  kind : Kind
  identifier : UInt32
  idType : IdType
  data : Payload
  outcome : Outcome
  now : UInt32
  enqueuedAt : UInt32
  deriving DecidableEq, Repr

namespace Machine

/-- The message a call makes. -/
def message (machine : Machine) (call : Send) : Message where
  identifier := call.identifier
  idType := call.idType
  data := call.data
  highPriority := call.kind = .highPriority
  replaceable := call.kind = .latest
  serial := machine.ledger.calls

/-- `CAN_Transport_SendClassicInternal`, as `CAN_Transport_SendClassic`,
`CAN_Transport_SendClassicLatest` and
`CAN_Transport_SendClassicHighPriority` call it. -/
def sendClassicInternal (machine : Machine) (call : Send) : Result × Machine :=
  if machine.initialized = false then (.notInitialized, machine)
  else if call.idType.maximum < call.identifier then (.invalidId, machine)
  else
    let (result, machine') :=
      (machine.updateQueueHealth call.now).transmit (machine.message call) call.outcome
        call.enqueuedAt
    if result = .ok ∨ result = .queued then
      (result, { machine' with ledger := machine'.ledger.accept (machine.message call) })
    else (result, { machine' with ledger := machine'.ledger.refuse })

/-- One turn of `CAN_Transport_Process`, after the controller took the
first frame. -/
def sendFirst (machine : Machine) : Machine :=
  let machine := (machine.send (machine.at' 0)).remove 0
  { machine with
    stats := { machine.stats with sentFromQueue := machine.stats.sentFromQueue + 1 } }

/-- The loop of `CAN_Transport_Process`; `outcomes` are the controller's
answers, `fuel` bounds the turns. -/
def drain (machine : Machine) (outcomes : Nat → Outcome) : (fuel : Nat) → Machine
  | 0 => machine
  | fuel + 1 =>
    if machine.txQueueCount = 0 then machine
    else match outcomes 0 with
      | .ok => machine.sendFirst.drain (fun k => outcomes (k + 1)) fuel
      | .error => machine.halFailed
      | .full => machine

/-- `CAN_Transport_Process`. A turn takes a frame out, so the frames that
wait bound the turns. -/
def process (machine : Machine) (outcomes : Nat → Outcome) (now after : UInt32) : Machine :=
  if machine.initialized = false then machine
  else
    let machine := machine.updateQueueHealth now
    (machine.drain outcomes machine.txQueueCount).updateQueueHealth after

/-- `CAN_Transport_Init`; the frames of an earlier life are forgotten. -/
def init (machine : Machine) (handle : Bool) : Machine :=
  { machine with
    initialized := handle
    txQueueCount := 0
    stats := {}
    queuePendingSinceTick := 0
    queuePendingTimerActive := false
    queueStuckReported := false
    ledger := {} }

/-- `CAN_Transport_GetStats` -/
def getStats (machine : Machine) (now : UInt32) : Stats :=
  let machine := machine.updateQueueHealth now
  { machine.stats with pendingCount := machine.txQueueCount }

end Machine

inductive Event where
  | send (call : Send)
  | process (outcomes : Nat → Outcome) (now after : UInt32)

def step (machine : Machine) : Event → Machine
  | .send call => (machine.sendClassicInternal call).2
  | .process outcomes now after => machine.process outcomes now after

end Transport

end CanGui
