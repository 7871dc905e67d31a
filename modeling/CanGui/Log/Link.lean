import CanGui.Log.Order
/-!
# Event log — the log and the GUI on one bus

The log appends, starts over, tells of itself and answers; the GUI asks
and puts the answers together. Frames are delivered in the order they were
sent in. Any of them, and any request, may be lost on the way, and the
fragments of a record may arrive with other bytes.
-/

namespace CanGui

namespace Log

/-! ## Starting over -/

/-- `App_Log_Clear`; storage that is not ready is left as it is. -/
def Machine.clear (machine : Machine) : Machine where
  records := if machine.ram.debug.storageReady then clearRetainedStorage else machine.records
  ram := {
    nextSequence := 1
    debug := { storageReady := machine.ram.debug.storageReady, nextSequence := 1 } }
  completed := if machine.ram.debug.storageReady then [] else machine.completed

/-- Storage in which no slot is valid. -/
def isLost (storage : List Slot) : Bool :=
  decide (storage.length = ramCapacity) &&
    (List.range ramCapacity).all fun index => !isRecordValid (slotAt storage index)

theorem isLost_iff {storage : List Slot} : isLost storage = true ↔
    storage.length = ramCapacity ∧
      ∀ index < ramCapacity, isRecordValid (slotAt storage index) = false := by
  simp [isLost]

namespace Sync

/-! ## What is under way -/

/-- A frame on its way to the GUI. -/
inductive Frame where
  | heartbeat (info : Info) (alive : UInt8)
  | infoFragment (info : Info) (index : Fin logInfoFragmentCount)
  | recordFragment (record : Record) (index : Fin logRecordFragmentCount)
  /-- What was a fragment of a record. -/
  | corrupted (data : Payload)
  | notFound (sequence : UInt32)
  deriving DecidableEq, Repr

def Frame.message : Frame → Message
  | .heartbeat info alive => heartbeatMessage info alive
  | .infoFragment info index => fragmentMessage .info (wireInfo info) index
  | .recordFragment record index => fragmentMessage .record (bytesOf record.words) index
  | .corrupted data => messageOf data
  | .notFound sequence => messageOf (notFoundPayload sequence)

/-- The frame arrives with other bytes, if it is a record's. -/
def Frame.corrupt (frame : Frame) (data : Payload) : Frame :=
  match frame with
  | .recordFragment _ _ => .corrupted data
  | .corrupted _ => .corrupted data
  | frame => frame

/-- A request on its way to the log. -/
inductive Request where
  | info
  | record (sequence : UInt32)
  deriving DecidableEq, Repr

/-- The four bytes `request_record` sends of a number. -/
def sequenceWord (sequence : Int) : UInt32 := UInt32.ofNat (sequence % 2 ^ 32).toNat

/-- What the log answers. -/
def answer (log : Machine) : Request → List Frame
  | .info => (List.finRange logInfoFragmentCount).map (.infoFragment log.getInfo)
  | .record sequence =>
    match log.readBySequence sequence with
    | none => [.notFound sequence]
    | some record => (List.finRange logRecordFragmentCount).map (.recordFragment record)

/-- A frame, and how often the log had started over when it was sent. -/
structure Sent where
  epoch : Nat
  frame : Frame
  deriving DecidableEq, Repr

/-- A number counted as missed, and the log it is of: the one the GUI goes
by. -/
structure Counted where
  epoch : Nat
  sequence : Int
  deriving DecidableEq, Repr

/-- A row that was written, and the log it was sent by. -/
structure Written where
  epoch : Nat
  row : Row
  deriving DecidableEq, Repr

/-- A heartbeat that was received. -/
structure Heard where
  epoch : Nat
  latestSequence : Nat
  deriving DecidableEq, Repr

/-- Both sides and what is between them. What follows the GUI's state is
history: the first number it asked for, what its rows are of and its count
of missed records stands for, the last heartbeat, and the log it goes by. -/
structure Link where
  log : Machine
  epoch : Nat := 0
  requests : List Request := []
  frames : List Sent := []
  sync : State := {}
  firstRequested : Option Int := none
  written : List Written := []
  counted : List Counted := []
  heard : Option Heard := none
  seen : Nat := 0
  deriving DecidableEq, Repr

namespace State

/-- What the state keeps of a request that is sent now. -/
def asked (before after : State) : List Request :=
  match before.pendingKind, after.pendingKind with
  | none, some .info => [.info]
  | none, some .record => [.record (sequenceWord (after.pendingSequence.getD 0))]
  | _, _ => []

/-- The numbers that the count of missed records has grown by: from the
number asked for, or the one that was next. -/
def missedBetween (before after : State) : List Int :=
  let start := (before.pendingSequence.orElse fun _ => before.nextSequence).getD 0
  (List.range (after.missedCount - before.missedCount)).map fun k : Nat => start + k

/-- All that the GUI keeps are numbers below this one. -/
def outrun (sync : State) (oldest : Int) : Bool :=
  sync.nextSequence.all (· ≤ oldest) && sync.savedSequences.all (· < oldest) &&
    (sync.lastSavedSequence == 0 || decide (sync.lastSavedSequence < oldest)) &&
    (sync.pendingKind != some .record || sync.pendingSequence.all (· < oldest))

/-- It has taken over the information it waited for. -/
def tookOver (before after : State) : Bool :=
  before.pendingKind == some .info && after.pendingKind == none && !after.infoRequired

/-- It goes on with the log a frame is of: that log has none of the numbers
it keeps, or the information says that the log ends before the record it
saved last. -/
def startsOver (before after : State) (frame : Frame) : Bool :=
  match frame with
  | .heartbeat info _ => before.bootstrapComplete &&
      before.outrun (oldestAvailable info.latestSequence.toNat info.count)
  | .infoFragment info _ => tookOver before after &&
      (before.outrun info.oldestSequence.toNat || (before.lastSavedSequence != 0 &&
        decide (after.latestSequence < before.lastSavedSequence)))
  | _ => false

end State

/-! ## Steps -/

inductive Link.Event where
  /-- The log appends, is reset or is initialised. -/
  | log (event : Log.Event)
  | clear
  /-- The log is initialised on storage that holds no record. -/
  | lose (storage : List Slot)
  | heartbeat (alive : UInt8)
  /-- The log answers the oldest request. -/
  | serve
  | dropRequest (index : Nat)
  | dropFrame (index : Nat)
  | corrupt (index : Nat) (data : Payload)
  | deliver (env : Env)
  | process (env : Env)
  deriving DecidableEq, Repr

namespace Link

/-- The log sends; before it is initialised it sends nothing. -/
def send (link : Link) (frames : List Frame) : Link :=
  if link.log.ram.debug.storageReady then
    { link with frames := link.frames ++ frames.map (Sent.mk link.epoch) }
  else link

/-- The log starts over. -/
def startOver (link : Link) (log : Machine) : Link :=
  { link with log := log, epoch := link.epoch + 1 }

def serve (link : Link) : Link :=
  match link.requests with
  | [] => link
  | request :: requests => { link with requests := requests }.send (answer link.log request)

/-- The last heartbeat, after this frame. -/
def heardAfter (link : Link) (sent : Sent) : Option Heard :=
  match sent.frame with
  | .heartbeat info _ => some ⟨sent.epoch, info.latestSequence.toNat⟩
  | _ => link.heard

/-- The GUI takes a frame. -/
def take (link : Link) (sent : Sent) (frames : List Sent) (env : Env) : Link :=
  let sync := link.sync.handleMessage sent.frame.message env
  { link with
    frames := frames
    sync := sync
    written := link.written ++ (sync.rows.drop link.sync.rows.length).map (Written.mk sent.epoch)
    counted := link.counted ++ (State.missedBetween link.sync sync).map (Counted.mk link.seen)
    heard := link.heardAfter sent
    seen := if State.startsOver link.sync sync sent.frame then sent.epoch else link.seen }

def deliver (link : Link) (env : Env) : Link :=
  match link.frames with
  | [] => link
  | sent :: frames => link.take sent frames env

/-- The GUI's turn. -/
def process (link : Link) (env : Env) : Link :=
  let sync := link.sync.process env
  let asked := State.asked link.sync sync
  { link with
    sync := sync
    requests := link.requests ++ asked
    firstRequested := match asked with
      | [.record _] => link.firstRequested.orElse fun _ => sync.pendingSequence
      | _ => link.firstRequested }

def step (link : Link) : Event → Link
  | .log event => { link with log := Log.step link.log event }
  | .clear =>
    if link.log.ram.debug.storageReady then link.startOver link.log.clear
    else { link with log := link.log.clear }
  | .lose storage =>
    if isLost storage then link.startOver (({ records := storage } : Machine).init true) else link
  | .heartbeat alive => link.send [.heartbeat link.log.getInfo alive]
  | .serve => link.serve
  | .dropRequest index => { link with requests := link.requests.eraseIdx index }
  | .dropFrame index => { link with frames := link.frames.eraseIdx index }
  | .corrupt index data =>
    { link with
      frames := link.frames.modify index fun sent => { sent with frame := sent.frame.corrupt data } }
  | .deliver env => link.deliver env
  | .process env => link.process env

end Link

end Sync

end Log

end CanGui
