import CanGui.Common.Run
import CanGui.Log.Record
/-!
# Event log — the ring and its recovery

Sixty-four slots in storage that outlives a reset, and indices in memory
that does not. After a reset the indices are found again from the valid
records alone: the newest one, and backwards from it as long as the
sequence numbers go down by one.
-/

namespace CanGui

namespace Log

def ramCapacity : Nat := 64

/-- `App_Log_Debug_t` -/
structure Debug where
  writeCount : UInt32 := 0
  overwriteCount : UInt32 := 0
  rejectedCount : UInt32 := 0
  nextSequence : UInt32 := 0
  lastSequence : UInt32 := 0
  count : Nat := 0
  headIndex : Nat := 0
  tailIndex : Nat := 0
  lastEventCode : UInt16 := 0
  recoveredCount : Nat := 0
  invalidRetainedCount : Nat := 0
  storageReady : Bool := false
  deriving DecidableEq, Repr

/-- What a reset clears. -/
structure Ram where
  headIndex : Nat := 0
  tailIndex : Nat := 0
  count : Nat := 0
  nextSequence : UInt32 := 0
  debug : Debug := {}
  deriving DecidableEq, Repr

structure Machine where
  /-- `g_appLogRecords` -/
  records : List Slot
  ram : Ram := {}
  /-- The records whose last word was stored, in order. -/
  completed : List Record := []
  deriving DecidableEq, Repr

/-- The slot at an index. -/
def slotAt (records : List Slot) (index : Nat) : Slot := records.getD index emptySlot

/-- The number after this one; zero is not used. -/
def nextSequence (sequence : UInt32) : UInt32 :=
  if sequence + 1 = 0 then 1 else sequence + 1

/-- `App_Log_PreviousSequence` -/
def previousSequence (sequence : UInt32) : UInt32 :=
  if sequence = 1 then 0xFFFFFFFF else sequence - 1

/-- `App_Log_IsSequenceNewer` -/
def isSequenceNewer (candidate reference : UInt32) : Bool :=
  decide (0 < (candidate - reference).toInt32)

/-! ## Recovery -/

/-- What the first loop of `App_Log_Recover` has found. -/
structure Scan where
  found : Bool := false
  newestIndex : Nat := 0
  newestSequence : UInt32 := 0
  invalidCount : Nat := 0
  deriving DecidableEq, Repr

def scanSlot (records : List Slot) (scan : Scan) (index : Nat) : Scan :=
  let slot := slotAt records index
  if isRecordValid slot = false then
    if (recordOf slot).commitMarker = logCommitMarker then
      { scan with invalidCount := scan.invalidCount + 1 }
    else scan
  else if scan.found = false ∨ isSequenceNewer (recordOf slot).sequence scan.newestSequence then
    { scan with
      newestSequence := (recordOf slot).sequence
      newestIndex := index
      found := true }
  else scan

/-- The first loop, over the slots below an index. -/
def scan (records : List Slot) : Nat → Scan
  | 0 => {}
  | index + 1 => scanSlot records (scan records index) index

/-- The second loop: how many records precede one another from here. -/
def countBack (records : List Slot) : (fuel index : Nat) → (expected : UInt32) → Nat
  | 0, _, _ => 0
  | fuel + 1, index, expected =>
    if isRecordValid (slotAt records index) ∧
        (recordOf (slotAt records index)).sequence = expected then
      countBack records fuel ((index + ramCapacity - 1) % ramCapacity)
        (previousSequence expected) + 1
    else 0

/-- `App_Log_ClearRetainedStorage` -/
def clearRetainedStorage : List Slot := List.replicate ramCapacity emptySlot

/-- `App_Log_Recover`, on the counters `App_Log_Init` has cleared. -/
def recover (machine : Machine) (debug : Debug) : Machine :=
  let scanned := scan machine.records ramCapacity
  if scanned.found = false then
    { machine with
      records := clearRetainedStorage
      ram := {
        headIndex := 0
        tailIndex := 0
        count := 0
        nextSequence := 1
        debug := { debug with
          recoveredCount := 0
          invalidRetainedCount := scanned.invalidCount
          writeCount := 0
          nextSequence := 1
          count := 0
          headIndex := 0
          tailIndex := 0 } } }
  else
    let recovered := countBack machine.records ramCapacity scanned.newestIndex scanned.newestSequence
    let head := (scanned.newestIndex + 1) % ramCapacity
    let tail := (head + ramCapacity - recovered) % ramCapacity
    let next := nextSequence scanned.newestSequence
    { machine with
      ram := {
        headIndex := head
        tailIndex := tail
        count := recovered
        nextSequence := next
        debug := { debug with
          recoveredCount := recovered
          invalidRetainedCount := scanned.invalidCount
          writeCount := UInt32.ofNat recovered
          nextSequence := next
          count := recovered
          headIndex := head
          tailIndex := tail
          lastSequence := scanned.newestSequence
          lastEventCode := (recordOf (slotAt machine.records scanned.newestIndex)).eventCode } } }

/-- `App_Log_Init`; `storageReady` is what `App_Log_EnableStorage`
returns. -/
def Machine.init (machine : Machine) (storageReady : Bool) : Machine :=
  let debug : Debug := { storageReady := storageReady }
  if storageReady then recover machine debug
  else
    { machine with
      ram := {
        headIndex := 0
        tailIndex := 0
        count := 0
        nextSequence := 1
        debug := { debug with nextSequence := 1 } } }

/-! ## Pushing -/

/-- The arguments of a push. -/
structure Entry where
  source : UInt32
  severity : UInt32
  eventCode : UInt32
  rtcEpochS : UInt32
  data0 : UInt32
  data1 : UInt32
  deriving DecidableEq, Repr

def sourcePwm : UInt32 := 5
def severityFault : UInt32 := 2

/-- `App_Log_IsInputValid` -/
def Entry.isInputValid (entry : Entry) : Bool :=
  decide (entry.source ≤ sourcePwm) && decide (entry.severity ≤ severityFault)

/-- The record a push makes. -/
def Entry.record (entry : Entry) (uptimeMs sequence : UInt32) : Record :=
  Record.sealed {
    magic := logRecordMagic
    sequence := sequence
    uptimeMs := uptimeMs
    rtcEpochS := entry.rtcEpochS
    eventCode := entry.eventCode.toUInt16
    source := entry.source.toUInt8
    severity := entry.severity.toUInt8
    data0 := entry.data0
    data1 := entry.data1 }

/-- Storing a record in the slot at the head, as far as `stores` word
stores. -/
def Machine.commit (machine : Machine) (record : Record) (stores : Nat) : Machine :=
  let head := machine.ram.headIndex
  { machine with
    records := machine.records.set head (commitRecord (slotAt machine.records head) record stores)
    completed := if stores < 9 then machine.completed else machine.completed ++ [record] }

/-- The push is refused. -/
def Machine.reject (machine : Machine) : Machine :=
  { machine with
    ram := { machine.ram with
      debug := { machine.ram.debug with rejectedCount := machine.ram.debug.rejectedCount + 1 } } }

/-- What a push does behind the record it has stored. -/
def Machine.advance (machine : Machine) (record : Record) : Machine :=
  let ram := machine.ram
  let full := decide (ramCapacity ≤ ram.count)
  let next := nextSequence ram.nextSequence
  let head := (ram.headIndex + 1) % ramCapacity
  let tail := if full then (ram.tailIndex + 1) % ramCapacity else ram.tailIndex
  let count := if full then ram.count else ram.count + 1
  { machine with
    ram := {
      headIndex := head
      tailIndex := tail
      count := count
      nextSequence := next
      debug := { ram.debug with
        overwriteCount :=
          if full then ram.debug.overwriteCount + 1 else ram.debug.overwriteCount
        writeCount := ram.debug.writeCount + 1
        nextSequence := next
        lastSequence := record.sequence
        count := count
        headIndex := head
        tailIndex := tail
        lastEventCode := record.eventCode } } }

/-- Neither the arguments nor the storage stand in the way. -/
def Machine.accepts (machine : Machine) (entry : Entry) : Bool :=
  entry.isInputValid && machine.ram.debug.storageReady

/-- `App_Log_PushWithRtcTime` -/
def Machine.pushWithRtcTime (machine : Machine) (entry : Entry) (uptimeMs : UInt32) :
    Bool × Machine :=
  if entry.isInputValid = false then (false, machine.reject)
  else if machine.ram.debug.storageReady = false then (false, machine.reject)
  else
    let record := entry.record uptimeMs machine.ram.nextSequence
    (true, (machine.commit record 9).advance record)

/-- `App_Log_Push` -/
def Machine.push (machine : Machine) (entry : Entry) (uptimeMs : UInt32) : Bool × Machine :=
  machine.pushWithRtcTime { entry with rtcEpochS := 0 } uptimeMs

/-- A reset or a loss of power: what is not retained starts over. -/
def Machine.reset (machine : Machine) : Machine := { machine with ram := {} }

/-- A push that a reset ends after so many word stores. -/
def Machine.interruptedPush (machine : Machine) (entry : Entry) (uptimeMs : UInt32) (stores : Nat) :
    Machine :=
  if machine.accepts entry then
    (machine.commit (entry.record uptimeMs machine.ram.nextSequence) stores).reset
  else machine.reset

/-! ## Reading -/

namespace Machine

/-- `App_Log_GetCount` -/
def getCount (machine : Machine) : Nat := machine.ram.count

/-- The record of an age, the oldest first. -/
def ofAge (machine : Machine) (age : Nat) : Record :=
  recordOf (slotAt machine.records ((machine.ram.tailIndex + age) % ramCapacity))

/-- `App_Log_ReadOldest` -/
def readOldest (machine : Machine) (age : Nat) : Option Record :=
  if machine.ram.count ≤ age then none else some (machine.ofAge age)

/-- The records that can be read, the oldest first. -/
def readable (machine : Machine) : List Record :=
  (List.range machine.ram.count).map machine.ofAge

/-- `App_Log_ReadBySequence` -/
def readBySequence (machine : Machine) (sequence : UInt32) : Option Record :=
  if sequence = 0 then none else machine.readable.find? (·.sequence == sequence)

/-- The index of the record before the head. -/
def latestIndex (machine : Machine) : Nat :=
  (machine.ram.headIndex + ramCapacity - 1) % ramCapacity

/-- `App_Log_GetLatest` -/
def getLatest (machine : Machine) : Option Record :=
  if machine.ram.count = 0 then none
  else some (recordOf (slotAt machine.records machine.latestIndex))

end Machine

/-- `App_Log_Info_t` -/
structure Info where
  writeCount : UInt32
  overwriteCount : UInt32
  oldestSequence : UInt32
  latestSequence : UInt32
  count : Nat
  capacity : Nat
  recordSize : Nat
  deriving DecidableEq, Repr

/-- `App_Log_GetInfo` -/
def Machine.getInfo (machine : Machine) : Info where
  writeCount := machine.ram.debug.writeCount
  overwriteCount := machine.ram.debug.overwriteCount
  count := machine.ram.count
  capacity := ramCapacity
  recordSize := 32
  oldestSequence :=
    if machine.ram.count = 0 then 0
    else (recordOf (slotAt machine.records machine.ram.tailIndex)).sequence
  latestSequence :=
    if machine.ram.count = 0 then 0
    else (recordOf (slotAt machine.records machine.latestIndex)).sequence

/-! ## Runs -/

inductive Event where
  | push (entry : Entry) (uptimeMs : UInt32)
  | pushWithRtcTime (entry : Entry) (uptimeMs : UInt32)
  /-- A push that a reset ends after so many of its word stores. -/
  | interruptedPush (entry : Entry) (uptimeMs : UInt32) (stores : Nat)
  | reset
  | init
  deriving DecidableEq, Repr

/-- The storage is enabled at every boot. -/
def step (machine : Machine) : Event → Machine
  | .push entry uptimeMs => (machine.push entry uptimeMs).2
  | .pushWithRtcTime entry uptimeMs => (machine.pushWithRtcTime entry uptimeMs).2
  | .interruptedPush entry uptimeMs stores => machine.interruptedPush entry uptimeMs stores
  | .reset => machine.reset
  | .init => machine.init true

end Log

end CanGui
