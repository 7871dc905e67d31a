import CanGui.Log.Wire
/-!
# Event log — the GUI's synchroniser

`Stm32LogSync` asks the firmware for the log's information and then for
record after record, puts their fragments together and writes a row for
each record that passes its checks. Times are those of the host's
monotonic clock, in milliseconds; the file is the rows written to it.
-/

namespace CanGui

namespace Log

namespace Sync

def infoRetryDelay : Nat := 500
def requestTimeout : Nat := 1000
def maxRecordRetries : Nat := 3
def heartbeatTimeout : Nat := 1000
def logHeartbeatRxId : UInt32 := 0x55B
def heartbeatFlagReady : UInt8 := 0x01
def heartbeatFlagOverwrite : UInt8 := 0x02
def heartbeatFlagMask : UInt8 := 0x03
def cmdLogGetInfo : UInt8 := 0x30

/-- A received frame. -/
structure Message where
  arbitrationId : UInt32
  data : Bytes
  deriving DecidableEq, Repr

inductive Kind where
  | info
  | record
  deriving DecidableEq, Repr

/-- The fragments received so far, by index. -/
abbrev Fragments (n : Nat) := Vector (Option Bytes) n

namespace Fragments

variable {n : Nat}

def clear (n : Nat) : Fragments n := .replicate n none

def length (fragments : Fragments n) : Nat := fragments.toList.countP Option.isSome

/-- `b"".join` over the indices. -/
def join (fragments : Fragments n) : Bytes := fragments.toList.flatMap (·.getD [])

end Fragments

inductive SyncError where
  | responseTimeout (kind : Kind)
  | invalidDlc (messageId : UInt32) (dlc : Nat)
  | unexpectedId (messageId : UInt32)
  | logError (command code : UInt8) (sequence : Nat)
  | unknownHeader (header : UInt8)
  | invalidInfo (version recordSize : UInt8) (count capacity : Nat)
  | invalidHeartbeat (version flags : UInt8) (count : Nat)
  | invalidMagic (magic : UInt32)
  | invalidCommit (commitMarker : UInt16)
  | crc (expected calculated : Nat)
  | sequence (response : Nat) (requested : Option Int)
  | unpackFailed
  | writeFailed
  deriving DecidableEq, Repr

/-! ## A row -/

def hexDigit (digit : Nat) : Char := Char.ofNat (if digit < 10 then 48 + digit else 55 + digit)

def hexDigits : (width : Nat) → Nat → List Char
  | 0, _ => []
  | width + 1, value => hexDigits width (value / 16) ++ [hexDigit (value % 16)]

/-- `f"0x{value:0<width>X}"`, of a value that has no more digits. -/
def hexText (width value : Nat) : String := "0x" ++ String.ofList (hexDigits width value)

def sourceName (source : UInt8) : String :=
  match source.toNat with
  | 0 => "SYSTEM"
  | 1 => "CAN"
  | 2 => "RTC"
  | 3 => "ALARM"
  | 4 => "TIMESTAMP"
  | 5 => "PWM"
  | other => "UNKNOWN_" ++ toString other

def severityName (severity : UInt8) : String :=
  match severity.toNat with
  | 0 => "INFO"
  | 1 => "WARNING"
  | 2 => "FAULT"
  | other => "UNKNOWN_" ++ toString other

/-- A row of the file, without the event's name and detail, which are
texts looked up from its code. -/
structure Row where
  hostTime : String
  sequence : Nat
  uptimeMs : Nat
  rtcEpochS : Nat
  eventCode : String
  source : String
  severity : String
  data0 : String
  data1 : String
  crc16 : String
  commitMarker : String
  deriving DecidableEq, Repr

def rowOf (record : Record) (hostTime : String) : Row where
  hostTime := hostTime
  sequence := record.sequence.toNat
  uptimeMs := record.uptimeMs.toNat
  rtcEpochS := record.rtcEpochS.toNat
  eventCode := hexText 4 record.eventCode.toNat
  source := sourceName record.source
  severity := severityName record.severity
  data0 := hexText 8 record.data0.toNat
  data1 := hexText 8 record.data1.toNat
  crc16 := hexText 4 record.crc16.toNat
  commitMarker := hexText 4 record.commitMarker.toNat

/-! ## State -/

structure State where
  infoFragments : Fragments logInfoFragmentCount := .clear _
  recordFragments : Fragments logRecordFragmentCount := .clear _
  pendingKind : Option Kind := none
  pendingSequence : Option Int := none
  requestDeadline : Nat := 0
  nextInfoTime : Nat := 0
  infoRequired : Bool := true
  bootstrapComplete : Bool := false
  nextSequence : Option Int := none
  latestSequence : Nat := 0
  lastSavedSequence : Nat := 0
  savedSequences : List Nat := []
  recordRetries : List (Int × Nat) := []
  savedCount : Nat := 0
  crcErrorCount : Nat := 0
  protocolErrorCount : Nat := 0
  timeoutCount : Nat := 0
  missedCount : Nat := 0
  writeErrorCount : Nat := 0
  lastError : Option SyncError := none
  heartbeatRxCount : Nat := 0
  heartbeatMissedCount : Nat := 0
  heartbeatTimeoutCount : Nat := 0
  heartbeatTimeoutActive : Bool := false
  heartbeatWaitStarted : Nat := 0
  lastHeartbeatTime : Option Nat := none
  lastHeartbeatAliveCounter : Option Nat := none
  heartbeatLatestSequence : Nat := 0
  heartbeatRecordCount : Nat := 0
  heartbeatReady : Bool := false
  heartbeatOverwriteDetected : Bool := false
  /-- The rows written. -/
  rows : List Row := []
  deriving DecidableEq, Repr

/-- What a call finds around it: the time, whether a bus is there, takes
a command and saving is on, and whether a row can be written. -/
structure Env where
  now : Nat
  hostTime : String := ""
  bus : Bool := true
  sent : Bool := true
  enabled : Bool := true
  writable : Bool := true
  deriving DecidableEq, Repr

/-! ## The checksum -/

def crcBit (crc : Nat) : Nat :=
  if crc &&& 0x8000 ≠ 0 then ((crc <<< 1) ^^^ 0x1021) &&& 0xFFFF else (crc <<< 1) &&& 0xFFFF

def crcBits : (bits : Nat) → Nat → Nat
  | 0, crc => crc
  | bits + 1, crc => crcBits bits (crcBit crc)

/-- `calculate_crc16` -/
def calculateCrc16 (data : Bytes) : Nat :=
  data.foldl (fun (crc : Nat) (byte : UInt8) => crcBits 8 (crc ^^^ (byte.toNat <<< 8))) 0xFFFF

/-- `struct.unpack("<IIIIHBBIIHH", raw_record)` -/
def unpack (raw : Bytes) : Option Record :=
  if raw.length = 32 then
    some {
      magic := readLe32 raw
      sequence := readLe32 (raw.drop 4)
      uptimeMs := readLe32 (raw.drop 8)
      rtcEpochS := readLe32 (raw.drop 12)
      eventCode := readLe16 (raw.drop 16)
      source := raw.at' 18
      severity := raw.at' 19
      data0 := readLe32 (raw.drop 20)
      data1 := readLe32 (raw.drop 24)
      crc16 := readLe16 (raw.drop 28)
      commitMarker := readLe16 (raw.drop 30) }
  else none

namespace State

/-- `write_record` -/
def writeRecord (sync : State) (record : Record) (env : Env) : Bool × State :=
  if env.enabled = false then (false, sync)
  else if env.writable then
    (true, { sync with
      savedCount := sync.savedCount + 1
      lastError := none
      rows := sync.rows ++ [rowOf record env.hostTime] })
  else
    (false, { sync with
      writeErrorCount := sync.writeErrorCount + 1
      lastError := some .writeFailed })

/-- `record_retries.get(sequence, 0)` -/
def retriesOf (sync : State) (sequence : Option Int) : Nat :=
  (sequence.bind fun key => sync.recordRetries.lookup key).getD 0

/-- `record_retries.pop(sequence, None)` -/
def forgetRetries (sync : State) (sequence : Int) : List (Int × Nat) :=
  sync.recordRetries.filter (·.1 != sequence)

/-- `_reject_record` -/
def rejectRecord (sync : State) (sequence : Option Int) (description : SyncError)
    (crcError : Bool) : State :=
  let retryCount := sync.retriesOf sequence + 1
  let key := sequence.getD 0
  let sync := { sync with
    crcErrorCount := if crcError then sync.crcErrorCount + 1 else sync.crcErrorCount
    protocolErrorCount :=
      if crcError then sync.protocolErrorCount else sync.protocolErrorCount + 1
    recordRetries := (key, retryCount) :: sync.forgetRetries key
    lastError := some description }
  if maxRecordRetries < retryCount then
    { sync with
      missedCount := sync.missedCount + 1
      nextSequence := some (key + 1)
      recordRetries := sync.forgetRetries key }
  else sync

/-- The first check a record fails, and whether it is the checksum's. -/
def failedCheck (record : Record) (calculatedCrc : Nat) (requested : Option Int) :
    Option (SyncError × Bool) :=
  if record.magic ≠ logRecordMagic then some (.invalidMagic record.magic, false)
  else if record.commitMarker ≠ logCommitMarker then
    some (.invalidCommit record.commitMarker, false)
  else if record.crc16.toNat ≠ calculatedCrc then
    some (.crc record.crc16.toNat calculatedCrc, true)
  else if requested ≠ some (record.sequence.toNat : Int) then
    some (.sequence record.sequence.toNat requested, false)
  else none

/-- The end of `_complete_record`. -/
def recordSaved (sync : State) (sequence : Nat) : State :=
  { sync with
    recordRetries := sync.forgetRetries sequence
    lastSavedSequence := sequence
    nextSequence := some (sequence + 1)
    lastError := none }

/-- What `_complete_record` does with a record that passed its checks. -/
def acceptRecord (sync : State) (record : Record) (env : Env) : State :=
  let sequence := record.sequence.toNat
  if sequence ∈ sync.savedSequences then sync.recordSaved sequence
  else
    let (written, sync) := sync.writeRecord record env
    if written = false then sync
    else { sync with savedSequences := sequence :: sync.savedSequences }.recordSaved sequence

/-- `_complete_record` -/
def completeRecord (sync : State) (env : Env) : State :=
  let rawRecord := sync.recordFragments.join.take logRecordSize
  let requestedSequence := sync.pendingSequence
  let sync := { sync with
    pendingKind := none
    pendingSequence := none
    recordFragments := .clear _ }
  match unpack rawRecord with
  | none => sync.rejectRecord requestedSequence .unpackFailed false
  | some record =>
    match failedCheck record (calculateCrc16 (rawRecord.take 28)) requestedSequence with
    | some (description, crcError) => sync.rejectRecord requestedSequence description crcError
    | none => sync.acceptRecord record env

/-- The values `_complete_info` decodes. -/
structure InfoValues where
  version : UInt8
  recordSize : UInt8
  count : Nat
  capacity : Nat
  oldestSequence : Nat
  latestSequence : Nat
  deriving DecidableEq, Repr

def decodeInfo (wireInfo : Bytes) : InfoValues where
  version := wireInfo.at' 0
  recordSize := wireInfo.at' 1
  count := (readLe16 (wireInfo.drop 2)).toNat
  capacity := (readLe16 (wireInfo.drop 4)).toNat
  oldestSequence := (readLe32 (wireInfo.drop 6)).toNat
  latestSequence := (readLe32 (wireInfo.drop 10)).toNat

def InfoValues.invalid (info : InfoValues) : Bool :=
  info.version != logVersion || info.recordSize != logRecordSize.toUInt8 ||
    decide (info.capacity < info.count) ||
    (decide (0 < info.count) && decide (info.latestSequence < info.oldestSequence))

/-- Where the next request goes on, in view of the log's information. -/
def resume (sync : State) (info : InfoValues) : State :=
  if info.count = 0 then { sync with nextSequence := none }
  else match sync.nextSequence with
    | none => { sync with nextSequence := some info.oldestSequence }
    | some next =>
      if next < info.oldestSequence then
        { sync with
          missedCount := sync.missedCount + (info.oldestSequence - next).toNat
          nextSequence := some info.oldestSequence }
      else sync

/-- `_complete_info` -/
def completeInfo (sync : State) (env : Env) : State :=
  let info := decodeInfo (sync.infoFragments.join.take logInfoWireSize)
  let sync := { sync with pendingKind := none, infoFragments := .clear _ }
  if info.invalid then
    { sync with
      protocolErrorCount := sync.protocolErrorCount + 1
      lastError := some (.invalidInfo info.version info.recordSize info.count info.capacity)
      infoRequired := true
      nextInfoTime := env.now + infoRetryDelay }
  else
    let sync :=
      if sync.lastSavedSequence ≠ 0 ∧ info.latestSequence < sync.lastSavedSequence then
        { sync with
          savedSequences := []
          recordRetries := []
          lastSavedSequence := 0
          nextSequence := none }
      else sync
    let sync := { sync with
      latestSequence := info.latestSequence
      infoRequired := false
      bootstrapComplete := true }
    { sync.resume info with lastError := none }

/-- The oldest record that is still there. -/
def oldestAvailable (latestSequence recordCount : Nat) : Int :=
  if 0 < recordCount then latestSequence - recordCount + 1 else latestSequence + 1

/-- The record that is to be asked for next. -/
def requestedSequence (sync : State) (oldest : Int) : Int :=
  match sync.nextSequence with
  | some next => next
  | none => if 0 < sync.lastSavedSequence then sync.lastSavedSequence + 1 else oldest

/-- What a heartbeat of a ready log says about the next request. -/
def followHeartbeat (sync : State) (latestSequence recordCount : Nat) (env : Env) : State :=
  if sync.bootstrapComplete = false then sync
  else if latestSequence < sync.latestSequence then
    { sync with infoRequired := true, nextInfoTime := env.now, nextSequence := none }
  else if sync.latestSequence < latestSequence then
    let oldest := oldestAvailable latestSequence recordCount
    let requested := sync.requestedSequence oldest
    if requested < oldest then { sync with infoRequired := true, nextInfoTime := env.now }
    else { sync with nextSequence := some requested, latestSequence := latestSequence }
  else sync

/-- `_handle_heartbeat` -/
def handleHeartbeat (sync : State) (data : Bytes) (env : Env) : State :=
  let version := data.at' 0
  let flags := data.at' 1
  let latestSequence := (readLe32 (data.drop 2)).toNat
  let recordCount := (data.at' 6).toNat
  let aliveCounter := (data.at' 7).toNat
  if version ≠ logVersion ∨ flags &&& ~~~heartbeatFlagMask ≠ 0 ∨ ramCapacity < recordCount then
    { sync with
      protocolErrorCount := sync.protocolErrorCount + 1
      lastError := some (.invalidHeartbeat version flags recordCount) }
  else
    let missed := match sync.lastHeartbeatAliveCounter with
      | none => 0
      | some previous => (aliveCounter + 256 - previous) % 256 - 1
    let sync := { sync with
      heartbeatMissedCount := sync.heartbeatMissedCount + missed
      heartbeatRxCount := sync.heartbeatRxCount + 1
      lastHeartbeatTime := some env.now
      lastHeartbeatAliveCounter := some aliveCounter
      heartbeatLatestSequence := latestSequence
      heartbeatRecordCount := recordCount
      heartbeatReady := flags &&& heartbeatFlagReady ≠ 0
      heartbeatOverwriteDetected := flags &&& heartbeatFlagOverwrite ≠ 0
      heartbeatTimeoutActive := false }
    if sync.heartbeatReady = false then sync
    else sync.followHeartbeat latestSequence recordCount env

/-- A fragment of the information. -/
def handleInfoFragment (sync : State) (index : Nat) (data : Bytes) (env : Env) : State :=
  if sync.pendingKind ≠ some .info then sync
  else
    let sync := { sync with
      infoFragments := sync.infoFragments.setIfInBounds index (some (data.drop 1)) }
    if sync.infoFragments.length = logInfoFragmentCount then sync.completeInfo env else sync

/-- A fragment of a record. -/
def handleRecordFragment (sync : State) (index : Nat) (data : Bytes) (env : Env) : State :=
  if sync.pendingKind ≠ some .record then sync
  else
    let sync := { sync with
      recordFragments := sync.recordFragments.setIfInBounds index (some (data.drop 1)) }
    if sync.recordFragments.length = logRecordFragmentCount then sync.completeRecord env else sync

/-- The answer that there is no such record. -/
def handleErrorFrame (sync : State) (data : Bytes) (env : Env) : State :=
  { sync with
    protocolErrorCount := sync.protocolErrorCount + 1
    lastError := some (.logError (data.at' 1) (data.at' 2) (readLe32 (data.drop 4)).toNat)
    pendingKind := none
    pendingSequence := none
    nextSequence := none
    infoRequired := true
    nextInfoTime := env.now }

def protocolError (sync : State) (error : SyncError) : State :=
  { sync with protocolErrorCount := sync.protocolErrorCount + 1, lastError := some error }

/-- `handle_message` -/
def handleMessage (sync : State) (message : Message) (env : Env) : State :=
  let data := message.data
  if data.length ≠ 8 then sync.protocolError (.invalidDlc message.arbitrationId data.length)
  else if message.arbitrationId = logHeartbeatRxId then sync.handleHeartbeat data env
  else if message.arbitrationId ≠ logResponseTxId then
    sync.protocolError (.unexpectedId message.arbitrationId)
  else
    let header := data.at' 0
    if logInfoFragmentBase ≤ header ∧ header ≤ logInfoFragmentBase + 2 then
      sync.handleInfoFragment (header - logInfoFragmentBase).toNat data env
    else if logRecordFragmentBase ≤ header ∧ header ≤ logRecordFragmentBase + 4 then
      sync.handleRecordFragment (header - logRecordFragmentBase).toNat data env
    else if header = logErrorFrame then sync.handleErrorFrame data env
    else sync.protocolError (.unknownHeader header)

/-! ## Requests -/

/-- `send_command`, of eight bytes. -/
def canSend (env : Env) : Bool := env.bus && env.sent

/-- `request_info` -/
def requestInfo (sync : State) (env : Env) : State :=
  if canSend env = false then sync
  else
    { sync with
      infoFragments := .clear _
      pendingKind := some .info
      pendingSequence := none
      requestDeadline := env.now + requestTimeout }

/-- `request_record` -/
def requestRecord (sync : State) (sequence : Int) (env : Env) : State :=
  if canSend env = false then sync
  else
    { sync with
      recordFragments := .clear _
      pendingKind := some .record
      pendingSequence := some sequence
      requestDeadline := env.now + requestTimeout }

/-- `_update_heartbeat_timeout` -/
def updateHeartbeatTimeout (sync : State) (env : Env) : State :=
  let reference := sync.lastHeartbeatTime.getD sync.heartbeatWaitStarted
  if heartbeatTimeout ≤ env.now - reference ∧ sync.heartbeatTimeoutActive = false then
    { sync with
      heartbeatTimeoutActive := true
      heartbeatTimeoutCount := sync.heartbeatTimeoutCount + 1 }
  else sync

/-- A request that was not answered in time. -/
def requestTimedOut (sync : State) (kind : Kind) (env : Env) : State :=
  { sync with
    timeoutCount := sync.timeoutCount + 1
    lastError := some (.responseTimeout kind)
    pendingKind := none
    pendingSequence := none
    infoFragments := .clear _
    recordFragments := .clear _
    infoRequired := sync.infoRequired || kind == .info
    nextInfoTime := env.now + infoRetryDelay }

/-- `process` -/
def process (sync : State) (env : Env) : State :=
  if env.bus = false ∨ env.enabled = false then sync
  else
    let sync := sync.updateHeartbeatTimeout env
    match sync.pendingKind with
    | some kind => if sync.requestDeadline ≤ env.now then sync.requestTimedOut kind env else sync
    | none =>
      if sync.heartbeatReady = false ∨ sync.lastHeartbeatTime = none ∨ sync.heartbeatTimeoutActive then
        sync
      else if sync.infoRequired then
        if sync.nextInfoTime ≤ env.now then
          { sync.requestInfo env with nextInfoTime := env.now + infoRetryDelay }
        else sync
      else match sync.nextSequence with
        | none => sync
        | some next => if next ≤ sync.latestSequence then sync.requestRecord next env else sync

/-- `reset`, at a time; what counts rows and errors goes on. -/
def reset (sync : State) (now : Nat) : State :=
  { sync with
    infoFragments := .clear _
    recordFragments := .clear _
    pendingKind := none
    pendingSequence := none
    requestDeadline := 0
    nextInfoTime := now
    infoRequired := true
    bootstrapComplete := false
    nextSequence := none
    latestSequence := 0
    lastSavedSequence := 0
    savedSequences := []
    recordRetries := []
    lastError := none
    heartbeatRxCount := 0
    heartbeatMissedCount := 0
    heartbeatTimeoutCount := 0
    heartbeatTimeoutActive := false
    heartbeatWaitStarted := now
    lastHeartbeatTime := none
    lastHeartbeatAliveCounter := none
    heartbeatLatestSequence := 0
    heartbeatRecordCount := 0
    heartbeatReady := false
    heartbeatOverwriteDetected := false }

end State

/-- What the synchroniser meets. -/
inductive Event where
  | message (message : Message) (env : Env)
  | process (env : Env)
  deriving DecidableEq, Repr

def step (sync : State) : Event → State
  | .message message env => sync.handleMessage message env
  | .process env => sync.process env

end Sync

end Log

end CanGui
