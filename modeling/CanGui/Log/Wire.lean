import CanGui.Log.Ring
import CanGui.Transport.Queue
/-!
# Event log — its answers on the bus

The log's information and its records leave in fragments of seven bytes
behind a header byte that numbers them, the last one filled up with zeros.
-/

namespace CanGui

namespace Log

open Transport (Result)

def logVersion : UInt8 := 1
def logFragmentDataSize : Nat := 7
def logInfoWireSize : Nat := 18
def logInfoFragmentCount : Nat := 3
def logRecordSize : Nat := 32
def logRecordFragmentCount : Nat := 5
def logInfoFragmentBase : UInt8 := 0x70
def logRecordFragmentBase : UInt8 := 0x80
def logErrorFrame : UInt8 := 0xF0
def cmdLogReadSequence : UInt8 := 0x31
def logErrorSequenceNotFound : UInt8 := 0x01
def logResponseTxId : UInt32 := 0x55A

/-- `App_Log_Can_Stats_t`, without the heartbeat's. -/
structure CanStats where
  infoRequests : UInt32 := 0
  recordRequests : UInt32 := 0
  infoResponses : UInt32 := 0
  recordsSent : UInt32 := 0
  recordsNotFound : UInt32 := 0
  fragmentsSent : UInt32 := 0
  txFailures : UInt32 := 0
  lastRequestedSequence : UInt32 := 0
  deriving DecidableEq, Repr

/-- The sender, and beside it the frames the transport took. -/
structure Sender where
  stats : CanStats := {}
  taken : List Payload := []
  deriving DecidableEq, Repr

/-- The transport took the frame. -/
def isTaken (result : Result) : Bool := result == .ok || result == .queued

/-- One fragment of `bytes`. -/
def fragment (fragmentBase : UInt8) (bytes : Bytes) (fragmentIndex : Nat) : Payload :=
  .ofFn fun payloadIndex =>
    if payloadIndex.1 = 0 then fragmentBase ||| fragmentIndex.toUInt8
    else
      let sourceIndex := fragmentIndex * logFragmentDataSize + (payloadIndex.1 - 1)
      if sourceIndex < bytes.length then bytes.at' sourceIndex else 0

def Sender.take (sender : Sender) (payload : Payload) : Sender where
  stats := { sender.stats with fragmentsSent := sender.stats.fragmentsSent + 1 }
  taken := sender.taken ++ [payload]

def Sender.fail (sender : Sender) : Sender :=
  { sender with stats := { sender.stats with txFailures := sender.stats.txFailures + 1 } }

/-- The loop of `App_Log_Can_SendFragments`; `results` are the transport's
answers, fragment by fragment. -/
def Sender.sendFrom (sender : Sender) (fragmentBase : UInt8) (bytes : Bytes)
    (results : Nat → Result) : (left fragmentIndex : Nat) → Bool × Sender
  | 0, _ => (true, sender)
  | left + 1, fragmentIndex =>
    if isTaken (results fragmentIndex) then
      (sender.take (fragment fragmentBase bytes fragmentIndex)).sendFrom fragmentBase bytes results
        left (fragmentIndex + 1)
    else (false, sender.fail)

/-- `App_Log_Can_SendFragments` -/
def Sender.sendFragments (sender : Sender) (fragmentBase : UInt8) (bytes : Bytes)
    (fragmentCount : Nat) (results : Nat → Result) : Bool × Sender :=
  sender.sendFrom fragmentBase bytes results fragmentCount 0

/-- The frame of `App_Log_Can_SendNotFound`. -/
def notFoundPayload (sequence : UInt32) : Payload :=
  let bytes := writeLe32 sequence
  #v[logErrorFrame, cmdLogReadSequence, logErrorSequenceNotFound, 0,
    bytes.at' 0, bytes.at' 1, bytes.at' 2, bytes.at' 3]

/-- `App_Log_Can_SendNotFound` -/
def Sender.sendNotFound (sender : Sender) (sequence : UInt32) (result : Result) : Sender :=
  if isTaken result then sender.take (notFoundPayload sequence) else sender.fail

/-- The bytes `App_Log_Can_SendInfo` sends. -/
def wireInfo (info : Info) : Bytes :=
  [logVersion, info.recordSize.toUInt8] ++ writeLe16 info.count.toUInt16 ++
    writeLe16 info.capacity.toUInt16 ++ writeLe32 info.oldestSequence ++
    writeLe32 info.latestSequence ++ writeLe32 info.overwriteCount

/-- `App_Log_Can_SendInfo` -/
def Sender.sendInfo (sender : Sender) (log : Machine) (results : Nat → Result) : Bool × Sender :=
  let sender := { sender with
    stats := { sender.stats with infoRequests := sender.stats.infoRequests + 1 } }
  let (done, sender) := sender.sendFragments logInfoFragmentBase (wireInfo log.getInfo)
    logInfoFragmentCount results
  (done,
    if done then
      { sender with stats := { sender.stats with infoResponses := sender.stats.infoResponses + 1 } }
    else sender)

/-- `App_Log_Can_SendRecord`. What is returned beside the sender is
whether the whole answer was taken. -/
def Sender.sendRecord (sender : Sender) (log : Machine) (sequence : UInt32)
    (results : Nat → Result) : Bool × Sender :=
  let sender := { sender with
    stats := { sender.stats with
      recordRequests := sender.stats.recordRequests + 1
      lastRequestedSequence := sequence } }
  match log.readBySequence sequence with
  | none =>
    let sender := { sender with
      stats := { sender.stats with recordsNotFound := sender.stats.recordsNotFound + 1 } }
    (isTaken (results 0), sender.sendNotFound sequence (results 0))
  | some record =>
    let (done, sender) := sender.sendFragments logRecordFragmentBase (bytesOf record.words)
      logRecordFragmentCount results
    (done,
      if done then
        { sender with stats := { sender.stats with recordsSent := sender.stats.recordsSent + 1 } }
      else sender)

/-! ## What is sent -/

/-- The fragments of an answer. -/
def fragments (fragmentBase : UInt8) (bytes : Bytes) (fragmentCount : Nat) : List Payload :=
  (List.range fragmentCount).map (fragment fragmentBase bytes)

variable {results : Nat → Result}

/-- **When the transport has taken the whole answer, it has taken each
fragment**, in order. -/
theorem sendFrom_done (fragmentBase : UInt8) (bytes : Bytes) (left index : Nat) (sender : Sender)
    (hdone : (sender.sendFrom fragmentBase bytes results left index).1 = true) :
    (sender.sendFrom fragmentBase bytes results left index).2.taken =
      sender.taken ++ (List.range' index left).map (fragment fragmentBase bytes) := by
  induction left generalizing sender index with
  | zero => exact (List.append_nil _).symm
  | succ left ih =>
    rw [Sender.sendFrom] at hdone ⊢
    by_cases htaken : isTaken (results index) = true
    · rw [if_pos htaken] at hdone ⊢
      rw [ih _ _ hdone, List.range'_succ, List.map_cons]
      exact (List.append_cons ..).symm
    · rw [if_neg htaken] at hdone
      cases hdone

theorem sendFragments_done (fragmentBase : UInt8) (bytes : Bytes) (fragmentCount : Nat)
    (sender : Sender)
    (hdone : (sender.sendFragments fragmentBase bytes fragmentCount results).1 = true) :
    (sender.sendFragments fragmentBase bytes fragmentCount results).2.taken =
      sender.taken ++ fragments fragmentBase bytes fragmentCount := by
  rw [fragments, List.range_eq_range']
  exact sendFrom_done fragmentBase bytes fragmentCount 0 sender hdone

theorem sendInfo_done (sender : Sender) (log : Machine)
    (hdone : (sender.sendInfo log results).1 = true) :
    (sender.sendInfo log results).2.taken = sender.taken ++
      fragments logInfoFragmentBase (wireInfo log.getInfo) logInfoFragmentCount := by
  unfold Sender.sendInfo at *
  dsimp only at *
  rw [if_pos hdone]
  exact sendFragments_done _ _ _ _ hdone

theorem sendRecord_done (sender : Sender) {log : Machine} {sequence : UInt32} {record : Record}
    (hrecord : log.readBySequence sequence = some record)
    (hdone : (sender.sendRecord log sequence results).1 = true) :
    (sender.sendRecord log sequence results).2.taken = sender.taken ++
      fragments logRecordFragmentBase (bytesOf record.words) logRecordFragmentCount := by
  rw [Sender.sendRecord, hrecord] at *
  dsimp only at *
  rw [if_pos hdone]
  exact sendFragments_done _ _ _ _ hdone

end Log

end CanGui
