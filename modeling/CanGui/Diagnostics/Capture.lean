import CanGui.Command.Dispatch
import CanGui.Telemetry.Encoders
import CanGui.Timing.Ack
import CanGui.Transport.Queue
/-!
# Diagnostics — the snapshot and what is logged of it

Every 100 ms the counters of the receive path, the transport and the
timing are taken over into one snapshot. Issues latch, and what a counter
rose by since the last time is pushed to the event log. A counter that
fell was reinitialised; it is logged from where it is.
-/

namespace CanGui

namespace Diagnostics

def updatePeriodMs : UInt32 := 100

inductive IssueFlag where
  | canRxHal
  | canTxHal
  | txQueueOverflow
  | txQueueStuck
  | canRxBudget
  | canRxPressure
  | canRxLost
  | timingOverrun
  deriving DecidableEq, Repr

/-- `App_Diagnostics_IssueFlag_t` -/
def IssueFlag.toWord : IssueFlag → UInt32
  | .canRxHal => 0x01
  | .canTxHal => 0x02
  | .txQueueOverflow => 0x04
  | .txQueueStuck => 0x08
  | .canRxBudget => 0x10
  | .canRxPressure => 0x20
  | .canRxLost => 0x40
  | .timingOverrun => 0x80

/-- The log's sources, severities and event codes that are used here. -/
inductive LogSource where
  | system
  | can
  deriving DecidableEq, Repr

inductive LogSeverity where
  | warning
  | fault
  deriving DecidableEq, Repr

inductive LogEvent where
  | timingOverrun
  | canTxQueueOverflow
  | canRxBudgetExhausted
  | canRxFifoWatermark
  | canRxFifoFull
  | canRxMessageLost
  deriving DecidableEq, Repr

/-- The arguments of an `App_Log_Push`. -/
structure LogPush where
  source : LogSource
  severity : LogSeverity
  eventCode : LogEvent
  data0 : UInt32
  data1 : UInt32
  deriving DecidableEq, Repr

/-- What the modules report when they are asked: `CAN_App_RxStats_t` in its
two parts, `CAN_Transport_Stats_t` and `App_Timing_Snapshot_t`. -/
structure Inputs where
  canRx : Command.RxStats
  rxHealth : Telemetry.RxHealth
  canTx : Transport.Stats
  timing : Timing.State
  deriving DecidableEq, Repr

/-- `App_Diagnostics_Snapshot_t` -/
structure Snapshot where
  uptimeMs : UInt32 := 0
  updateCount : UInt32 := 0
  rejectedFramesTotal : UInt32 := 0
  latchedIssueFlags : UInt32 := 0
  canRx : Command.RxStats := {}
  rxHealth : Telemetry.RxHealth := {}
  canTx : Transport.Stats := {}
  timing : Timing.State := {}
  deriving DecidableEq, Repr

/-- The counts that were logged last. -/
structure LastLogged where
  queueOverflow : UInt32 := 0
  rxBudgetHit : UInt32 := 0
  rxWatermark : UInt32 := 0
  rxFull : UInt32 := 0
  rxMessageLost : UInt32 := 0
  timingOverrun : Fin Timing.serviceCount → UInt32 := fun _ => 0

structure State where
  snapshot : Snapshot := {}
  lastUpdateTick : UInt32 := 0
  lastLogged : LastLogged := {}

/-! ## Logging -/

/-- `App_Diagnostics_LogCounterDelta`: what is pushed, and the count to log
from next. For the queue and the budget the source writes it out. -/
def logCounterDelta (currentCount lastLoggedCount : UInt32) (severity : LogSeverity)
    (eventCode : LogEvent) : List LogPush × UInt32 :=
  if currentCount < lastLoggedCount then
    ([], currentCount)
  else if currentCount > lastLoggedCount then
    ([{ source := .can, severity, eventCode, data0 := currentCount - lastLoggedCount,
        data1 := currentCount }], currentCount)
  else
    ([], lastLoggedCount)

/-- The service in the low byte, the delta above it as far as it fits. -/
def packedServiceDelta (service delta : UInt32) : UInt32 :=
  let delta := if delta > 0x00FFFFFF then 0x00FFFFFF else delta
  service &&& (0xFF : UInt32) ||| delta <<< 8

def serviceOf (timing : Timing.State) (service : Fin Timing.serviceCount) : Timing.ServiceStats :=
  timing.service.getD service.val {}

/-- One round of the loop over the services. -/
def logOverrun (timing : Timing.State) (previousCount : UInt32)
    (service : Fin Timing.serviceCount) : List LogPush × UInt32 :=
  let currentCount := (serviceOf timing service).overrunCount
  if currentCount < previousCount then
    ([], currentCount)
  else if currentCount > previousCount then
    ([{ source := .system, severity := .warning, eventCode := .timingOverrun
        data0 := packedServiceDelta (UInt32.ofNat service.val) (currentCount - previousCount)
        data1 := Timing.cyclesToMicroseconds timing.coreClockHz
          (serviceOf timing service).maximumCycles }], currentCount)
  else
    ([], previousCount)

/-! ## The capture -/

/-- An issue latches. -/
def latch (issue : Bool) (flag : IssueFlag) (flags : UInt32) : UInt32 :=
  if issue then flags ||| flag.toWord else flags

/-- The issues that the counters show. -/
def latchIssues (inputs : Inputs) (flags : UInt32) : UInt32 :=
  let flags := latch (inputs.canRx.halRxErrors ≠ 0) .canRxHal flags
  let flags := latch (inputs.canTx.halError ≠ 0) .canTxHal flags
  let flags := latch (inputs.canTx.queueOverflow ≠ 0) .txQueueOverflow flags
  let flags := latch (inputs.canTx.queueStuckEvents ≠ 0) .txQueueStuck flags
  let flags := latch (inputs.canRx.rxBudgetHits ≠ 0) .canRxBudget flags
  let flags := latch (inputs.rxHealth.watermarkEvents ≠ 0 || inputs.rxHealth.fullEvents ≠ 0)
    .canRxPressure flags
  latch (inputs.rxHealth.messageLostEvents ≠ 0) .canRxLost flags

def rejectedFrames (stats : Command.RxStats) : UInt32 :=
  stats.rejectedWrongId + stats.rejectedFrameFormat + stats.rejectedDlc +
    stats.rejectedUnknownCommand + stats.rejectedInvalidPayload + stats.rejectedAccessDenied

/-- `App_Diagnostics_Capture`, with what it pushes. -/
def capture (state : State) (inputs : Inputs) (now : UInt32) : State × List LogPush :=
  let last := state.lastLogged
  let queueOverflow := logCounterDelta inputs.canTx.queueOverflow last.queueOverflow .warning
    .canTxQueueOverflow
  let rxBudgetHit := logCounterDelta inputs.canRx.rxBudgetHits last.rxBudgetHit .warning
    .canRxBudgetExhausted
  let rxWatermark := logCounterDelta inputs.rxHealth.watermarkEvents last.rxWatermark .warning
    .canRxFifoWatermark
  let rxFull := logCounterDelta inputs.rxHealth.fullEvents last.rxFull .warning .canRxFifoFull
  let rxMessageLost := logCounterDelta inputs.rxHealth.messageLostEvents last.rxMessageLost .fault
    .canRxMessageLost
  let overrun := fun service => logOverrun inputs.timing (last.timingOverrun service) service
  let overruns := (List.finRange Timing.serviceCount).flatMap fun service => (overrun service).1
  ({ state with
      snapshot :=
        { uptimeMs := now
          updateCount := state.snapshot.updateCount + 1
          rejectedFramesTotal := rejectedFrames inputs.canRx
          latchedIssueFlags := latch (!overruns.isEmpty) .timingOverrun
            (latchIssues inputs state.snapshot.latchedIssueFlags)
          canRx := inputs.canRx
          rxHealth := inputs.rxHealth
          canTx := inputs.canTx
          timing := inputs.timing }
      lastLogged :=
        { queueOverflow := queueOverflow.2
          rxBudgetHit := rxBudgetHit.2
          rxWatermark := rxWatermark.2
          rxFull := rxFull.2
          rxMessageLost := rxMessageLost.2
          timingOverrun := fun service => (overrun service).2 } },
    queueOverflow.1 ++ rxBudgetHit.1 ++ rxWatermark.1 ++ rxFull.1 ++ rxMessageLost.1 ++ overruns)

def init (inputs : Inputs) (now : UInt32) : State × List LogPush :=
  capture { lastUpdateTick := now } inputs now

def process (state : State) (inputs : Inputs) (now : UInt32) : State × List LogPush :=
  if now - state.lastUpdateTick < updatePeriodMs then
    (state, [])
  else
    capture { state with lastUpdateTick := now } inputs now

end Diagnostics

end CanGui
