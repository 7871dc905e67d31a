import CanGui.Common.Run
import CanGui.Common.Words
/-!
# Bus-off recovery — the main loop and its interrupts

The interrupts count bus-off, error-passive and transmit-complete events;
the main loop reads the counters, restarts the peripheral in three phases
and waits for a frame to go out. An interrupt may come between any two of
the main loop's reads, so a call carries the interrupts of each of its
points. What happened at the peripheral is kept beside, in order.
-/

namespace CanGui

namespace BusOff

def recoveryRetryIntervalMs : UInt32 := 200

def itErrorPassive : UInt32 := 0x00800000
def itBusOff : UInt32 := 0x02000000

inductive HalStatus where
  | ok
  | error
  | busy
  | timeout
  deriving DecidableEq, Repr

inductive Phase where
  | stop
  | start
  | notification
  deriving DecidableEq, Repr

inductive Step where
  | none
  | stop
  | start
  | notification
  deriving DecidableEq, Repr

inductive LogEvent where
  | busOff
  | recoveryOk
  | recoveryFailed
  | errorPassive
  deriving DecidableEq, Repr

inductive Severity where
  | info
  | warning
  | fault
  deriving DecidableEq, Repr

structure LogRecord where
  severity : Severity
  eventCode : LogEvent
  data0 : UInt32
  data1 : UInt32
  deriving DecidableEq, Repr

def Step.code : Step → UInt32
  | none => 0
  | stop => 1
  | start => 2
  | notification => 3

def HalStatus.code : HalStatus → UInt32
  | ok => 0
  | error => 1
  | busy => 2
  | timeout => 3

/-! ## State -/

/-- What the interrupts write. -/
structure Isr where
  busOffEventCount : UInt32 := 0
  lastBusOffPsr : UInt32 := 0
  lastBusOffEcr : UInt32 := 0
  errorPassiveEventCount : UInt32 := 0
  lastErrorPassivePsr : UInt32 := 0
  lastErrorPassiveEcr : UInt32 := 0
  txCompleteEventCount : UInt32 := 0
  deriving DecidableEq, Repr

/-- The part of `CAN_Recovery_Stats_t` that is counted. -/
structure Stats where
  recoveryAttempts : UInt32 := 0
  recoverySuccesses : UInt32 := 0
  recoveryFailures : UInt32 := 0
  verificationFailures : UInt32 := 0
  lastHalStatus : HalStatus := .ok
  lastFailedStep : Step := .none
  deriving DecidableEq, Repr

/-- What the main loop owns. -/
structure Main where
  handledBusOffEventCount : UInt32 := 0
  scheduledBusOffEventCount : UInt32 := 0
  loggedBusOffEventCount : UInt32 := 0
  loggedErrorPassiveEventCount : UInt32 := 0
  verificationBusOffEventCount : UInt32 := 0
  verificationTxCompleteSnapshot : UInt32 := 0
  nextRecoveryAttemptTick : UInt32 := 0
  recoveryVerificationPending : Bool := false
  busOffFaultEpisodeActive : Bool := false
  busOffLogRecordCount : UInt32 := 0
  busOffLogSuppressedCount : UInt32 := 0
  errorPassiveLogRecordCount : UInt32 := 0
  errorPassiveLogSuppressedCount : UInt32 := 0
  recoveryPhase : Phase := .stop
  recoveryStats : Stats := {}
  /-- The records pushed to the event log. -/
  log : List LogRecord := []
  deriving DecidableEq, Repr

/-- What happens at the peripheral. -/
inductive Happening where
  | busOff
  | errorPassive
  | txComplete
  | stopped (status : HalStatus)
  | started (status : HalStatus)
  | notified (status : HalStatus)
  deriving DecidableEq, Repr

def busOffs (history : List Happening) : Nat := history.count .busOff

def errorPassives (history : List Happening) : Nat := history.count .errorPassive

def txCompletes (history : List Happening) : Nat := history.count .txComplete

/-- When a call is made: its time, if there was one, and the events so
far. -/
structure Entry where
  now : Option Nat := none
  busOffs : Nat := 0
  errorPassives : Nat := 0
  deriving DecidableEq, Repr

/-- What happened so far, and how much of it the main loop had seen when
it took a count over. -/
structure Ledger where
  history : List Happening := []
  /-- The bus-off events when they were last scheduled. -/
  scheduled : Nat := 0
  /-- The error-passive events when they were last logged. -/
  logged : Nat := 0
  /-- The scheduled bus-off events and the transmissions when the
  verification began. -/
  verifying : Nat := 0
  transmitted : Nat := 0
  /-- The bus-off events that the last success verified. -/
  verified : Nat := 0
  /-- The times of the attempts. -/
  attempts : List Nat := []
  /-- The last call. -/
  called : Entry := {}
  deriving DecidableEq, Repr

structure Machine where
  isr : Isr := {}
  main : Main := {}
  ledger : Ledger := {}
  deriving DecidableEq, Repr

/-- `CAN_Recovery_Init`. -/
def recoveryInit : Machine := {}

/-! ## Interrupts -/

/-- The peripheral that an interrupt is about. -/
inductive Handle where
  | null
  | fdcan1
  | other
  deriving DecidableEq, Repr

inductive Interrupt where
  | errorStatus (hfdcan : Handle) (errorStatusIts psr ecr : UInt32)
  | txBufferComplete (hfdcan : Handle) (bufferIndexes : UInt32)
  deriving DecidableEq, Repr

def Machine.happen (machine : Machine) (happening : Happening) : Machine :=
  { machine with
    ledger := { machine.ledger with history := machine.ledger.history ++ [happening] } }

def countErrorPassive (machine : Machine) (psr ecr : UInt32) : Machine :=
  { machine with
    isr := { machine.isr with
      lastErrorPassivePsr := psr
      lastErrorPassiveEcr := ecr
      errorPassiveEventCount := machine.isr.errorPassiveEventCount + 1 } }.happen .errorPassive

def countBusOff (machine : Machine) (psr ecr : UInt32) : Machine :=
  { machine with
    isr := { machine.isr with
      lastBusOffPsr := psr
      lastBusOffEcr := ecr
      busOffEventCount := machine.isr.busOffEventCount + 1 } }.happen .busOff

def countTxComplete (machine : Machine) : Machine :=
  { machine with
    isr := { machine.isr with
      txCompleteEventCount := machine.isr.txCompleteEventCount + 1 } }.happen .txComplete

/-- `HAL_FDCAN_ErrorStatusCallback`. -/
def errorStatusCallback (machine : Machine) (hfdcan : Handle) (errorStatusIts psr ecr : UInt32) :
    Machine :=
  if hfdcan ≠ .fdcan1 then machine
  else
    let machine :=
      if errorStatusIts &&& itErrorPassive ≠ 0 then countErrorPassive machine psr ecr else machine
    if errorStatusIts &&& itBusOff ≠ 0 then countBusOff machine psr ecr else machine

/-- `HAL_FDCAN_TxBufferCompleteCallback`. -/
def txBufferCompleteCallback (machine : Machine) (hfdcan : Handle) (bufferIndexes : UInt32) :
    Machine :=
  if hfdcan = .fdcan1 ∧ bufferIndexes ≠ 0 then countTxComplete machine else machine

def interrupt (machine : Machine) : Interrupt → Machine
  | .errorStatus hfdcan errorStatusIts psr ecr =>
    errorStatusCallback machine hfdcan errorStatusIts psr ecr
  | .txBufferComplete hfdcan bufferIndexes => txBufferCompleteCallback machine hfdcan bufferIndexes

/-! ## The main loop -/

/-- The reads of the interrupts' variables in a call, and its other points
at which an interrupt makes a difference. -/
inductive Point where
  | errorPassiveTest
  | errorPassiveSnapshot
  | errorPassivePsr
  | errorPassiveEcr
  | busOffTest
  | busOffSnapshot
  | busOffPsr
  | busOffEcr
  | transmitTest
  | verificationTest
  | recovered
  | stop
  | start
  | notification
  | transmitSnapshot
  deriving DecidableEq, Repr

/-- A call: its time, the interrupts in front of each of its points, the
answers of the HAL, and the registers at the record of a recovery. -/
structure Call where
  now : Nat
  before : Point → List Interrupt := fun _ => []
  stop : HalStatus := .ok
  start : HalStatus := .ok
  notification : HalStatus := .ok
  psr : UInt32 := 0
  ecr : UInt32 := 0

/-- `HAL_GetTick`. -/
def Call.tick (call : Call) : UInt32 := UInt32.ofNat call.now

def interrupted (call : Call) (point : Point) (machine : Machine) : Machine :=
  run interrupt machine (call.before point)

def Main.push (main : Main) (severity : Severity) (eventCode : LogEvent) (data0 data1 : UInt32) :
    Main :=
  { main with log := main.log ++ [{ severity, eventCode, data0, data1 }] }

def recordFailure (main : Main) (failedStep : Step) (halStatus : HalStatus) : Main :=
  let isNewFailure := main.recoveryStats.lastFailedStep ≠ failedStep ||
    main.recoveryStats.lastHalStatus ≠ halStatus
  let main := { main with
    recoveryStats := { main.recoveryStats with
      recoveryFailures := main.recoveryStats.recoveryFailures + 1
      lastHalStatus := halStatus
      lastFailedStep := failedStep } }
  if isNewFailure then main.push .fault .recoveryFailed failedStep.code halStatus.code else main

/-- A record for the first of the new error-passive events, unless a
bus-off episode is on. -/
def logErrorPassive (call : Call) (machine : Machine) (newEventCount : UInt32) : Machine :=
  if !machine.main.busOffFaultEpisodeActive then
    let machine := interrupted call .errorPassivePsr machine
    let psr := machine.isr.lastErrorPassivePsr
    let machine := interrupted call .errorPassiveEcr machine
    let main := machine.main.push .warning .errorPassive psr machine.isr.lastErrorPassiveEcr
    { machine with
      main := { main with
        errorPassiveLogRecordCount := main.errorPassiveLogRecordCount + 1
        errorPassiveLogSuppressedCount :=
          if newEventCount > 1 then main.errorPassiveLogSuppressedCount + (newEventCount - 1)
          else main.errorPassiveLogSuppressedCount } }
  else
    { machine with
      main := { machine.main with
        errorPassiveLogSuppressedCount :=
          machine.main.errorPassiveLogSuppressedCount + newEventCount } }

/-- The first part of a call: new error-passive events. -/
def takeErrorPassive (call : Call) (machine : Machine) : Machine :=
  let machine := interrupted call .errorPassiveTest machine
  if machine.isr.errorPassiveEventCount ≠ machine.main.loggedErrorPassiveEventCount then
    let machine := interrupted call .errorPassiveSnapshot machine
    let eventSnapshot := machine.isr.errorPassiveEventCount
    let taken := errorPassives machine.ledger.history
    let machine := logErrorPassive call machine
      (eventSnapshot - machine.main.loggedErrorPassiveEventCount)
    { machine with
      main := { machine.main with loggedErrorPassiveEventCount := eventSnapshot }
      ledger := { machine.ledger with logged := taken } }
  else
    machine

/-- A record for the first of the new bus-off events, which begins an
episode, unless one is on. -/
def logBusOff (call : Call) (machine : Machine) (newEventCount : UInt32) : Machine :=
  if !machine.main.busOffFaultEpisodeActive then
    let machine := interrupted call .busOffPsr machine
    let psr := machine.isr.lastBusOffPsr
    let machine := interrupted call .busOffEcr machine
    let main := machine.main.push .fault .busOff psr machine.isr.lastBusOffEcr
    { machine with
      main := { main with
        busOffLogRecordCount := main.busOffLogRecordCount + 1
        busOffFaultEpisodeActive := true
        busOffLogSuppressedCount :=
          if newEventCount > 1 then main.busOffLogSuppressedCount + (newEventCount - 1)
          else main.busOffLogSuppressedCount } }
  else
    { machine with
      main := { machine.main with
        busOffLogSuppressedCount := machine.main.busOffLogSuppressedCount + newEventCount } }

/-- A verification that new bus-off events end. -/
def invalidateVerification (main : Main) : Main :=
  if main.recoveryVerificationPending then
    { main with
      recoveryVerificationPending := false
      recoveryStats := { main.recoveryStats with
        verificationFailures := main.recoveryStats.verificationFailures + 1 } }
  else
    main

/-- The new bus-off events, once their number is read. -/
def scheduleBusOff (call : Call) (machine : Machine) : Machine :=
  let eventSnapshot := machine.isr.busOffEventCount
  let taken := busOffs machine.ledger.history
  let machine :=
    if machine.main.loggedBusOffEventCount ≠ eventSnapshot then
      let machine := logBusOff call machine (eventSnapshot - machine.main.loggedBusOffEventCount)
      { machine with main := { machine.main with loggedBusOffEventCount := eventSnapshot } }
    else
      machine
  { machine with
    main := { invalidateVerification machine.main with
      scheduledBusOffEventCount := eventSnapshot
      nextRecoveryAttemptTick := call.tick + recoveryRetryIntervalMs }
    ledger := { machine.ledger with scheduled := taken } }

/-- The second part of a call: new bus-off events. -/
def takeBusOff (call : Call) (machine : Machine) : Machine :=
  let machine := interrupted call .busOffTest machine
  if machine.isr.busOffEventCount ≠ machine.main.scheduledBusOffEventCount then
    scheduleBusOff call (interrupted call .busOffSnapshot machine)
  else
    machine

/-- A recovery that a transmission confirms. -/
def confirmRecovery (call : Call) (machine : Machine) : Machine :=
  let machine := interrupted call .recovered machine
  let main := { machine.main with
    handledBusOffEventCount := machine.main.verificationBusOffEventCount
    recoveryVerificationPending := false
    busOffFaultEpisodeActive := false
    recoveryStats := { machine.main.recoveryStats with
      recoverySuccesses := machine.main.recoveryStats.recoverySuccesses + 1
      lastHalStatus := .ok
      lastFailedStep := .none } }
  { machine with
    main := main.push .info .recoveryOk call.psr call.ecr
    ledger := { machine.ledger with verified := machine.ledger.verifying } }

/-- The third part, while a verification is pending. -/
def verifyRecovery (call : Call) (machine : Machine) : Machine :=
  let machine := interrupted call .transmitTest machine
  if machine.isr.txCompleteEventCount ≠ machine.main.verificationTxCompleteSnapshot then
    let machine := interrupted call .verificationTest machine
    if machine.isr.busOffEventCount = machine.main.verificationBusOffEventCount then
      confirmRecovery call machine
    else
      machine
  else
    machine

/-- The verification that a finished attempt begins. -/
def beginVerification (machine : Machine) : Machine :=
  { machine with
    main := { machine.main with
      recoveryPhase := .stop
      recoveryStats := { machine.main.recoveryStats with
        lastHalStatus := .ok
        lastFailedStep := .none }
      verificationBusOffEventCount := machine.main.scheduledBusOffEventCount
      verificationTxCompleteSnapshot := machine.isr.txCompleteEventCount
      recoveryVerificationPending := true }
    ledger := { machine.ledger with
      verifying := machine.ledger.scheduled
      transmitted := txCompletes machine.ledger.history } }

/-- The last phase of an attempt. -/
def activate (call : Call) (machine : Machine) : Machine :=
  let machine := (interrupted call .notification machine).happen (.notified call.notification)
  if call.notification ≠ .ok then
    { machine with main := recordFailure machine.main .notification call.notification }
  else
    beginVerification (interrupted call .transmitSnapshot machine)

/-- The second phase, if it is due, and what follows. -/
def startPeripheral (call : Call) (machine : Machine) : Machine :=
  if machine.main.recoveryPhase = .start then
    let machine := (interrupted call .start machine).happen (.started call.start)
    if call.start ≠ .ok then
      { machine with main := recordFailure machine.main .start call.start }
    else
      activate call { machine with main := { machine.main with recoveryPhase := .notification } }
  else
    activate call machine

/-- The first phase, if it is due, and what follows. -/
def stopPeripheral (call : Call) (machine : Machine) : Machine :=
  if machine.main.recoveryPhase = .stop then
    let machine := (interrupted call .stop machine).happen (.stopped call.stop)
    if call.stop ≠ .ok then
      { machine with main := recordFailure machine.main .stop call.stop }
    else
      startPeripheral call { machine with main := { machine.main with recoveryPhase := .start } }
  else
    startPeripheral call machine

def beginAttempt (call : Call) (machine : Machine) : Machine :=
  { machine with
    main := { machine.main with
      nextRecoveryAttemptTick := call.tick + recoveryRetryIntervalMs
      recoveryStats := { machine.main.recoveryStats with
        recoveryAttempts := machine.main.recoveryStats.recoveryAttempts + 1 } }
    ledger := { machine.ledger with attempts := machine.ledger.attempts ++ [call.now] } }

/-- The third part, while no verification is pending. -/
def attemptRecovery (call : Call) (machine : Machine) : Machine :=
  if machine.main.scheduledBusOffEventCount = machine.main.handledBusOffEventCount then
    machine
  else if (call.tick - machine.main.nextRecoveryAttemptTick).toInt32 < 0 then
    machine
  else
    stopPeripheral call (beginAttempt call machine)

def Machine.enter (machine : Machine) (call : Call) : Machine :=
  { machine with
    ledger := { machine.ledger with
      called := { now := some call.now
                  busOffs := busOffs machine.ledger.history
                  errorPassives := errorPassives machine.ledger.history } } }

/-- `CAN_Handle_BusOff_Recovery`. -/
def handleBusOffRecovery (call : Call) (machine : Machine) : Machine :=
  let machine := takeBusOff call (takeErrorPassive call (machine.enter call))
  if machine.main.recoveryVerificationPending then
    verifyRecovery call machine
  else
    attemptRecovery call machine

/-- `CAN_Recovery_Stats_t`, as it is reported. -/
structure Report where
  stats : Stats
  busOffEvents : UInt32
  txCompleteEvents : UInt32
  retryIntervalMs : UInt32
  busOffLogRecords : UInt32
  busOffLogSuppressed : UInt32
  errorPassiveLogRecords : UInt32
  errorPassiveLogSuppressed : UInt32
  recoveryPending : Bool
  verificationPending : Bool
  deriving DecidableEq, Repr

/-- `CAN_Recovery_GetStats`. -/
def getStats (machine : Machine) : Report where
  stats := machine.main.recoveryStats
  busOffEvents := machine.isr.busOffEventCount
  txCompleteEvents := machine.isr.txCompleteEventCount
  retryIntervalMs := recoveryRetryIntervalMs
  busOffLogRecords := machine.main.busOffLogRecordCount
  busOffLogSuppressed := machine.main.busOffLogSuppressedCount
  errorPassiveLogRecords := machine.main.errorPassiveLogRecordCount
  errorPassiveLogSuppressed := machine.main.errorPassiveLogSuppressedCount
  recoveryPending :=
    machine.main.scheduledBusOffEventCount ≠ machine.main.handledBusOffEventCount ||
      machine.main.recoveryVerificationPending
  verificationPending := machine.main.recoveryVerificationPending

inductive Event where
  | interrupt (interrupt : Interrupt)
  | call (call : Call)

def recoverStep (machine : Machine) : Event → Machine
  | .interrupt event => interrupt machine event
  | .call call => handleBusOffRecovery call machine

/-! ## What an interrupt leaves alone -/

/-- The interrupts' counters hold what happened. -/
structure Counted (machine : Machine) : Prop where
  busOff : machine.isr.busOffEventCount = UInt32.ofNat (busOffs machine.ledger.history)
  errorPassive :
    machine.isr.errorPassiveEventCount = UInt32.ofNat (errorPassives machine.ledger.history)
  txComplete : machine.isr.txCompleteEventCount = UInt32.ofNat (txCompletes machine.ledger.history)

/-- Time passed at the peripheral. -/
structure Passed (machine machine' : Machine) : Prop where
  ledger : { machine'.ledger with history := machine.ledger.history } = machine.ledger
  history : machine.ledger.history <+: machine'.ledger.history
  counted : Counted machine → Counted machine'

/-- Only interrupts and the peripheral's own events came in between. -/
structure Grown (machine machine' : Machine) : Prop extends Passed machine machine' where
  main : machine'.main = machine.main

variable {machine machine' machine'' : Machine}

theorem Passed.refl (machine : Machine) : Passed machine machine :=
  ⟨rfl, List.prefix_refl _, id⟩

theorem Passed.trans (h : Passed machine machine') (h' : Passed machine' machine'') :
    Passed machine machine'' := by
  refine ⟨?_, h.history.trans h'.history, h'.counted ∘ h.counted⟩
  have hledger := h.ledger
  rw [← h'.ledger] at hledger
  exact hledger

theorem Grown.refl (machine : Machine) : Grown machine machine := ⟨.refl machine, rfl⟩

theorem Grown.trans (h : Grown machine machine') (h' : Grown machine' machine'') :
    Grown machine machine'' := ⟨h.toPassed.trans h'.toPassed, h'.main.trans h.main⟩

/-- One event more, counted or not. -/
theorem count_concat {α : Type*} [DecidableEq α] (history : List α) (x y : α) :
    (history ++ [x]).count y = history.count y + if x = y then 1 else 0 := by
  rw [List.count_append, List.count_singleton]
  simp only [beq_iff_eq]

theorem ofNat_add_one (n : Nat) : UInt32.ofNat n + 1 = UInt32.ofNat (n + 1) :=
  ofNat_add_toNat n 1

theorem grown_countErrorPassive (machine : Machine) (psr ecr : UInt32) :
    Grown machine (countErrorPassive machine psr ecr) := by
  refine ⟨⟨rfl, List.prefix_append _ _, fun h => ⟨?_, ?_, ?_⟩⟩, rfl⟩
  · change machine.isr.busOffEventCount = UInt32.ofNat (List.count _ (_ ++ [_]))
    rw [count_concat, h.busOff]
    rfl
  · change machine.isr.errorPassiveEventCount + 1 = UInt32.ofNat (List.count _ (_ ++ [_]))
    rw [count_concat, h.errorPassive, ofNat_add_one]
    rfl
  · change machine.isr.txCompleteEventCount = UInt32.ofNat (List.count _ (_ ++ [_]))
    rw [count_concat, h.txComplete]
    rfl

theorem grown_countBusOff (machine : Machine) (psr ecr : UInt32) :
    Grown machine (countBusOff machine psr ecr) := by
  refine ⟨⟨rfl, List.prefix_append _ _, fun h => ⟨?_, ?_, ?_⟩⟩, rfl⟩
  · change machine.isr.busOffEventCount + 1 = UInt32.ofNat (List.count _ (_ ++ [_]))
    rw [count_concat, h.busOff, ofNat_add_one]
    rfl
  · change machine.isr.errorPassiveEventCount = UInt32.ofNat (List.count _ (_ ++ [_]))
    rw [count_concat, h.errorPassive]
    rfl
  · change machine.isr.txCompleteEventCount = UInt32.ofNat (List.count _ (_ ++ [_]))
    rw [count_concat, h.txComplete]
    rfl

theorem grown_countTxComplete (machine : Machine) : Grown machine (countTxComplete machine) := by
  refine ⟨⟨rfl, List.prefix_append _ _, fun h => ⟨?_, ?_, ?_⟩⟩, rfl⟩
  · change machine.isr.busOffEventCount = UInt32.ofNat (List.count _ (_ ++ [_]))
    rw [count_concat, h.busOff]
    rfl
  · change machine.isr.errorPassiveEventCount = UInt32.ofNat (List.count _ (_ ++ [_]))
    rw [count_concat, h.errorPassive]
    rfl
  · change machine.isr.txCompleteEventCount + 1 = UInt32.ofNat (List.count _ (_ ++ [_]))
    rw [count_concat, h.txComplete, ofNat_add_one]
    rfl

/-- The answers of the HAL are not counted. -/
theorem grown_happen {happening : Happening} (machine : Machine) (hbusOff : happening ≠ .busOff)
    (hpassive : happening ≠ .errorPassive) (htx : happening ≠ .txComplete) :
    Grown machine (machine.happen happening) := by
  refine ⟨⟨rfl, List.prefix_append _ _, fun h => ⟨?_, ?_, ?_⟩⟩, rfl⟩
  · change machine.isr.busOffEventCount = UInt32.ofNat (List.count _ (_ ++ [_]))
    rw [count_concat, if_neg hbusOff, h.busOff]
    rfl
  · change machine.isr.errorPassiveEventCount = UInt32.ofNat (List.count _ (_ ++ [_]))
    rw [count_concat, if_neg hpassive, h.errorPassive]
    rfl
  · change machine.isr.txCompleteEventCount = UInt32.ofNat (List.count _ (_ ++ [_]))
    rw [count_concat, if_neg htx, h.txComplete]
    rfl

theorem grown_interrupt (machine : Machine) (event : Interrupt) :
    Grown machine (interrupt machine event) := by
  cases event with
  | errorStatus hfdcan its psr ecr =>
    change Grown machine (errorStatusCallback machine hfdcan its psr ecr)
    unfold errorStatusCallback
    split
    · exact .refl machine
    dsimp only
    split
    · split
      · exact (grown_countErrorPassive machine psr ecr).trans (grown_countBusOff _ psr ecr)
      · exact grown_countBusOff machine psr ecr
    · split
      · exact grown_countErrorPassive machine psr ecr
      · exact .refl machine
  | txBufferComplete hfdcan bufferIndexes =>
    change Grown machine (txBufferCompleteCallback machine hfdcan bufferIndexes)
    unfold txBufferCompleteCallback
    split
    · exact grown_countTxComplete machine
    · exact .refl machine

theorem grown_interrupted (call : Call) (point : Point) (machine : Machine) :
    Grown machine (interrupted call point machine) :=
  run_relation (I := fun _ => True) Grown.refl Grown.trans (fun _ _ _ => trivial)
    (fun machine event _ => grown_interrupt machine event) (call.before point) machine trivial

theorem grown_stopped (call : Call) (machine : Machine) :
    Grown machine ((interrupted call .stop machine).happen (.stopped call.stop)) :=
  (grown_interrupted call .stop machine).trans (grown_happen _ nofun nofun nofun)

theorem grown_started (call : Call) (machine : Machine) :
    Grown machine ((interrupted call .start machine).happen (.started call.start)) :=
  (grown_interrupted call .start machine).trans (grown_happen _ nofun nofun nofun)

theorem grown_notified (call : Call) (machine : Machine) :
    Grown machine ((interrupted call .notification machine).happen (.notified call.notification)) :=
  (grown_interrupted call .notification machine).trans (grown_happen _ nofun nofun nofun)

end BusOff

end CanGui
