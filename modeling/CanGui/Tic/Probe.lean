import CanGui.Tic.Driver
import CanGui.Tic.Recovery
import CanGui.Tic.Switch
/-!
# TIC12400 probe — the driver's main loop and its device

The probe configures the device, samples its inputs when they changed and
takes it offline when it stops answering. The device is the part of the
chip that the samples depend on: the sticky flag of a switch change in
INT_STAT and the comparator register. What the bus makes of a transaction,
and what happens before it, is an answer of the event.
-/

namespace CanGui

namespace Tic

def probeFallbackPollMs : UInt32 := 500
def probeCrcPollReads : Nat := 100

def configTrigger : UInt32 := 0x800
def configBinaryBase : UInt32 := 0x8000
def allWcCfg0OneMa : UInt32 := 0x249249
def allWcCfg1OneMa : UInt32 := 0x049249
def comparatorThreshold2V : UInt32 := 0
def intEnableSsc : UInt32 := 0x4
def intStatusSsc : UInt32 := 0x8

/-! ## The device -/

structure Device where
  /-- The flag of a switch change in INT_STAT. -/
  ssc : Bool := false
  /-- IN_STAT_COMP. -/
  inputs : UInt32 := 0
  /-- What IN_STAT_COMP showed at and after the latest change whose flag
  was read. -/
  since : List UInt32 := [0]
  /-- A flag was read, and IN_STAT_COMP was not since. -/
  unsampled : Bool := false
  deriving DecidableEq, Repr

def Device.change (device : Device) (inputs : UInt32) : Device :=
  { device with ssc := true, inputs, since := device.since ++ [inputs] }

/-- INT_STAT is cleared when it is read. -/
def Device.clear (device : Device) : Device :=
  if device.ssc then
    { device with ssc := false, since := [device.inputs], unsampled := true }
  else
    device

/-- What a register holds, where `others` is what the device shows in the
bits that it does not depend on. -/
def Device.register (device : Device) (register : Register) (others : UInt32) : UInt32 :=
  match register with
  | .intStat => if device.ssc then others ||| intStatusSsc else others &&& ~~~intStatusSsc
  | .inStatComp => device.inputs
  | _ => others

inductive Reply where
  /-- The device's answer arrives. -/
  | genuine (flags : Nat) (others : UInt32)
  /-- Another frame arrives. -/
  | distorted (seen : Bool) (frame : UInt32)
  /-- The transfer fails. -/
  | failed (seen : Bool)
  deriving DecidableEq, Repr

/-- Whether the device took part in the transaction. -/
def Reply.seen : Reply → Bool
  | genuine _ _ => true
  | distorted seen _ => seen
  | failed seen => seen

structure Answer where
  /-- The switches move before the transaction. -/
  changes : List UInt32 := []
  /-- The device's interrupt reaches the firmware before it. -/
  edge : Bool := false
  reply : Reply := .failed false
  deriving DecidableEq, Repr

def Answer.frame (answer : Answer) (device : Device) (register : Register) : Option UInt32 :=
  match answer.reply with
  | .genuine flags others => some (respond flags (device.register register others))
  | .distorted _ frame => some frame
  | .failed _ => none

/-! ## The probe -/

structure Snapshot where
  batteryCapableMask : UInt32 := 0
  batterySwitchMask : UInt32 := 0
  lastNonzeroIntStatus : UInt32 := 0
  serviceFailures : UInt32 := 0
  closedSwitchBitmap : UInt32 := 0
  switchValidMask : UInt32 := 0
  lastSwitchChangeMask : UInt32 := 0
  configurationResult : Result := .ok
  serviceResult : Result := .ok
  result : Result := .ok
  status : StatusFlags := {}
  deviceId : UInt8 := 0
  online : Bool := false
  porObserved : Bool := false
  interruptPending : Bool := false
  configurationPassed : Bool := false
  crcCompleted : Bool := false
  monitoringStarted : Bool := false
  switchStateGeneration : UInt8 := 0
  profileGeneration : UInt8 := 0
  switchStateValid : Bool := false
  deriving DecidableEq, Repr

/-- The probe's state, its device, and what the bus will answer. -/
structure Machine where
  snapshot : Snapshot := {}
  activeProfile : Profile := {}
  recovery : RecoveryState := {}
  filter : SwitchFilter := {}
  lastServiceTick : UInt32 := 0
  requestedBatterySwitchMask : UInt32 := 0
  appliedBatterySwitchMask : UInt32 := 0
  profileGeneration : UInt8 := 0
  profileApplied : Bool := false
  peripheralReady : Bool := false
  device : Device := {}
  answers : List Answer := []
  deriving DecidableEq, Repr

structure SwitchState where
  closedBitmap : UInt32
  validMask : UInt32
  lastChangeMask : UInt32
  generation : UInt8
  dataValid : Bool
  deriving DecidableEq, Repr

/-- The device just before the next transaction. -/
def Machine.upcoming (machine : Machine) : Device :=
  (machine.answers.headD {}).changes.foldl Device.change machine.device

def readRegister (machine : Machine) (register : Register) : Transaction × Machine :=
  let answer := machine.answers.headD {}
  let device := machine.upcoming
  let transaction := exchangeFrame (answer.frame device register)
  let device :=
    match register with
    | .intStat => if answer.reply.seen then device.clear else device
    | .inStatComp => { device with unsampled := device.unsampled && transaction.result ≠ .ok }
    | _ => device
  (transaction, { machine with
    snapshot := { machine.snapshot with
      interruptPending := machine.snapshot.interruptPending || answer.edge }
    device
    answers := machine.answers.tail })

/-- A write. The device shows what it holds in its answer to the next
read, so what was written is no part of the state. -/
def writeRegister (machine : Machine) (register : Register) : Transaction × Machine :=
  let answer := machine.answers.headD {}
  let device := machine.upcoming
  (exchangeFrame (answer.frame device register), { machine with
    snapshot := { machine.snapshot with
      interruptPending := machine.snapshot.interruptPending || answer.edge }
    device
    answers := machine.answers.tail })

def readDeviceId (machine : Machine) : Transaction × Machine :=
  let (transaction, machine) := readRegister machine .deviceId
  if transaction.result = .ok && transaction.data ≠ expectedDeviceId then
    ({ transaction with result := .deviceIdMismatch }, machine)
  else
    (transaction, machine)

def Machine.store (machine : Machine) (transaction : Transaction) : Machine :=
  { machine with snapshot := { machine.snapshot with
    result := transaction.result, status := transaction.status } }

def Machine.configurationFailed (machine : Machine) (result : Result) : Machine :=
  { machine with snapshot := { machine.snapshot with configurationResult := result } }

def markOffline (machine : Machine) : Machine :=
  { machine with snapshot := { machine.snapshot with
    online := false
    monitoringStarted := false
    switchStateValid := false
    switchValidMask := 0
    interruptPending := false } }

def writeAndVerify (machine : Machine) (register : Register) (expected : UInt32) :
    Bool × Machine :=
  let (transaction, machine) := writeRegister machine register
  let machine := machine.store transaction
  if transaction.result ≠ .ok then
    (false, machine.configurationFailed transaction.result)
  else
    let (transaction, machine) := readRegister machine register
    let machine := machine.store transaction
    if transaction.result ≠ .ok then
      (false, machine.configurationFailed transaction.result)
    else if transaction.data ≠ expected then
      (false, machine.configurationFailed .registerVerifyMismatch)
    else
      (true, machine)

/-- Writes until one fails. -/
def writeAll : List (Register × UInt32) → Machine → Bool × Machine
  | [], machine => (true, machine)
  | (register, expected) :: others, machine =>
    let (succeeded, machine) := writeAndVerify machine register expected
    if succeeded then writeAll others machine else (false, machine)

/-- Reads CONFIG until the trigger is cleared. Without a value the reading
failed or the trigger stayed set. -/
def pollConfig : Nat → Machine → Option UInt32 × Machine
  | 0, machine => (none, machine.configurationFailed .crcTimeout)
  | fuel + 1, machine =>
    let (transaction, machine) := readRegister machine .config
    let machine := machine.store transaction
    if transaction.result ≠ .ok then
      (none, machine.configurationFailed transaction.result)
    else if transaction.data &&& configCrcTriggerMask = 0 then
      (some transaction.data, machine)
    else
      pollConfig fuel machine

/-- What follows the readings of CONFIG. -/
def finishConfigurationCrc (configValue : UInt32) : Option UInt32 × Machine → Bool × Machine
  | (none, machine) => (false, machine)
  | (some readback, machine) =>
    if readback ≠ configValue then
      (false, machine.configurationFailed .registerVerifyMismatch)
    else
      let (transaction, machine) := readRegister machine .intStat
      let machine := machine.store transaction
      if transaction.result ≠ .ok then
        (false, machine.configurationFailed transaction.result)
      else if transaction.data &&& intStatusCrcCalcMask = 0 then
        (false, machine.configurationFailed .crcCompletionMissing)
      else
        let (transaction, machine) := readRegister machine .crc
        let machine := machine.store transaction
        if transaction.result ≠ .ok then
          (false, machine.configurationFailed transaction.result)
        else
          (true, { machine with snapshot := { machine.snapshot with crcCompleted := true } })

def runConfigurationCrc (machine : Machine) (configValue : UInt32) : Bool × Machine :=
  let (transaction, machine) := writeRegister machine .config
  let machine := machine.store transaction
  if transaction.result ≠ .ok then
    (false, machine.configurationFailed transaction.result)
  else
    finishConfigurationCrc configValue (pollConfig probeCrcPollReads machine)

def recordServiceFailure (machine : Machine) (transaction : Transaction) : Machine :=
  { machine with snapshot := { machine.snapshot with
    serviceFailures := machine.snapshot.serviceFailures + 1
    serviceResult := transaction.result } }

/-- A comparator reading becomes the reported switch state. -/
def commitSample (machine : Machine) (comparator : UInt32) : Machine :=
  let closedMask := machine.activeProfile.decodeComparatorClosed (comparator &&& profileChannelMask)
  let filter := (machine.filter.commitDebouncedMask closedMask machine.activeProfile.enabledMask).2
  { machine with
    filter
    snapshot := { machine.snapshot with
      closedSwitchBitmap := filter.stableClosedMask
      switchValidMask := filter.validMask
      switchStateGeneration := filter.generation
      switchStateValid := filter.validMask = machine.activeProfile.enabledMask
      lastSwitchChangeMask :=
        if filter.lastChangeMask ≠ 0 then filter.lastChangeMask
        else machine.snapshot.lastSwitchChangeMask
      serviceResult := .ok } }

/-- INT_STAT was read: the event it shows is served. -/
def sampleComparator (machine : Machine) (interruptStatus : Transaction) : Bool × Machine :=
  if interruptStatus.result ≠ .ok then
    (false, recordServiceFailure machine interruptStatus)
  else
    let machine := { machine with snapshot := { machine.snapshot with
      lastNonzeroIntStatus :=
        if interruptStatus.data ≠ 0 then interruptStatus.data
        else machine.snapshot.lastNonzeroIntStatus } }
    if interruptStatus.data &&& intStatusSsc = 0 then
      (true, { machine with snapshot := { machine.snapshot with serviceResult := .ok } })
    else
      let (comparatorStatus, machine) := readRegister machine .inStatComp
      let machine := machine.store comparatorStatus
      if comparatorStatus.result ≠ .ok then
        (false, recordServiceFailure machine comparatorStatus)
      else
        (true, commitSample machine comparatorStatus.data)

/-- The event that is served is cleared first; an interrupt during the
reads sets the flag again. -/
def Machine.served (machine : Machine) : Machine :=
  { machine with snapshot := { machine.snapshot with interruptPending := false } }

def sampleInputs (machine : Machine) : Bool × Machine :=
  let (interruptStatus, machine) := readRegister machine.served .intStat
  sampleComparator (machine.store interruptStatus) interruptStatus

/-- The registers of the configuration, before the CRC run. -/
def configuration (profile : Profile) : List (Register × UInt32) :=
  [(.config, configBinaryBase), (.mode, 0), (.csSelect, profile.batterySwitchMask),
    (.wcCfg0, allWcCfg0OneMa), (.wcCfg1, allWcCfg1OneMa), (.inEn, profile.enabledMask),
    (.thresComp, comparatorThreshold2V),
    (.intEnComp1, profile.buildComparatorInterruptEnable 0),
    (.intEnComp2, profile.buildComparatorInterruptEnable 12), (.intEnCfg0, intEnableSsc)]

/-- The configuration passed: monitoring starts with a first sample. -/
def startMonitoring (machine : Machine) (tick : UInt32) : Machine :=
  let mask := machine.activeProfile.batterySwitchMask
  let changed := !machine.profileApplied || machine.appliedBatterySwitchMask ≠ mask
  let generation := if changed then machine.profileGeneration + 1 else machine.profileGeneration
  let machine := { machine with
    profileGeneration := generation
    appliedBatterySwitchMask := mask
    profileApplied := true
    snapshot := { machine.snapshot with
      configurationPassed := true
      monitoringStarted := true
      profileGeneration := generation } }
  { (sampleInputs machine).2 with lastServiceTick := tick }

/-- Everything that the last configuration reported is void. -/
def beginConfiguration (machine : Machine) : Machine :=
  { machine with
    snapshot := { machine.snapshot with
      online := false
      configurationPassed := false
      crcCompleted := false
      monitoringStarted := false
      switchStateValid := false
      switchValidMask := 0
      configurationResult := .ok }
    activeProfile := { carrierBinary with
      batterySwitchMask := machine.requestedBatterySwitchMask } }

def configureInputs (machine : Machine) (tick : UInt32) : Machine :=
  let machine := beginConfiguration machine
  if machine.activeProfile.validate profileCarrierFittedMask ≠ .ok then
    machine.configurationFailed .invalidData
  else
    let machine := { machine with snapshot := { machine.snapshot with
      batteryCapableMask := profileBatteryCapableMask
      batterySwitchMask := machine.activeProfile.batterySwitchMask } }
    match writeAll (configuration machine.activeProfile) machine with
    | (false, machine) => machine
    | (true, machine) =>
      match runConfigurationCrc machine configBinaryBase with
      | (false, machine) => machine
      | (true, machine) =>
        match writeAndVerify machine .config (configBinaryBase ||| configTrigger) with
        | (false, machine) => machine
        | (true, machine) => startMonitoring machine tick

/-- The device is reset; its interrupt flags are gone. -/
def hardwareReset (machine : Machine) : Machine :=
  { machine with device := { machine.device with ssc := false } }

def canClearLatchedFault (transaction : Transaction) : Bool :=
  transaction.result = .deviceSpiError || transaction.result = .deviceParityError

def Machine.observePor (machine : Machine) (observed : Bool) : Machine :=
  { machine with snapshot := { machine.snapshot with
    porObserved := machine.snapshot.porObserved || observed } }

def Machine.identify (machine : Machine) (transaction : Transaction) : Machine :=
  let machine := machine.store transaction
  { machine with snapshot := { machine.snapshot with deviceId := transaction.data.toUInt8 } }

/-- A stale fault is cleared with a read of INT_STAT, and the identity is
read again. -/
def clearLatchedFault (machine : Machine) : Transaction × Machine :=
  let (interruptStatus, machine) := readRegister machine .intStat
  let machine := machine.observePor
    (interruptStatus.data &&& 1 ≠ 0 || interruptStatus.status.powerOnReset)
  let machine :=
    if interruptStatus.halOk && frameHasOddParity interruptStatus.rxFrame then machine.served
    else machine
  let (transaction, machine) := readDeviceId machine
  (transaction, (machine.identify transaction).observePor transaction.status.powerOnReset)

/-- POR is captured before the device is configured. -/
def capturePor (machine : Machine) : Bool × Machine :=
  let (interruptStatus, machine) := readRegister machine .intStat
  let machine := machine.observePor (interruptStatus.data &&& 1 ≠ 0)
  if interruptStatus.result ≠ .ok then (false, machine.store interruptStatus)
  else (true, machine.served)

def finishInitialize (machine : Machine) (tick : UInt32) : Bool × Machine :=
  let machine := configureInputs machine tick
  if machine.snapshot.configurationPassed then
    (true, { machine with snapshot := { machine.snapshot with online := true } })
  else
    (false, { machine with snapshot := { machine.snapshot with
      result := machine.snapshot.configurationResult } })

/-- Only the lifetime diagnostics survive a new attempt. -/
def resetAttempt (machine : Machine) : Machine :=
  { machine with
    snapshot :=
      { serviceFailures := machine.snapshot.serviceFailures
        lastNonzeroIntStatus := machine.snapshot.lastNonzeroIntStatus }
    filter := {} }

def attemptInitialize (machine : Machine) (tick : UInt32) : Bool × Machine :=
  let (transaction, machine) := readDeviceId (hardwareReset (resetAttempt machine))
  let machine := (machine.identify transaction).observePor transaction.status.powerOnReset
  if canClearLatchedFault transaction then
    let (transaction, machine) := clearLatchedFault machine
    if transaction.result ≠ .ok then (false, machine) else finishInitialize machine tick
  else if transaction.result ≠ .ok then
    (false, machine)
  else
    match capturePor machine with
    | (false, machine) => (false, machine)
    | (true, machine) => finishInitialize machine tick

/-! ## The interface -/

/-- The `n`-th reading of the clock in a call is `ticks n`. -/
def probeInit (device : Device) (answers : List Answer) (peripheralReady : Bool)
    (ticks : Nat → UInt32) : Machine :=
  let machine : Machine := { lastServiceTick := ticks 0, peripheralReady, device, answers }
  if !peripheralReady then
    markOffline { machine with
      recovery := machine.recovery.recordInitialResult (ticks 0) false }
  else
    let (succeeded, machine) := attemptInitialize machine (ticks 1)
    let machine := { machine with
      recovery := machine.recovery.recordInitialResult (ticks 2) succeeded }
    if succeeded then machine else markOffline machine

def processOffline (machine : Machine) (ticks : Nat → UInt32) : Machine :=
  if !machine.recovery.shouldReinitialize (ticks 0) then
    machine
  else
    let (succeeded, machine) := attemptInitialize machine (ticks 1)
    let machine := { machine with
      recovery := machine.recovery.recordReinitializationResult (ticks 2) succeeded }
    if succeeded then machine else markOffline machine

def processService (machine : Machine) (now : UInt32) : Machine :=
  if !machine.snapshot.interruptPending && now - machine.lastServiceTick < probeFallbackPollMs then
    machine
  else
    let (succeeded, machine) := sampleInputs machine
    let (becameOffline, recovery) := machine.recovery.recordServiceResult now succeeded
    let machine := { machine with recovery }
    let machine := if becameOffline then markOffline machine else machine
    { machine with lastServiceTick := now }

def probeProcess (machine : Machine) (ticks : Nat → UInt32) : Machine :=
  if !machine.peripheralReady then machine
  else if !machine.snapshot.monitoringStarted then processOffline machine ticks
  else processService machine (ticks 0)

def notifyInterruptFromIsr (machine : Machine) : Machine :=
  { machine with snapshot := { machine.snapshot with interruptPending := true } }

def setBatterySwitchMask (machine : Machine) (mask : UInt32) (ticks : Nat → UInt32) :
    Bool × Machine :=
  if !machine.peripheralReady then
    (false, machine)
  else if Profile.validate { carrierBinary with batterySwitchMask := mask }
      profileCarrierFittedMask ≠ .ok then
    (false, machine)
  else if mask = machine.requestedBatterySwitchMask && machine.snapshot.configurationPassed &&
      machine.snapshot.monitoringStarted then
    (true, machine)
  else
    let machine := configureInputs
      { machine with requestedBatterySwitchMask := mask, filter := {} } (ticks 0)
    let succeeded := machine.snapshot.configurationPassed
    let machine := { machine with
      recovery := machine.recovery.recordInitialResult (ticks 1) succeeded }
    if succeeded then
      (true, { machine with snapshot := { machine.snapshot with online := true, result := .ok } })
    else
      (false, markOffline { machine with snapshot := { machine.snapshot with
        result := machine.snapshot.configurationResult } })

def getSwitchState (machine : Machine) : SwitchState where
  closedBitmap := machine.snapshot.closedSwitchBitmap
  validMask := machine.snapshot.switchValidMask
  lastChangeMask := machine.snapshot.lastSwitchChangeMask
  generation := machine.snapshot.switchStateGeneration
  dataValid := machine.snapshot.switchStateValid && machine.snapshot.monitoringStarted &&
    machine.snapshot.serviceResult = .ok

end Tic

end CanGui
