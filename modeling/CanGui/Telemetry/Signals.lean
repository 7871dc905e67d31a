import CanGui.Common.Fields
import CanGui.Telemetry.Encoders
/-!
# Telemetry — the frames and the protocol definition

The protocol definition lists the signals of each frame, and the DBC file
is made from it. What its readers find at the signals is what the firmware
put there, and nothing is left in the reserved bits.
-/

namespace CanGui

namespace Telemetry

/-! ## The definition -/

/-- The messages of the firmware with signals of their own. -/
inductive Kind where
  | rtcStatus
  | rtcTime
  | systemStatus
  | rtcAlarmEvent
  | pwmStatus
  | inputCaptureStatus
  | selfTestStatus
  | selfTestResult
  | logHeartbeat
  | canRxHealth
  | timingService
  | timingAckLatency
  | commandAck
  | tic12400Status
  | tic12400SwitchState
  | tic12400Profile
  deriving DecidableEq, Repr

/-- A signal of the definition: its name, start bit and length. -/
def signal (name : String) (startBit length : ℕ) : String × Field := (name, ⟨startBit, length⟩)

/-- `dbc_signals` of the protocol definition. -/
def signals : Kind → List (String × Field)
  | .rtcStatus => [signal "StatusCode" 0 8, signal "HalStatus" 8 8, signal "HalError" 16 32,
    signal "Reserved" 48 16]
  | .rtcTime => [signal "Hour" 0 8, signal "Minute" 8 8, signal "Second" 16 8,
    signal "Hundredth" 24 8, signal "Day" 32 8, signal "Month" 40 8, signal "Year" 48 8,
    signal "Weekday" 56 3, signal "TimeReserved" 59 2, signal "CalendarValid" 61 1,
    signal "Ready" 62 1, signal "OscillatorStopFlag" 63 1]
  | .systemStatus => [signal "Slot1Running" 0 1, signal "Slot2Running" 1 1, signal "Led1On" 2 1,
    signal "Led2On" 3 1, signal "SummaryReserved" 4 4, signal "Slot1State" 8 8,
    signal "Slot2State" 16 8, signal "Led1State" 24 8, signal "Led2State" 32 8,
    signal "Slot1Requested" 40 1, signal "Slot2Requested" 41 1, signal "Led1Requested" 42 1,
    signal "Led2Requested" 43 1, signal "PwmRequested" 44 1, signal "RequestReserved" 45 3,
    signal "SwitchDataValid" 48 1, signal "In0Closed" 49 1, signal "In1Closed" 50 1,
    signal "In2Closed" 51 1, signal "In3Closed" 52 1, signal "PhysicalReserved" 53 3,
    signal "Slot1Blocked" 56 1, signal "Slot2Blocked" 57 1, signal "Led1Overridden" 58 1,
    signal "OverrideReserved3" 59 1, signal "PwmBlocked" 60 1, signal "OverrideReserved5" 61 3]
  | .rtcAlarmEvent => [signal "EventCode" 0 8, signal "AlarmFlag" 8 1,
    signal "InterruptEnabled" 9 1, signal "ConfigurationValid" 10 1,
    signal "AlarmFlagsReserved" 11 5, signal "Hour" 16 8, signal "Minute" 24 8,
    signal "Second" 32 8, signal "Day" 40 8, signal "Month" 48 8, signal "Year" 56 8]
  | .pwmStatus => [signal "Running" 0 8, signal "DutyCycle" 8 8, signal "ActualFrequency" 16 32,
    signal "Requested" 48 1, signal "PhysicalPermitted" 49 1, signal "Blocked" 50 1,
    signal "SwitchDataValid" 51 1, signal "ControlReserved" 52 4, signal "Reserved" 56 8]
  | .inputCaptureStatus => [signal "SignalDetected" 0 8, signal "DutyCycle" 8 8,
    signal "Frequency" 16 32, signal "EdgeCount" 48 16]
  | .selfTestStatus => [signal "State" 0 8, signal "CurrentPoint" 8 8, signal "TotalPoints" 16 8,
    signal "PassedPoints" 24 8, signal "ExpectedFrequency" 32 32]
  | .selfTestResult => [signal "Point" 0 8, signal "Passed" 8 8, signal "ExpectedDutyCycle" 16 8,
    signal "MeasuredDutyCycle" 24 8, signal "MeasuredFrequency" 32 32]
  | .logHeartbeat => [signal "ProtocolVersion" 0 8, signal "Ready" 8 1,
    signal "OverwriteDetected" 9 1, signal "HeartbeatFlagsReserved" 10 6,
    signal "LatestSequence" 16 32, signal "RecordCount" 48 8, signal "AliveCounter" 56 8]
  | .canRxHealth => [signal "WatermarkSeen" 0 1, signal "FifoFullSeen" 1 1,
    signal "MessageLost" 2 1, signal "BudgetExhausted" 3 1, signal "HalError" 4 1,
    signal "HealthFlagsReserved" 5 3, signal "MaximumFifoFill" 8 8,
    signal "MessageLostEvents" 16 16, signal "FifoFullEvents" 32 16,
    signal "WatermarkEvents" 48 16]
  | .timingService => [signal "ServiceId" 0 8, signal "Enabled" 8 1, signal "CurrentOverrun" 9 1,
    signal "OverrunLatched" 10 1, signal "TimingFlagsReserved" 11 5,
    signal "CurrentExecutionTime" 16 16, signal "MinimumExecutionTime" 32 16,
    signal "MaximumExecutionTime" 48 16]
  | .timingAckLatency => [signal "P50Latency" 0 16, signal "P95Latency" 16 16,
    signal "P99Latency" 32 16, signal "MaximumLatency" 48 16]
  | .commandAck => [signal "ProtocolVersion" 0 8, signal "CommandCode" 8 8,
    signal "RequestToken" 16 8, signal "AckStatus" 24 8, signal "Executed" 32 1,
    signal "AccessOpen" 33 1, signal "AckFlagsReserved" 34 6, signal "AccessWindowRemaining" 40 8,
    signal "Reserved" 48 16]
  | .tic12400Status => [signal "Online" 0 1, signal "ConfigurationValid" 1 1,
    signal "CrcComplete" 2 1, signal "Monitoring" 3 1, signal "StatusReserved4" 4 1,
    signal "PorObserved" 5 1, signal "ServiceFault" 6 1, signal "StatusReserved7" 7 1,
    signal "DeviceId" 8 8, signal "ServiceResult" 16 8, signal "SpiFail" 24 1,
    signal "ParityFail" 25 1, signal "SwitchStateChange" 26 1, signal "SupplyThreshold" 27 1,
    signal "Temperature" 28 1, signal "OtherInterrupt" 29 1, signal "PowerOnReset" 30 1,
    signal "TransactionReserved" 31 1, signal "ServiceFailureCount" 32 16,
    signal "LastInterruptStatus" 48 16]
  | .tic12400SwitchState => [signal "ClosedBitmap" 0 24, signal "ValidBitmap" 24 24,
    signal "Generation" 48 8, signal "DataValid" 56 1, signal "Reserved" 57 7]
  | .tic12400Profile => [signal "BatterySwitchBitmap" 0 24, signal "BatteryCapableBitmap" 24 24,
    signal "Generation" 48 8, signal "ConfigurationValid" 56 1, signal "Reserved" 57 7]

/-! ## The reports -/

/-- A report of the firmware, with the parts of the firmware that it is
about. -/
inductive Report where
  | rtcStatus (statusCode halStatus : UInt8) (halError : UInt32)
  | rtcTime (clock : Rtc.Clock)
  | systemStatus (slot1 slot2 : Control.Slot) (outputs : Control.Snapshot)
      (policy : Control.Policy)
  | rtcAlarmEvent (service : Rtc.AlarmService) (status : Rtc.AlarmStatus)
  | pwmStatus (pwm : Control.Pwm.State) (policy : Control.Policy)
  | inputCaptureStatus (capture : Control.InputCapture.State)
  | selfTestStatus (test : Control.SelfTest.State)
  | selfTestResult (result : Control.SelfTest.PointResult)
  | logHeartbeat (heartbeat : Log.LogHeartbeat)
  | canRxHealth (stats : Command.RxStats) (health : RxHealth)
  | timingService (timing : Timing.State) (service : Nat)
  | timingAckLatency (timing : Timing.State)
  | commandAck (state : Command.State) (command : UInt8) (status : Command.State.AckStatus)
      (executed : Bool) (now : Nat)
  | tic12400Status (snapshot : Tic.Snapshot)
  | tic12400SwitchState (state : Tic.SwitchState)
  | tic12400Profile (snapshot : Tic.Snapshot)

namespace Report

def kind : Report → Kind
  | rtcStatus .. => .rtcStatus
  | rtcTime .. => .rtcTime
  | systemStatus .. => .systemStatus
  | rtcAlarmEvent .. => .rtcAlarmEvent
  | pwmStatus .. => .pwmStatus
  | inputCaptureStatus .. => .inputCaptureStatus
  | selfTestStatus .. => .selfTestStatus
  | selfTestResult .. => .selfTestResult
  | logHeartbeat .. => .logHeartbeat
  | canRxHealth .. => .canRxHealth
  | timingService .. => .timingService
  | timingAckLatency .. => .timingAckLatency
  | commandAck .. => .commandAck
  | tic12400Status .. => .tic12400Status
  | tic12400SwitchState .. => .tic12400SwitchState
  | tic12400Profile .. => .tic12400Profile

/-- The payload that the firmware sends. -/
def payload : Report → Bytes
  | rtcStatus statusCode halStatus halError => encodeRtcStatus statusCode halStatus halError
  | rtcTime clock => Telemetry.rtcTime clock
  | systemStatus slot1 slot2 outputs policy =>
    encodeSystemStatus (Telemetry.systemStatus slot1 slot2 outputs policy)
  | rtcAlarmEvent service status => service.alarmEvent status
  | pwmStatus pwm policy => Telemetry.pwmStatus pwm policy
  | inputCaptureStatus capture => Telemetry.inputCaptureStatus capture
  | selfTestStatus test => Telemetry.selfTestStatus test
  | selfTestResult result => Telemetry.selfTestResult result
  | logHeartbeat heartbeat => (Log.encodeLogHeartbeat heartbeat).toList
  | canRxHealth stats health => Telemetry.canRxHealth stats health
  | timingService timing service => Telemetry.timingService timing service
  | timingAckLatency timing => Telemetry.timingAckLatency timing
  | commandAck state command status executed now =>
    (state.ackPayload command status (if executed then Command.State.ackFlagExecuted else 0)
      now).toList
  | tic12400Status snapshot => ticStatus snapshot
  | tic12400SwitchState state => Tic.encodeSwitchState state
  | tic12400Profile snapshot => Tic.encodeProfile snapshot

/-- What the signals stand for; zero in the reserved bits. -/
def values : Report → List ℕ
  | rtcStatus statusCode halStatus halError =>
    [statusCode.toNat, halStatus.toNat, halError.toNat, 0]
  | rtcTime clock => [clock.hour.toNat, clock.minute.toNat, clock.second.toNat,
    clock.hundredth.toNat, clock.day.toNat, clock.month.toNat, clock.year.toNat,
    clock.weekday.toNat % 8, 0, clock.calendarValid.toNat, clock.ready.toNat, clock.osf.toNat]
  | systemStatus slot1 slot2 outputs policy => [slot1.running.toNat, slot2.running.toNat,
    outputs.led1On.toNat, outputs.led2On.toNat, 0, slot1.running.toNat, slot2.running.toNat,
    outputs.led1On.toNat, outputs.led2On.toNat, policy.slot1Requested.toNat,
    policy.slot2Requested.toNat, policy.led1Requested.toNat, policy.led2Requested.toNat,
    policy.pwmRequested.toNat, 0, policy.switchDataValid.toNat,
    (switchClosed policy Control.led1Input).toNat, (switchClosed policy Control.pwmInput).toNat,
    (switchClosed policy Control.slot1Input).toNat, (switchClosed policy Control.slot2Input).toNat,
    0, policy.slot1Blocked.toNat, policy.slot2Blocked.toNat, policy.led1Overridden.toNat, 0,
    policy.pwmBlocked.toNat, 0]
  | rtcAlarmEvent service status => [1, status.alarmFlag.toNat, status.interruptEnabled.toNat,
    service.snapshot.alarm.configurationValid.toNat, 0, service.rtc.clock.hour.toNat,
    service.rtc.clock.minute.toNat, service.rtc.clock.second.toNat, service.rtc.clock.day.toNat,
    service.rtc.clock.month.toNat, service.rtc.clock.year.toNat]
  | pwmStatus pwm policy => [pwm.running.toNat, pwm.dutyPercent.toNat, pwm.actualFrequencyHz.toNat,
    policy.pwmRequested.toNat, policy.pwmPermitted.toNat, policy.pwmBlocked.toNat,
    policy.switchDataValid.toNat, 0, 0]
  | inputCaptureStatus capture => [capture.signalDetected.toNat, capture.dutyPercent.toNat,
    capture.frequencyHz.toNat, capture.edgeCount.toNat % 2 ^ 16]
  | selfTestStatus test => [test.code.value.toNat, test.currentPoint % 256,
    test.totalPoints % 256, test.passedPoints % 256, test.expectedFrequencyHz.toNat]
  | selfTestResult result => [result.point % 256, result.passed.toNat,
    result.expectedDutyPercent.toNat, result.measuredDutyPercent.toNat,
    result.measuredFrequencyHz.toNat]
  | logHeartbeat heartbeat => [1, heartbeat.ready.toNat, heartbeat.overwriteDetected.toNat, 0,
    heartbeat.latestSequence.toNat, heartbeat.recordCount.toNat, heartbeat.aliveCounter.toNat]
  | canRxHealth stats health => [(health.watermarkEvents != 0).toNat,
    (health.fullEvents != 0).toNat, (health.messageLostEvents != 0).toNat,
    (stats.rxBudgetHits != 0).toNat, (stats.halRxErrors != 0).toNat, 0,
    min health.maxFillLevel.toNat 255, min health.messageLostEvents.toNat 65535,
    min health.fullEvents.toNat 65535, min health.watermarkEvents.toNat 65535]
  | timingService timing service =>
    let stats := timing.service.getD service {}
    [service % 256, timing.enabled.toNat, (decide (stats.currentCycles > stats.budgetCycles)).toNat,
      (stats.overrunCount != 0).toNat, 0, (serviceUs timing stats.currentCycles).toNat,
      (serviceUs timing stats.minimumCycles).toNat, (serviceUs timing stats.maximumCycles).toNat]
  | timingAckLatency timing => [min timing.getAckSummary.p50Us.toNat 65535,
    min timing.getAckSummary.p95Us.toNat 65535, min timing.getAckSummary.p99Us.toNat 65535,
    min timing.getAckSummary.maximumUs.toNat 65535]
  | commandAck state command status executed now => [2, command.toNat,
    (Command.calculateCommandToken state.payload).toNat, status.value.toNat, executed.toNat,
    (state.access.remainingMs now != 0).toNat, 0,
    (Command.State.remainingSeconds (state.access.remainingMs now)).toNat, 0]
  | tic12400Status snapshot => [snapshot.online.toNat, snapshot.configurationPassed.toNat,
    snapshot.crcCompleted.toNat, snapshot.monitoringStarted.toNat, 0, snapshot.porObserved.toNat,
    (ticServiceResult snapshot != 0).toNat, 0, snapshot.deviceId.toNat,
    (ticServiceResult snapshot).toNat, snapshot.status.spiFail.toNat,
    snapshot.status.parityFail.toNat, snapshot.status.switchStateChange.toNat,
    snapshot.status.supplyThreshold.toNat, snapshot.status.temperature.toNat,
    snapshot.status.otherInterrupt.toNat, snapshot.status.powerOnReset.toNat, 0,
    min snapshot.serviceFailures.toNat 65535, snapshot.lastNonzeroIntStatus.toNat % 2 ^ 16]
  | tic12400SwitchState state => [state.closedBitmap.toNat % 2 ^ 24, state.validMask.toNat % 2 ^ 24,
    state.generation.toNat, state.dataValid.toNat, 0]
  | tic12400Profile snapshot => [snapshot.batterySwitchMask.toNat % 2 ^ 24,
    snapshot.batteryCapableMask.toNat % 2 ^ 24, snapshot.profileGeneration.toNat,
    snapshot.configurationPassed.toNat, 0]

end Report

/-! ## Bytes as a word -/

/-- The payload as a number, its first byte the lowest. -/
def frameWord : Bytes → ℕ
  | [] => 0
  | byte :: bytes => byte.toNat + 256 * frameWord bytes

theorem frameWord_div (data : Bytes) : ∀ i : ℕ, frameWord data / 2 ^ (8 * i) =
    frameWord (data.drop i) := by
  induction data with
  | nil =>
    intro i
    rw [List.drop_nil]
    exact Nat.zero_div _
  | cons byte bytes ih =>
    rintro (_ | i)
    · exact Nat.div_one _
    · have hbyte := byte.toNat_lt
      have hfirst : (byte.toNat + 256 * frameWord bytes) / 256 = frameWord bytes := by
        omega
      have hsplit : 2 ^ (8 * (i + 1)) = 256 * 2 ^ (8 * i) := by
        rw [Nat.mul_add, Nat.pow_add, Nat.mul_comm]
      rw [hsplit, ← Nat.div_div_eq_div_mul, frameWord, hfirst, ih, List.drop_succ_cons]

theorem frameWord_mod (data : Bytes) : ∀ n : ℕ, frameWord data % 2 ^ (8 * n) =
    frameWord (data.take n) := by
  induction data with
  | nil =>
    intro n
    rw [List.take_nil]
    exact Nat.zero_mod _
  | cons byte bytes ih =>
    rintro (_ | n)
    · exact Nat.mod_one _
    · have hbyte := byte.toNat_lt
      have hsplit : 2 ^ (8 * (n + 1)) = 256 * 2 ^ (8 * n) := by
        rw [Nat.mul_add, Nat.pow_add, Nat.mul_comm]
      rw [hsplit, List.take_succ_cons, frameWord, frameWord, Nat.mod_mul, ← ih,
        Nat.add_mul_mod_self_left, Nat.mod_eq_of_lt hbyte,
        Nat.add_mul_div_left _ _ (by omega : 0 < 256), Nat.div_eq_of_lt hbyte, Nat.zero_add]

/-- A field inside a byte. -/
theorem read_bits (data : Bytes) (field : Field) (h : field.start % 8 + field.width ≤ 8) :
    field.read (frameWord data) = (data.at' (field.start / 8)).toNat / 2 ^ (field.start % 8) %
      2 ^ field.width := by
  have hstart : field.start = 8 * (field.start / 8) + field.start % 8 := by omega
  have hbyte : ∀ bytes : Bytes, frameWord bytes % 256 = (bytes.at' 0).toNat := by
    intro bytes
    cases bytes with
    | nil => rfl
    | cons byte bytes =>
      have hlt := byte.toNat_lt
      change (byte.toNat + 256 * frameWord bytes) % 256 = byte.toNat
      omega
  have hdrop : Bytes.at' (data.drop (field.start / 8)) 0 = data.at' (field.start / 8) := by
    unfold Bytes.at'
    rw [List.getD_eq_getElem?_getD, List.getElem?_drop, Nat.add_zero, List.getD_eq_getElem?_getD]
  unfold Field.read
  rw [← hdrop, ← hbyte, ← frameWord_div]
  conv_lhs => rw [hstart, Nat.pow_add, ← Nat.div_div_eq_div_mul]
  -- what lies above the byte is above the field
  have hpow : (256 : ℕ) = 2 ^ (field.start % 8) * 2 ^ (8 - field.start % 8) := by
    rw [← Nat.pow_add]
    have hsum : field.start % 8 + (8 - field.start % 8) = 8 := by omega
    rw [hsum]
  have hdvd : 2 ^ field.width ∣ 2 ^ (8 - field.start % 8) := Nat.pow_dvd_pow 2 (by omega)
  rw [hpow, Nat.mod_mul_right_div_self, Nat.mod_mod_of_dvd _ hdvd]

/-- A field of whole bytes. -/
theorem read_bytes (data : Bytes) (field : Field) (hstart : field.start % 8 = 0)
    (hwidth : field.width % 8 = 0) :
    field.read (frameWord data) =
      frameWord ((data.drop (field.start / 8)).take (field.width / 8)) := by
  unfold Field.read
  rw [← frameWord_mod, ← frameWord_div, Nat.mul_div_cancel' (Nat.dvd_of_mod_eq_zero hstart),
    Nat.mul_div_cancel' (Nat.dvd_of_mod_eq_zero hwidth)]

theorem toNat_bit (set : Bool) (mask : UInt8) : (bit set mask).toNat = set.toNat * mask.toNat := by
  cases set with
  | false => exact (Nat.zero_mul _).symm
  | true => exact (Nat.one_mul _).symm

section Flags

variable (a b c d e f g : Bool)

theorem toNat_flags2 : (bit a 0x01 ||| bit b 0x02).toNat = a.toNat + 2 * b.toNat := by
  decide +revert

theorem toNat_flags3 : (bit a 0x01 ||| bit b 0x02 ||| bit c 0x04).toNat =
    a.toNat + 2 * b.toNat + 4 * c.toNat := by
  decide +revert

theorem toNat_flags4 : (bit a 0x01 ||| bit b 0x02 ||| bit c 0x04 ||| bit d 0x08).toNat =
    a.toNat + 2 * b.toNat + 4 * c.toNat + 8 * d.toNat := by
  decide +revert

theorem toNat_flags5 :
    (bit a 0x01 ||| bit b 0x02 ||| bit c 0x04 ||| bit d 0x08 ||| bit e 0x10).toNat =
      a.toNat + 2 * b.toNat + 4 * c.toNat + 8 * d.toNat + 16 * e.toNat := by
  decide +revert

theorem toNat_overrideFlags :
    (bit a 0x01 ||| bit b 0x02 ||| bit c 0x04 ||| bit d 0x10).toNat =
      a.toNat + 2 * b.toNat + 4 * c.toNat + 16 * d.toNat := by
  decide +revert

theorem toNat_statusFlags :
    (bit a 0x01 ||| bit b 0x02 ||| bit c 0x04 ||| bit d 0x08 ||| bit e 0x20 ||| bit f 0x40).toNat =
      a.toNat + 2 * b.toNat + 4 * c.toNat + 8 * d.toNat + 32 * e.toNat + 64 * f.toNat := by
  decide +revert

theorem toNat_transactionFlags :
    (bit a 0x01 ||| bit b 0x02 ||| bit c 0x04 ||| bit d 0x08 ||| bit e 0x10 ||| bit f 0x20 |||
      bit g 0x40).toNat =
      a.toNat + 2 * b.toNat + 4 * c.toNat + 8 * d.toNat + 16 * e.toNat + 32 * f.toNat +
        64 * g.toNat := by
  decide +revert

theorem toNat_timeFlags (weekday : UInt8) :
    (weekday &&& 0x07 ||| bit a 0x20 ||| bit b 0x40 ||| bit c 0x80).toNat =
      weekday.toNat % 8 + 32 * a.toNat + 64 * b.toNat + 128 * c.toNat := by
  have hflags : (bit a 0x20 ||| bit b 0x40 ||| bit c 0x80).toNat =
      (a.toNat + 2 * b.toNat + 4 * c.toNat) <<< 5 := by
    decide +revert
  have hweekday : (weekday &&& 0x07).toNat = weekday.toNat % 8 :=
    (UInt8.toNat_and ..).trans (Nat.and_two_pow_sub_one_eq_mod _ 3)
  have hlt : weekday.toNat % 8 < 2 ^ 5 := by omega
  rw [UInt8.or_assoc, UInt8.or_assoc, UInt8.toNat_or, ← UInt8.or_assoc, hflags, hweekday,
    Nat.or_comm, ← Nat.shiftLeft_add_eq_or_of_lt hlt, Nat.shiftLeft_eq]
  omega

end Flags

theorem toNat_saturate16 (value : UInt32) : (saturate16 value).toNat = min value.toNat 65535 := by
  unfold saturate16
  by_cases h : value > 0xFFFF
  · rw [if_pos h]
    have hlt := UInt32.lt_iff_toNat_lt.1 h
    have hmax : (0xFFFF : UInt32).toNat = 65535 := rfl
    have hvalue : (0xFFFF : UInt16).toNat = 65535 := rfl
    omega
  · rw [if_neg h]
    have hle := UInt32.le_iff_toNat_le.1 (UInt32.not_lt.1 h)
    have hmax : (0xFFFF : UInt32).toNat = 65535 := rfl
    rw [UInt32.toNat_toUInt16]
    omega

/-! ## What readers find -/

theorem signals_inRow (kind : Kind) : InRow 64 0 ((signals kind).map Prod.snd) := by
  cases kind <;> decide

theorem Report.length_payload (report : Report) : report.payload.length = 8 := by
  cases report <;> rfl

theorem frameWord_byte (byte : UInt8) : frameWord [byte] = byte.toNat := by
  unfold frameWord
  rfl

theorem frameWord_le32 (value : UInt32) :
    frameWord [value.toUInt8, (value >>> 8).toUInt8, (value >>> 16).toUInt8,
      (value >>> 24).toUInt8] = value.toNat := by
  have hlt := value.toNat_lt
  simp only [frameWord, UInt32.toNat_toUInt8, UInt32.toNat_shiftRight, UInt32.reduceToNat,
    Nat.reduceMod, Nat.shiftRight_eq_div_pow]
  omega

theorem frameWord_le16 (value : UInt16) :
    frameWord [value.toUInt8, (value >>> 8).toUInt8] = value.toNat := by
  have hlt := value.toNat_lt
  simp only [frameWord, UInt16.toNat_toUInt8, UInt16.toNat_shiftRight, UInt16.reduceToNat,
    Nat.reduceMod, Nat.shiftRight_eq_div_pow]
  omega

theorem frameWord_le24 (value : UInt32) :
    frameWord [value.toUInt8, (value >>> 8).toUInt8, (value >>> 16).toUInt8] =
      value.toNat % 2 ^ 24 := by
  have hlt := value.toNat_lt
  simp only [frameWord, UInt32.toNat_toUInt8, UInt32.toNat_shiftRight, UInt32.reduceToNat,
    Nat.reduceMod, Nat.shiftRight_eq_div_pow]
  omega

/-- What the signals read in the payload. -/
def Report.read (report : Report) : List ℕ :=
  (signals report.kind).map fun signal => signal.2.read (frameWord report.payload)

namespace Report

theorem read_rtcStatus (statusCode halStatus : UInt8) (halError : UInt32) :
    (rtcStatus statusCode halStatus halError).read =
      (rtcStatus statusCode halStatus halError).values := by
  simp (disch := decide) only [Report.read, kind, signals, signal, values, payload, encodeRtcStatus,
    writeLe32, List.map_cons, List.map_nil, List.cons_append, List.nil_append, read_bytes,
    Nat.reduceDiv, List.drop_succ_cons, List.drop_zero, List.take_succ_cons, List.take_zero,
    frameWord_byte, frameWord_le32]
  rfl

theorem read_rtcTime (clock : Rtc.Clock) : (rtcTime clock).read = (rtcTime clock).values := by
  have hvalid := clock.calendarValid.toNat_lt
  have hready := clock.ready.toNat_lt
  have hosf := clock.osf.toNat_lt
  simp (disch := decide) only [Report.read, kind, signals, signal, values, payload,
    Telemetry.rtcTime, List.map_cons, List.map_nil, read_bytes, Nat.reduceDiv, Nat.reduceMod,
    List.drop_succ_cons, List.drop_zero, List.take_succ_cons, List.take_zero, frameWord_byte,
    read_bits, Bytes.at', List.getD_cons_succ, List.getD_cons_zero, toNat_timeFlags,
    List.cons.injEq, and_true, true_and]
  and_intros <;> omega

theorem read_systemStatus (slot1 slot2 : Control.Slot) (outputs : Control.Snapshot)
    (policy : Control.Policy) :
    (systemStatus slot1 slot2 outputs policy).read =
      (systemStatus slot1 slot2 outputs policy).values := by
  have hslot1 := slot1.running.toNat_lt
  have hslot2 := slot2.running.toNat_lt
  have hled1 := outputs.led1On.toNat_lt
  have hled2 := outputs.led2On.toNat_lt
  have hrequests := And.intro policy.slot1Requested.toNat_lt (And.intro
    policy.slot2Requested.toNat_lt (And.intro policy.led1Requested.toNat_lt (And.intro
      policy.led2Requested.toNat_lt policy.pwmRequested.toNat_lt)))
  have hinputs := And.intro policy.switchDataValid.toNat_lt (And.intro
    (switchClosed policy Control.led1Input).toNat_lt (And.intro
      (switchClosed policy Control.pwmInput).toNat_lt (And.intro
        (switchClosed policy Control.slot1Input).toNat_lt
          (switchClosed policy Control.slot2Input).toNat_lt)))
  have hoverrides := And.intro policy.slot1Blocked.toNat_lt (And.intro
    policy.slot2Blocked.toNat_lt (And.intro policy.led1Overridden.toNat_lt
      policy.pwmBlocked.toNat_lt))
  simp (disch := decide) only [Report.read, kind, signals, signal, values, payload,
    encodeSystemStatus, Telemetry.systemStatus, List.map_cons, List.map_nil, read_bits,
    Nat.reduceDiv, Nat.reduceMod, Bytes.at', List.getD_cons_succ, List.getD_cons_zero, byte,
    systemRequestSlot1, systemRequestSlot2, systemRequestLed1, systemRequestLed2,
    systemRequestPwm, systemPhysicalDataValid, systemPhysicalIn0Closed, systemPhysicalIn1Closed,
    systemPhysicalIn2Closed, systemPhysicalIn3Closed, systemOverrideSlot1Blocked,
    systemOverrideSlot2Blocked, systemOverrideLed1Overridden, systemOverridePwmBlocked,
    toNat_flags4, toNat_flags5, toNat_overrideFlags, toNat_bit, UInt8.toNat_one, Nat.mul_one,
    List.cons.injEq, and_true]
  and_intros <;> omega

theorem read_rtcAlarmEvent (service : Rtc.AlarmService) (status : Rtc.AlarmStatus) :
    (rtcAlarmEvent service status).read = (rtcAlarmEvent service status).values := by
  have hflag := status.alarmFlag.toNat_lt
  have henabled := status.interruptEnabled.toNat_lt
  have hvalid := service.snapshot.alarm.configurationValid.toNat_lt
  have hpayload : (rtcAlarmEvent service status).payload =
      [1, bit status.alarmFlag 0x01 ||| bit status.interruptEnabled 0x02 |||
        bit service.snapshot.alarm.configurationValid 0x04, service.rtc.clock.hour,
        service.rtc.clock.minute, service.rtc.clock.second, service.rtc.clock.day,
        service.rtc.clock.month, service.rtc.clock.year] := rfl
  simp (disch := decide) only [Report.read, kind, signals, signal, values, hpayload, List.map_cons,
    List.map_nil, read_bytes, read_bits, Nat.reduceDiv, Nat.reduceMod, List.drop_succ_cons,
    List.drop_zero, List.take_succ_cons, List.take_zero, frameWord_byte, Bytes.at',
    List.getD_cons_succ, List.getD_cons_zero, toNat_flags3, UInt8.toNat_one, List.cons.injEq,
    and_true, true_and]
  and_intros <;> omega

theorem read_pwmStatus (pwm : Control.Pwm.State) (policy : Control.Policy) :
    (pwmStatus pwm policy).read = (pwmStatus pwm policy).values := by
  have hrequested := policy.pwmRequested.toNat_lt
  have hpermitted := policy.pwmPermitted.toNat_lt
  have hblocked := policy.pwmBlocked.toNat_lt
  have hvalid := policy.switchDataValid.toNat_lt
  simp (disch := decide) only [Report.read, kind, signals, signal, values, payload,
    Telemetry.pwmStatus, writeLe32, List.map_cons, List.map_nil, List.cons_append, List.nil_append,
    read_bytes, read_bits, Nat.reduceDiv, Nat.reduceMod, List.drop_succ_cons, List.drop_zero,
    List.take_succ_cons, List.take_zero, frameWord_byte, frameWord_le32, Bytes.at',
    List.getD_cons_succ, List.getD_cons_zero, byte, pwmControlRequested,
    pwmControlPhysicalPermitted, pwmControlBlocked, pwmControlSwitchDataValid, toNat_flags4,
    toNat_bit, UInt8.toNat_one, UInt8.toNat_zero, Nat.mul_one, List.cons.injEq, and_true, true_and]
  and_intros <;> omega

theorem read_inputCaptureStatus (capture : Control.InputCapture.State) :
    (inputCaptureStatus capture).read = (inputCaptureStatus capture).values := by
  simp (disch := decide) only [Report.read, kind, signals, signal, values, payload,
    Telemetry.inputCaptureStatus, writeLe32, writeLe16, List.map_cons, List.map_nil,
    List.cons_append, List.nil_append, read_bytes, Nat.reduceDiv, List.drop_succ_cons,
    List.drop_zero, List.take_succ_cons, List.take_zero, frameWord_byte, frameWord_le32,
    frameWord_le16, byte, toNat_bit, UInt8.toNat_one, Nat.mul_one, UInt32.toNat_toUInt16]

theorem read_selfTestStatus (test : Control.SelfTest.State) :
    (selfTestStatus test).read = (selfTestStatus test).values := by
  have hcode : test.code.value.toUInt8.toNat = test.code.value.toNat := by
    cases test.code <;> rfl
  simp (disch := decide) only [Report.read, kind, signals, signal, values, payload,
    Telemetry.selfTestStatus, writeLe32, List.map_cons, List.map_nil, read_bytes, Nat.reduceDiv,
    List.drop_succ_cons, List.drop_zero, List.take_succ_cons, List.take_zero, frameWord_byte,
    frameWord_le32, hcode, UInt8.toNat_ofNat', Nat.reducePow]

theorem read_selfTestResult (result : Control.SelfTest.PointResult) :
    (selfTestResult result).read = (selfTestResult result).values := by
  simp (disch := decide) only [Report.read, kind, signals, signal, values, payload,
    Telemetry.selfTestResult, writeLe32, List.map_cons, List.map_nil, read_bytes, Nat.reduceDiv,
    List.drop_succ_cons, List.drop_zero, List.take_succ_cons, List.take_zero, frameWord_byte,
    frameWord_le32, byte, toNat_bit, UInt8.toNat_one, Nat.mul_one, UInt8.toNat_ofNat',
    Nat.reducePow]

theorem read_logHeartbeat (heartbeat : Log.LogHeartbeat) :
    (logHeartbeat heartbeat).read = (logHeartbeat heartbeat).values := by
  have hready := heartbeat.ready.toNat_lt
  have hoverwrite := heartbeat.overwriteDetected.toNat_lt
  have hpayload : (logHeartbeat heartbeat).payload =
      1 :: (bit heartbeat.ready 0x01 ||| bit heartbeat.overwriteDetected 0x02) ::
        (writeLe32 heartbeat.latestSequence ++
          [heartbeat.recordCount, heartbeat.aliveCounter]) := rfl
  simp (disch := decide) only [Report.read, kind, signals, signal, values, hpayload, writeLe32,
    List.map_cons, List.map_nil, List.cons_append, List.nil_append, read_bytes, read_bits,
    Nat.reduceDiv, Nat.reduceMod, List.drop_succ_cons, List.drop_zero, List.take_succ_cons,
    List.take_zero, frameWord_byte, frameWord_le32, Bytes.at', List.getD_cons_succ,
    List.getD_cons_zero, toNat_flags2, UInt8.toNat_one, List.cons.injEq, and_true, true_and]
  and_intros <;> omega

theorem read_canRxHealth (stats : Command.RxStats) (health : RxHealth) :
    (canRxHealth stats health).read = (canRxHealth stats health).values := by
  have hwatermark := (health.watermarkEvents != 0).toNat_lt
  have hfull := (health.fullEvents != 0).toNat_lt
  have hlost := (health.messageLostEvents != 0).toNat_lt
  have hbudget := (stats.rxBudgetHits != 0).toNat_lt
  have herror := (stats.halRxErrors != 0).toNat_lt
  have hfill : (if health.maxFillLevel > 255 then 255 else health.maxFillLevel.toUInt8).toNat =
      min health.maxFillLevel.toNat 255 := by
    have hmax : (255 : UInt32).toNat = 255 := rfl
    by_cases h : health.maxFillLevel > 255
    · have hlt := UInt32.lt_iff_toNat_lt.1 h
      rw [if_pos h]
      change 255 = _
      omega
    · have hle := UInt32.le_iff_toNat_le.1 (UInt32.not_lt.1 h)
      rw [if_neg h, UInt32.toNat_toUInt8]
      omega
  simp (disch := decide) only [Report.read, kind, signals, signal, values, payload,
    Telemetry.canRxHealth, writeLe16, List.map_cons, List.map_nil, List.cons_append,
    List.nil_append, read_bytes, read_bits, Nat.reduceDiv, Nat.reduceMod, List.drop_succ_cons,
    List.drop_zero, List.take_succ_cons, List.take_zero, frameWord_byte, frameWord_le16, Bytes.at',
    List.getD_cons_zero, canRxHealthWatermarkSeen, canRxHealthFifoFullSeen,
    canRxHealthMessageLost, canRxHealthBudgetExhausted, canRxHealthHalError, toNat_flags5, hfill,
    toNat_saturate16, List.cons.injEq, and_true]
  and_intros <;> omega

theorem read_timingService (timing : Timing.State) (service : Nat) :
    (timingService timing service).read = (timingService timing service).values := by
  have henabled := timing.enabled.toNat_lt
  have hcurrent := (decide ((timing.service.getD service {}).currentCycles >
    (timing.service.getD service {}).budgetCycles)).toNat_lt
  have hlatched := ((timing.service.getD service {}).overrunCount != 0).toNat_lt
  simp (disch := decide) only [Report.read, kind, signals, signal, values, payload,
    Telemetry.timingService, writeLe16, List.map_cons, List.map_nil, List.cons_append,
    List.nil_append, read_bytes, read_bits, Nat.reduceDiv, Nat.reduceMod, List.drop_succ_cons,
    List.drop_zero, List.take_succ_cons, List.take_zero, frameWord_byte, frameWord_le16, Bytes.at',
    List.getD_cons_succ, List.getD_cons_zero, timingServiceEnabled, timingServiceCurrentOverrun,
    timingServiceOverrunLatched, toNat_flags3, UInt8.toNat_ofNat', Nat.reducePow, List.cons.injEq,
    and_true, true_and]
  and_intros <;> omega

theorem read_timingAckLatency (timing : Timing.State) :
    (timingAckLatency timing).read = (timingAckLatency timing).values := by
  simp (disch := decide) only [Report.read, kind, signals, signal, values, payload,
    Telemetry.timingAckLatency, writeLe16, List.map_cons, List.map_nil, List.cons_append,
    List.nil_append, read_bytes, Nat.reduceDiv, List.drop_succ_cons, List.drop_zero,
    List.take_succ_cons, List.take_zero, frameWord_le16, toNat_saturate16]

theorem read_commandAck (state : Command.State) (command : UInt8)
    (status : Command.State.AckStatus) (executed : Bool) (now : Nat) :
    (commandAck state command status executed now).read =
      (commandAck state command status executed now).values := by
  have hexecuted := executed.toNat_lt
  have hopen := (state.access.remainingMs now != 0).toNat_lt
  have hpayload : (commandAck state command status executed now).payload =
      [2, command, Command.calculateCommandToken state.payload, status.value,
        bit executed 0x01 ||| bit (state.access.remainingMs now != 0) 0x02,
        Command.State.remainingSeconds (state.access.remainingMs now), 0, 0] := by
    unfold payload Command.State.ackPayload
    by_cases h : state.access.remainingMs now = 0
    · simp [h, bit, Command.State.ackFlagExecuted, Command.protocolVersion]
    · simp [h, bit, Command.State.ackFlagExecuted, Command.State.ackFlagAccessOpen,
        Command.protocolVersion]
  simp (disch := decide) only [Report.read, kind, signals, signal, values, hpayload, List.map_cons,
    List.map_nil, read_bytes, read_bits, Nat.reduceDiv, Nat.reduceMod, List.drop_succ_cons,
    List.drop_zero, List.take_succ_cons, List.take_zero, frameWord_byte, Bytes.at',
    List.getD_cons_succ, List.getD_cons_zero, toNat_flags2, List.cons.injEq, and_true, true_and]
  and_intros <;> first | rfl | omega

theorem read_tic12400Status (snapshot : Tic.Snapshot) :
    (tic12400Status snapshot).read = (tic12400Status snapshot).values := by
  have hstatus := And.intro snapshot.online.toNat_lt (And.intro
    snapshot.configurationPassed.toNat_lt (And.intro snapshot.crcCompleted.toNat_lt (And.intro
      snapshot.monitoringStarted.toNat_lt (And.intro snapshot.porObserved.toNat_lt
        (ticServiceResult snapshot != 0).toNat_lt))))
  have htransaction := And.intro snapshot.status.spiFail.toNat_lt (And.intro
    snapshot.status.parityFail.toNat_lt (And.intro snapshot.status.switchStateChange.toNat_lt
      (And.intro snapshot.status.supplyThreshold.toNat_lt (And.intro
        snapshot.status.temperature.toNat_lt (And.intro snapshot.status.otherInterrupt.toNat_lt
          snapshot.status.powerOnReset.toNat_lt)))))
  simp (disch := decide) only [Report.read, kind, signals, signal, values, payload,
    Telemetry.ticStatus, writeLe16, List.map_cons, List.map_nil, List.cons_append,
    List.nil_append, read_bytes, read_bits, Nat.reduceDiv, Nat.reduceMod, List.drop_succ_cons,
    List.drop_zero, List.take_succ_cons, List.take_zero, frameWord_byte, frameWord_le16, Bytes.at',
    List.getD_cons_succ, List.getD_cons_zero, ticStatusOnline, ticStatusConfigurationValid,
    ticStatusCrcComplete, ticStatusMonitoring, ticStatusPorObserved, ticStatusServiceFault,
    ticTransactionSpiFail, ticTransactionParityFail, ticTransactionSwitchStateChange,
    ticTransactionSupplyThreshold, ticTransactionTemperature, ticTransactionOtherInterrupt,
    ticTransactionPowerOnReset, toNat_statusFlags, toNat_transactionFlags, toNat_saturate16,
    UInt32.toNat_toUInt16, List.cons.injEq, and_true, true_and]
  and_intros <;> omega

theorem toNat_and24 (value : UInt32) : (value &&& 0x00FFFFFF).toNat % 2 ^ 24 =
    value.toNat % 2 ^ 24 := by
  have hmask : (value &&& 0x00FFFFFF).toNat = value.toNat % 2 ^ 24 :=
    (UInt32.toNat_and ..).trans (Nat.and_two_pow_sub_one_eq_mod _ 24)
  rw [hmask, Nat.mod_mod]

theorem read_tic12400SwitchState (state : Tic.SwitchState) :
    (tic12400SwitchState state).read = (tic12400SwitchState state).values := by
  have hvalid := state.dataValid.toNat_lt
  have hpayload : (tic12400SwitchState state).payload =
      Tic.writeLe24 (state.closedBitmap &&& 0x00FFFFFF) ++
        (Tic.writeLe24 (state.validMask &&& 0x00FFFFFF) ++
          [state.generation, bit state.dataValid 0x01]) := rfl
  simp (disch := decide) only [Report.read, kind, signals, signal, values, hpayload,
    Tic.writeLe24, List.map_cons, List.map_nil, List.cons_append, List.nil_append, read_bytes,
    read_bits, Nat.reduceDiv, Nat.reduceMod, List.drop_succ_cons, List.drop_zero,
    List.take_succ_cons, List.take_zero, frameWord_byte, frameWord_le24, toNat_and24, Bytes.at',
    List.getD_cons_succ, List.getD_cons_zero, toNat_bit, UInt8.toNat_one, Nat.mul_one,
    List.cons.injEq, and_true, true_and]
  and_intros <;> omega

theorem read_tic12400Profile (snapshot : Tic.Snapshot) :
    (tic12400Profile snapshot).read = (tic12400Profile snapshot).values := by
  have hvalid := snapshot.configurationPassed.toNat_lt
  have hpayload : (tic12400Profile snapshot).payload =
      Tic.writeLe24 snapshot.batterySwitchMask ++ (Tic.writeLe24 snapshot.batteryCapableMask ++
        [snapshot.profileGeneration, bit snapshot.configurationPassed 0x01]) := rfl
  simp (disch := decide) only [Report.read, kind, signals, signal, values, hpayload,
    Tic.writeLe24, List.map_cons, List.map_nil, List.cons_append, List.nil_append, read_bytes,
    read_bits, Nat.reduceDiv, Nat.reduceMod, List.drop_succ_cons, List.drop_zero,
    List.take_succ_cons, List.take_zero, frameWord_byte, frameWord_le24, Bytes.at',
    List.getD_cons_succ, List.getD_cons_zero, toNat_bit, UInt8.toNat_one, Nat.mul_one,
    List.cons.injEq, and_true, true_and]
  and_intros <;> omega

/-- What a reader of the definition finds in a frame of the firmware: every
bit of the eight bytes is in one signal, and each signal has the value that
it stands for. -/
theorem frame_described (report : Report) :
    report.payload.length = 8 ∧ FillsWord Prod.snd 64 (signals report.kind) ∧
      report.read = report.values := by
  refine ⟨report.length_payload, (signals_inRow report.kind).fillsWord, ?_⟩
  cases report with
  | rtcStatus statusCode halStatus halError => exact read_rtcStatus statusCode halStatus halError
  | rtcTime clock => exact read_rtcTime clock
  | systemStatus slot1 slot2 outputs policy => exact read_systemStatus slot1 slot2 outputs policy
  | rtcAlarmEvent service status => exact read_rtcAlarmEvent service status
  | pwmStatus pwm policy => exact read_pwmStatus pwm policy
  | inputCaptureStatus capture => exact read_inputCaptureStatus capture
  | selfTestStatus test => exact read_selfTestStatus test
  | selfTestResult result => exact read_selfTestResult result
  | logHeartbeat heartbeat => exact read_logHeartbeat heartbeat
  | canRxHealth stats health => exact read_canRxHealth stats health
  | timingService timing service => exact read_timingService timing service
  | timingAckLatency timing => exact read_timingAckLatency timing
  | commandAck state command status executed now =>
    exact read_commandAck state command status executed now
  | tic12400Status snapshot => exact read_tic12400Status snapshot
  | tic12400SwitchState state => exact read_tic12400SwitchState state
  | tic12400Profile snapshot => exact read_tic12400Profile snapshot

end Report

end Telemetry

end CanGui
