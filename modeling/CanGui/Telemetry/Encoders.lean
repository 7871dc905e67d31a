import CanGui.Command.Dispatch
import CanGui.Control.Application
import CanGui.Control.InputCapture
import CanGui.Log.Heartbeat
import CanGui.Rtc.AlarmEvent
import CanGui.Tic.View
import CanGui.Timing.Ack
/-!
# Telemetry — the frames of the firmware

What the firmware reports about itself, each kind in a frame of its own:
the parts of the firmware as they are then, in the bytes of the payload.
-/

namespace CanGui

namespace Telemetry

/-! ## Flags and counters -/

def bit (set : Bool) (mask : UInt8) : UInt8 := if set then mask else 0

/-- `CAN_SaturateU16` -/
def saturate16 (value : UInt32) : UInt16 := if value > 0xFFFF then 0xFFFF else value.toUInt16

def byte (set : Bool) : UInt8 := bit set 1

/-! ## The real-time clock -/

/-- `CAN_Protocol_EncodeRtcStatus` -/
def encodeRtcStatus (statusCode halStatus : UInt8) (halError : UInt32) : Bytes :=
  statusCode :: halStatus :: (writeLe32 halError ++ [0, 0])

/-- `CAN_Send_RTC_Time`, with `CAN_Protocol_EncodeRtcTime`. -/
def rtcTime (clock : Rtc.Clock) : Bytes :=
  [clock.hour, clock.minute, clock.second, clock.hundredth, clock.day, clock.month, clock.year,
    clock.weekday &&& 0x07 ||| bit clock.calendarValid 0x20 ||| bit clock.ready 0x40 |||
      bit clock.osf 0x80]

/-! ## Control -/

def systemRequestSlot1 : UInt8 := 0x01
def systemRequestSlot2 : UInt8 := 0x02
def systemRequestLed1 : UInt8 := 0x04
def systemRequestLed2 : UInt8 := 0x08
def systemRequestPwm : UInt8 := 0x10
def systemPhysicalDataValid : UInt8 := 0x01
def systemPhysicalIn0Closed : UInt8 := 0x02
def systemPhysicalIn1Closed : UInt8 := 0x04
def systemPhysicalIn2Closed : UInt8 := 0x08
def systemPhysicalIn3Closed : UInt8 := 0x10
def systemOverrideSlot1Blocked : UInt8 := 0x01
def systemOverrideSlot2Blocked : UInt8 := 0x02
def systemOverrideLed1Overridden : UInt8 := 0x04
def systemOverridePwmBlocked : UInt8 := 0x10
def pwmControlRequested : UInt8 := 0x01
def pwmControlPhysicalPermitted : UInt8 := 0x02
def pwmControlBlocked : UInt8 := 0x04
def pwmControlSwitchDataValid : UInt8 := 0x08

/-- `CAN_Protocol_SystemStatus_t` -/
structure SystemStatus where
  slot1Running : Bool
  slot2Running : Bool
  led1On : Bool
  led2On : Bool
  requestFlags : UInt8
  physicalFlags : UInt8
  overrideFlags : UInt8
  deriving DecidableEq, Repr

/-- A switch of the mask is closed. -/
def switchClosed (policy : Control.Policy) (input : Nat) : Bool :=
  policy.closedSwitchMask &&& (1 <<< UInt32.ofNat input) != 0

/-- `CAN_Send_System_Status`, up to the encoding. -/
def systemStatus (slot1 slot2 : Control.Slot) (outputs : Control.Snapshot)
    (policy : Control.Policy) : SystemStatus where
  slot1Running := slot1.running
  slot2Running := slot2.running
  led1On := outputs.led1On
  led2On := outputs.led2On
  requestFlags := bit policy.slot1Requested systemRequestSlot1 |||
    bit policy.slot2Requested systemRequestSlot2 ||| bit policy.led1Requested systemRequestLed1 |||
    bit policy.led2Requested systemRequestLed2 ||| bit policy.pwmRequested systemRequestPwm
  physicalFlags := bit policy.switchDataValid systemPhysicalDataValid |||
    bit (switchClosed policy Control.led1Input) systemPhysicalIn0Closed |||
    bit (switchClosed policy Control.pwmInput) systemPhysicalIn1Closed |||
    bit (switchClosed policy Control.slot1Input) systemPhysicalIn2Closed |||
    bit (switchClosed policy Control.slot2Input) systemPhysicalIn3Closed
  overrideFlags := bit policy.slot1Blocked systemOverrideSlot1Blocked |||
    bit policy.slot2Blocked systemOverrideSlot2Blocked |||
    bit policy.led1Overridden systemOverrideLed1Overridden |||
    bit policy.pwmBlocked systemOverridePwmBlocked

/-- `CAN_Protocol_EncodeSystemStatus` -/
def encodeSystemStatus (status : SystemStatus) : Bytes :=
  [bit status.slot1Running 0x01 ||| bit status.slot2Running 0x02 ||| bit status.led1On 0x04 |||
      bit status.led2On 0x08,
    byte status.slot1Running, byte status.slot2Running, byte status.led1On, byte status.led2On,
    status.requestFlags, status.physicalFlags, status.overrideFlags]

/-- `CAN_Send_Pwm_Status`, with `CAN_Protocol_EncodePwmStatus`. -/
def pwmStatus (pwm : Control.Pwm.State) (policy : Control.Policy) : Bytes :=
  byte pwm.running :: pwm.dutyPercent :: (writeLe32 pwm.actualFrequencyHz ++
    [bit policy.pwmRequested pwmControlRequested |||
      bit policy.pwmPermitted pwmControlPhysicalPermitted |||
      bit policy.pwmBlocked pwmControlBlocked |||
      bit policy.switchDataValid pwmControlSwitchDataValid, 0])

/-- `CAN_Send_Input_Capture_Status`, with
`CAN_Protocol_EncodeInputCaptureStatus`. -/
def inputCaptureStatus (capture : Control.InputCapture.State) : Bytes :=
  byte capture.signalDetected :: capture.dutyPercent ::
    (writeLe32 capture.frequencyHz ++ writeLe16 capture.edgeCount.toUInt16)

/-- `CAN_Send_Pwm_Self_Test_Status`, with
`CAN_Protocol_EncodePwmSelfTestStatus`. -/
def selfTestStatus (test : Control.SelfTest.State) : Bytes :=
  test.code.value.toUInt8 :: UInt8.ofNat test.currentPoint :: UInt8.ofNat test.totalPoints ::
    UInt8.ofNat test.passedPoints :: writeLe32 test.expectedFrequencyHz

/-- The payload of `CAN_Send_Pwm_Self_Test_Result`, with
`CAN_Protocol_EncodePwmSelfTestResult`. -/
def selfTestResult (result : Control.SelfTest.PointResult) : Bytes :=
  UInt8.ofNat result.point :: byte result.passed :: result.expectedDutyPercent ::
    result.measuredDutyPercent :: writeLe32 result.measuredFrequencyHz

/-! ## Reception and timing -/

def canRxHealthWatermarkSeen : UInt8 := 0x01
def canRxHealthFifoFullSeen : UInt8 := 0x02
def canRxHealthMessageLost : UInt8 := 0x04
def canRxHealthBudgetExhausted : UInt8 := 0x08
def canRxHealthHalError : UInt8 := 0x10

/-- `CAN_RxHealth_Stats_t`, what the receive interrupts count. -/
structure RxHealth where
  newMessageEvents : UInt32 := 0
  watermarkEvents : UInt32 := 0
  fullEvents : UInt32 := 0
  messageLostEvents : UInt32 := 0
  maxFillLevel : UInt32 := 0
  deriving DecidableEq, Repr

/-- The events of a receive interrupt. -/
structure RxEvents where
  newMessage : Bool
  watermark : Bool
  full : Bool
  messageLost : Bool
  deriving DecidableEq, Repr

def count (event : Bool) (events : UInt32) : UInt32 := if event then events + 1 else events

/-- `CAN_RxHealth_RecordIsr` -/
def RxHealth.recordIsr (health : RxHealth) (events : RxEvents) (fillLevel : UInt32) :
    RxHealth where
  newMessageEvents := count events.newMessage health.newMessageEvents
  watermarkEvents := count events.watermark health.watermarkEvents
  fullEvents := count events.full health.fullEvents
  messageLostEvents := count events.messageLost health.messageLostEvents
  maxFillLevel := if fillLevel > health.maxFillLevel then fillLevel else health.maxFillLevel

/-- `CAN_Send_Rx_Health`, with `CAN_Protocol_EncodeCanRxHealth`. -/
def canRxHealth (stats : Command.RxStats) (health : RxHealth) : Bytes :=
  (bit (health.watermarkEvents != 0) canRxHealthWatermarkSeen |||
      bit (health.fullEvents != 0) canRxHealthFifoFullSeen |||
      bit (health.messageLostEvents != 0) canRxHealthMessageLost |||
      bit (stats.rxBudgetHits != 0) canRxHealthBudgetExhausted |||
      bit (stats.halRxErrors != 0) canRxHealthHalError) ::
    (if health.maxFillLevel > 255 then 255 else health.maxFillLevel.toUInt8) ::
    (writeLe16 (saturate16 health.messageLostEvents) ++
      (writeLe16 (saturate16 health.fullEvents) ++
        writeLe16 (saturate16 health.watermarkEvents)))

def timingServiceEnabled : UInt8 := 0x01
def timingServiceCurrentOverrun : UInt8 := 0x02
def timingServiceOverrunLatched : UInt8 := 0x04

/-- The times of a service, in microseconds. -/
def serviceUs (timing : Timing.State) (cycles : UInt32) : UInt16 :=
  saturate16 (Timing.cyclesToMicroseconds timing.coreClockHz cycles)

/-- The frame of a service in `CAN_Timing_Telemetry_Process`, with
`CAN_Protocol_EncodeTimingService`. -/
def timingService (timing : Timing.State) (service : Nat) : Bytes :=
  let stats := timing.service.getD service {}
  UInt8.ofNat service :: (bit timing.enabled timingServiceEnabled |||
      bit (decide (stats.currentCycles > stats.budgetCycles)) timingServiceCurrentOverrun |||
      bit (stats.overrunCount != 0) timingServiceOverrunLatched) ::
    (writeLe16 (serviceUs timing stats.currentCycles) ++
      (writeLe16 (serviceUs timing stats.minimumCycles) ++
        writeLe16 (serviceUs timing stats.maximumCycles)))

/-- The frame of the summary in `CAN_Timing_Telemetry_Process`, with
`CAN_Protocol_EncodeTimingAckLatency`. -/
def timingAckLatency (timing : Timing.State) : Bytes :=
  let summary := timing.getAckSummary
  writeLe16 (saturate16 summary.p50Us) ++ (writeLe16 (saturate16 summary.p95Us) ++
    (writeLe16 (saturate16 summary.p99Us) ++ writeLe16 (saturate16 summary.maximumUs)))

/-! ## The TIC12400 -/

def ticStatusOnline : UInt8 := 0x01
def ticStatusConfigurationValid : UInt8 := 0x02
def ticStatusCrcComplete : UInt8 := 0x04
def ticStatusMonitoring : UInt8 := 0x08
def ticStatusPorObserved : UInt8 := 0x20
def ticStatusServiceFault : UInt8 := 0x40
def ticTransactionSpiFail : UInt8 := 0x01
def ticTransactionParityFail : UInt8 := 0x02
def ticTransactionSwitchStateChange : UInt8 := 0x04
def ticTransactionSupplyThreshold : UInt8 := 0x08
def ticTransactionTemperature : UInt8 := 0x10
def ticTransactionOtherInterrupt : UInt8 := 0x20
def ticTransactionPowerOnReset : UInt8 := 0x40

/-- `TIC12400_CAN_MapResult` -/
def ticResult : Tic.Result → UInt8
  | .ok => 0x00
  | .invalidArgument => 0x01
  | .invalidAddress => 0x02
  | .halError => 0x03
  | .responseParityError => 0x04
  | .deviceSpiError => 0x05
  | .deviceParityError => 0x06
  | .deviceIdMismatch => 0x07
  | .invalidData => 0x08
  | .registerVerifyMismatch => 0x09
  | .crcTimeout => 0x0A
  | .crcCompletionMissing => 0x0B

/-- The result that is reported: of the latest service, once the switches
are monitored, and before of the latest set-up. -/
def ticServiceResult (snapshot : Tic.Snapshot) : UInt8 :=
  if snapshot.monitoringStarted then ticResult snapshot.serviceResult
  else ticResult snapshot.result

/-- `TIC12400_CAN_SendStatus`, with `CAN_Protocol_EncodeTic12400Status`. -/
def ticStatus (snapshot : Tic.Snapshot) : Bytes :=
  (bit snapshot.online ticStatusOnline |||
      bit snapshot.configurationPassed ticStatusConfigurationValid |||
      bit snapshot.crcCompleted ticStatusCrcComplete |||
      bit snapshot.monitoringStarted ticStatusMonitoring |||
      bit snapshot.porObserved ticStatusPorObserved |||
      bit (ticServiceResult snapshot != 0) ticStatusServiceFault) ::
    snapshot.deviceId :: ticServiceResult snapshot ::
    (bit snapshot.status.spiFail ticTransactionSpiFail |||
      bit snapshot.status.parityFail ticTransactionParityFail |||
      bit snapshot.status.switchStateChange ticTransactionSwitchStateChange |||
      bit snapshot.status.supplyThreshold ticTransactionSupplyThreshold |||
      bit snapshot.status.temperature ticTransactionTemperature |||
      bit snapshot.status.otherInterrupt ticTransactionOtherInterrupt |||
      bit snapshot.status.powerOnReset ticTransactionPowerOnReset) ::
    (writeLe16 (saturate16 snapshot.serviceFailures) ++
      writeLe16 snapshot.lastNonzeroIntStatus.toUInt16)

end Telemetry

end CanGui
