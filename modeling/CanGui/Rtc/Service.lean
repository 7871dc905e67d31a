import CanGui.Common.Run
import CanGui.Log.Sync
import CanGui.Rtc.Verify
import CanGui.Telemetry.Encoders
/-!
# RTC service — its turn in the main loop

At each turn the service does one thing: it waits for the chip to settle,
reads back what was written, reads what it has not read yet, or polls the
clock and the alarm. It tells of what became of it in status frames, in
frames with the time, and in the log.
-/

namespace CanGui

namespace Rtc

open Log (Entry)
open Log.Sync (Message)

def i2cPollPeriodMs : UInt32 := 100
def i2cRetryPeriodMs : UInt32 := 1000
def initSettleDelayMs : UInt32 := 50
def rtcStatusTxId : UInt32 := 0x551
def rtcTimeTxId : UInt32 := 0x556
def rtcAlarmEventTxId : UInt32 := 0x558
def eventRtcInitOk : UInt32 := 0x0200
def eventRtcInitFailed : UInt32 := 0x0201
def eventRtcReadFailed : UInt32 := 0x0202
def eventRtcWriteOk : UInt32 := 0x0203
def eventRtcRecovered : UInt32 := 0x0205
def eventAlarmConfigured : UInt32 := 0x0300
def writeLogStageReadback : UInt32 := 3
def writeLogStageVerifyMismatch : UInt32 := 4
def alarmLogStageReadback : UInt32 := 6
def alarmLogStageVerifyMismatch : UInt32 := 7

/-- `PCA2131_RESULT_DEVICE_NOT_READY` -/
def resultDeviceNotReady : UInt32 := 3

/-! ## Status frames -/

/-- `CAN_Protocol_RtcStatusCode_t` -/
inductive StatusCode where
  | initOk
  | writeVerifyOk
  | reconnected
  | alarmWriteVerifyOk
  | initFailed
  | readFailed
  | invalidDateTime
  | controlReadFailed
  | stopWriteFailed
  | cprWriteFailed
  | calendarWriteFailed
  | startWriteFailed
  | recoveryFailed
  | busy
  | alarmNotReady
  | invalidAlarmConfig
  | alarmWriteFailed
  | alarmReadbackFailed
  | alarmVerifyMismatch
  | alarmFlagClearFailed
  | writeVerifyMismatch
  deriving DecidableEq, Repr

def StatusCode.value : StatusCode → UInt8
  | initOk => 0xA1
  | writeVerifyOk => 0xA2
  | reconnected => 0xA3
  | alarmWriteVerifyOk => 0xA4
  | initFailed => 0xE1
  | readFailed => 0xE2
  | invalidDateTime => 0xE4
  | controlReadFailed => 0xE5
  | stopWriteFailed => 0xE6
  | cprWriteFailed => 0xE7
  | calendarWriteFailed => 0xE8
  | startWriteFailed => 0xE9
  | recoveryFailed => 0xEA
  | busy => 0xEB
  | alarmNotReady => 0xEC
  | invalidAlarmConfig => 0xED
  | alarmWriteFailed => 0xEE
  | alarmReadbackFailed => 0xEF
  | alarmVerifyMismatch => 0xF0
  | alarmFlagClearFailed => 0xF1
  | writeVerifyMismatch => 0xF2

/-- A frame of the service. -/
inductive Frame where
  | status (code : StatusCode) (halStatus : HalStatus) (halError : UInt32)
  | time (clock : Clock)
  | alarmEvent (event : Bytes)
  deriving DecidableEq, Repr

/-- `CAN_Send_RTC_Status`, `CAN_Send_RTC_Time` and the frame of
`RTC_SendAlarmEvent`. -/
def Frame.message : Frame → Message
  | status code halStatus halError =>
    ⟨rtcStatusTxId, Telemetry.encodeRtcStatus code.value halStatus.value.toUInt8 halError⟩
  | time clock => ⟨rtcTimeTxId, Telemetry.rtcTime clock⟩
  | alarmEvent event => ⟨rtcAlarmEventTxId, event⟩

/-- `PCA2131_GetWriteErrorStatusCode` -/
def Result.writeErrorStatusCode : Result → StatusCode
  | .controlReadFailed => .controlReadFailed
  | .stopWriteFailed => .stopWriteFailed
  | .cprWriteFailed => .cprWriteFailed
  | .calendarWriteFailed => .calendarWriteFailed
  | .startWriteFailed => .startWriteFailed
  | _ => .invalidDateTime

/-- The frames of `PCA2131_ReportWriteFailure`. -/
def OperationStatus.writeFailureFrames (status : OperationStatus) : List Frame :=
  Frame.status status.result.writeErrorStatusCode status.halStatus status.halError ::
    match status.recovery with
    | some reply =>
      if reply.status ≠ .ok then [.status .recoveryFailed reply.status reply.error] else []
    | none => []

/-- The frames of `RTC_SetAlarm`, by what is noted of the request. -/
def AlarmWriteStatus.requestFrames (status : AlarmWriteStatus) (clock : Clock) : List Frame :=
  match status.result with
  | .rejectedBusy => [.status .busy .busy 0]
  | .rejectedNotReady => [.status .alarmNotReady clock.lastStatus clock.lastError]
  | .rejectedInvalidConfig => [.status .invalidAlarmConfig .error 0]
  | .flagClearFailed => [.status .alarmFlagClearFailed status.halStatus status.halError]
  | .driverFailed => [.status .alarmWriteFailed status.halStatus status.halError]
  | _ => []

/-! ## The chip -/

namespace Bus

/-- `PCA2131_Driver_CheckReady` -/
def checkReady (bus : Bus) : Reply × Bus := (bus.reply, { bus with replies := bus.replies.tail })

/-- The transfers of `PCA2131_Driver_ReadWatchdogStatus`. -/
def readWatchdogStatus (bus : Bus) : Bus :=
  let reply := bus.reply
  let (_, bus) := bus.read regControl2 1
  if reply.status ≠ .ok then bus else (bus.read 0x31 5).2

end Bus

/-! ## The service -/

/-- The service with what its turns need beside the clock and the alarm. -/
structure Service where
  alarm : AlarmService := {}
  /-- `rtc.last_result`, the results of reads included. -/
  lastResult : UInt32 := 0
  initDeadline : UInt32 := 0
  lastRtcPollTime : UInt32 := 0
  lastPublishedSecond : UInt8 := 0xFF
  lastPublishedHundredth : UInt8 := 0xFF
  forcePublish : Bool := true
  watchdogReadPending : Bool := false
  /-- What the driver reported of the alarm when it was last read. -/
  alarmRead : ReadStatus := ⟨.ok, .ok, 0⟩
  deriving DecidableEq, Repr

/-- What a turn or a request comes to. -/
structure Turn where
  service : Service
  /-- The frames that are handed to the transport; an event only when the
  transport accepts it. -/
  frames : List Frame := []
  logged : List Entry := []
  /-- A date and time was accepted. -/
  wroteDateTime : Bool := false
  /-- An alarm was asked for. -/
  askedAlarm : Bool := false
  /-- It was accepted. -/
  wroteAlarm : Bool := false
  deriving DecidableEq, Repr

namespace Service

def rtc (service : Service) : State := service.alarm.rtc

/-- `RTC_PackLogResult`, `RTC_LogOperation` -/
def logOperation (service : Service) (severity eventCode : UInt32) : Entry where
  source := sourceRtc
  severity := severity
  eventCode := eventCode
  rtcEpochS := 0
  data0 := (service.lastResult &&& 0x00FFFFFF) <<< 8 |||
    (service.rtc.clock.lastStatus.value &&& 0xFF)
  data1 := service.rtc.clock.lastError

/-- `RTC_LogWriteFailure`, of what is noted of the last transfer. -/
def logWriteFailure (service : Service) (stage : UInt32) : Entry where
  source := sourceRtc
  severity := severityFault
  eventCode := eventRtcWriteFailed
  rtcEpochS := 0
  data0 := packFailureDetail stage service.lastResult service.rtc.clock.lastStatus
  data1 := service.rtc.clock.lastError

/-- `RTC_PackAlarmEnableMask` -/
def packAlarmEnableMask (config : AlarmConfig) : UInt32 :=
  (if config.second.enabled then (1 : UInt32) <<< 0 else 0) |||
    (if config.minute.enabled then (1 : UInt32) <<< 1 else 0) |||
    (if config.hour.enabled then (1 : UInt32) <<< 2 else 0) |||
    (if config.day.enabled then (1 : UInt32) <<< 3 else 0) |||
    (if config.weekday.enabled then (1 : UInt32) <<< 4 else 0)

/-- `RTC_PackAlarmValues` -/
def packAlarmValues (config : AlarmConfig) : UInt32 :=
  let bits (field : AlarmField) (mask : UInt32) : UInt32 := field.value.toUInt32 &&& mask
  bits config.second 0x3F ||| bits config.minute 0x3F <<< 6 ||| bits config.hour 0x1F <<< 12 |||
    bits config.day 0x1F <<< 17 ||| bits config.weekday 0x07 <<< 22

/-- `RTC_LogAlarmConfigured` -/
def logAlarmConfigured (config : AlarmConfig) : Entry where
  source := sourceAlarm
  severity := severityInfo
  eventCode := eventAlarmConfigured
  rtcEpochS := 0
  data0 := packAlarmEnableMask config
  data1 := packAlarmValues config

/-! ### Reads -/

/-- `PCA2131_Init_Check` -/
def initCheck (peripheralReady : Bool) (registers : Bytes) (now : UInt32) : Service :=
  let service : Service := {
    alarm := {
      rtc := {
        peripheralReady
        initState := .waitSettle
        bus := { registers }
        alarmReadPending := true }
      lastAlarmStatusPollTime := now }
    initDeadline := now + initSettleDelayMs
    lastRtcPollTime := now
    watchdogReadPending := true }
  if peripheralReady = false then
    { service with
      alarm.rtc.clock.lastStatus := .error
      alarm.rtc.alarmReadPending := false
      alarm.rtc.initState := .complete
      lastResult := resultDeviceNotReady
      initDeadline := 0
      watchdogReadPending := false }
  else service

/-- `PCA2131_UpdateTime`: whether the clock was read. -/
def updateTime (service : Service) : Bool × Service :=
  let rtc := service.rtc
  let ((status, reading), bus) := rtc.bus.readDateTime
  let clock := { rtc.clock with lastStatus := status.halStatus, lastError := status.halError }
  match reading with
  | none =>
    (false, { service with
      alarm.rtc := { rtc with bus, clock := { clock with ready := false } }
      lastResult := status.result.value })
  | some reading =>
    (true, { service with
      alarm.rtc := { rtc with
        bus
        clock := { clock with
          ready := true
          hundredth := reading.dateTime.hundredth
          second := reading.dateTime.second
          minute := reading.dateTime.minute
          hour := reading.dateTime.hour
          day := reading.dateTime.day
          weekday := reading.dateTime.weekday
          month := reading.dateTime.month
          year := reading.dateTime.year
          osf := reading.osf
          calendarValid := reading.calendarValid } }
      lastResult := status.result.value })

/-- `RTC_RefreshAlarmSnapshot` -/
def refreshAlarmSnapshot (service : Service) : Bool × Service :=
  if service.rtc.peripheralReady = false then (false, service)
  else
    let ((status, alarm), bus) := service.rtc.bus.readAlarm
    (status.result == .ok, { service with
      alarm.rtc.bus := bus
      alarm.snapshot := { readOk := status.result == .ok, alarm }
      alarmRead := status })

/-! ### Requests -/

/-- `PCA2131_SetDateTime` -/
def setDateTime (service : Service) (dateTime : DateTime) (tick : UInt32) : Turn :=
  let rtc := service.rtc
  let outcome := rtc.setDateTime dateTime tick
  let turn : Turn := {
    service := { service with alarm.rtc := outcome.state }
    logged := outcome.logged
    wroteDateTime := outcome.accepted }
  if rtc.peripheralReady = false then { turn with frames := [.status .initFailed .error 0] }
  else if rtc.initState ≠ .complete ∨ rtc.writePending ∨ rtc.alarmWritePending then
    { turn with frames := [.status .busy .busy 0] }
  else
    let status := (rtc.bus.writeDateTime dateTime).1
    let turn := { turn with service.lastResult := status.result.value }
    if status.result ≠ .ok then { turn with frames := status.writeFailureFrames } else turn

/-- `PCA2131_SetTime` -/
def setTime (service : Service) (hour minute second : UInt8) (tick : UInt32) : Turn :=
  service.setDateTime (service.rtc.timeOfDay hour minute second) tick

/-- `RTC_SetAlarm` -/
def setAlarm (service : Service) (config : AlarmConfig) (tick : UInt32) : Turn :=
  let outcome := service.rtc.setAlarm config tick
  { service := { service with alarm.rtc := outcome.state }
    frames := outcome.state.alarmWriteStatus.requestFrames service.rtc.clock
    logged := outcome.logged
    askedAlarm := true
    wroteAlarm := outcome.accepted }

/-! ### Turns -/

/-- `RTC_ProcessInitialization`; nothing when the chip is initialized. -/
def processInitialization (service : Service) (now : UInt32) : Option Turn :=
  if service.rtc.initState = .complete then none
  else if service.rtc.initState = .notStarted then some { service }
  else if (now - service.initDeadline).toInt32 < 0 then some { service }
  else
    let (reply, bus) := service.rtc.bus.checkReady
    let ready := reply.status == .ok
    let service := { service with
      alarm.rtc := { service.rtc with
        bus
        initState := .complete
        clock := { service.rtc.clock with
          ready, lastStatus := reply.status, lastError := reply.error } }
      lastResult := if ready then 0 else resultDeviceNotReady }
    if ready then
      some {
        service
        frames := [.status .initOk reply.status reply.error]
        logged := [service.logOperation severityInfo eventRtcInitOk] }
    else
      some {
        service
        frames := [.status .initFailed reply.status reply.error]
        logged := [service.logOperation severityFault eventRtcInitFailed] }

/-- `RTC_ProcessPendingWrite`; nothing when no write is pending. -/
def processPendingWrite (service : Service) (now : UInt32) : Option Turn :=
  if service.rtc.writePending = false then none
  else if (now - service.rtc.writeVerifyDeadline).toInt32 < 0 then some { service }
  else
    let (read, service) := { service with alarm.rtc.writePending := false }.updateTime
    let clock := service.rtc.clock
    if read = false then
      some {
        service
        frames := [.status .readFailed clock.lastStatus clock.lastError, .time clock]
        logged := [service.logWriteFailure writeLogStageReadback] }
    else if service.rtc.dateTimeMatchesPendingWrite now = false then
      some {
        service
        frames := [.status .writeVerifyMismatch clock.lastStatus clock.lastError,
          .time clock]
        logged := [service.logWriteFailure writeLogStageVerifyMismatch] }
    else
      some {
        service := { service with
          lastPublishedSecond := clock.second
          lastPublishedHundredth := clock.hundredth
          forcePublish := false }
        frames := [.status .writeVerifyOk clock.lastStatus clock.lastError, .time clock]
        logged := [service.logOperation severityInfo eventRtcWriteOk] }

/-- `RTC_ProcessPendingAlarmWrite`; nothing when no alarm is pending. -/
def processPendingAlarmWrite (service : Service) (now : UInt32) : Option Turn :=
  if service.rtc.alarmWritePending = false then none
  else if (now - service.rtc.alarmVerifyDeadline).toInt32 < 0 then some { service }
  else
    let (read, service) :=
      { service with alarm.rtc.alarmWritePending := false }.refreshAlarmSnapshot
    let reply := service.alarmRead
    let status := { service.rtc.alarmWriteStatus with
      halStatus := reply.halStatus
      halError := reply.halError
      completionTickMs := now }
    if read = false then
      some {
        service := { service with
          alarm.rtc.alarmWriteStatus := { status with
            result := .readbackFailed
            failureCount := status.failureCount + 1 } }
        frames := [.status .alarmReadbackFailed reply.halStatus reply.halError]
        logged := [logAlarmFailure severityFault alarmLogStageReadback reply.result.value
          reply.halStatus reply.halError] }
    else if status.requested.matches service.alarm.snapshot.alarm = false then
      some {
        service := { service with
          alarm.rtc.alarmWriteStatus := { status with
            result := .verifyMismatch
            failureCount := status.failureCount + 1 } }
        frames := [.status .alarmVerifyMismatch reply.halStatus reply.halError]
        logged := [logAlarmFailure severityFault alarmLogStageVerifyMismatch
          AlarmWriteResult.verifyMismatch.value reply.halStatus reply.halError] }
    else
      some {
        service := { service with
          alarm.rtc.alarmWriteStatus := { status with
            result := .verified
            verifiedCount := status.verifiedCount + 1 } }
        frames := [.status .alarmWriteVerifyOk reply.halStatus reply.halError]
        logged := [logAlarmConfigured status.requested] }

/-- The time is published when it changed, or when it has to be. -/
def publishTime (service : Service) : Service × List Frame :=
  let clock := service.rtc.clock
  if service.forcePublish ∨ clock.second ≠ service.lastPublishedSecond ∨
      clock.hundredth ≠ service.lastPublishedHundredth then
    ({ service with
        forcePublish := false
        lastPublishedSecond := clock.second
        lastPublishedHundredth := clock.hundredth }, [.time clock])
  else (service, [])

/-- `poll_period_ms` of `RTC_Process` -/
def pollPeriodMs (service : Service) : UInt32 :=
  if service.rtc.clock.ready then i2cPollPeriodMs else i2cRetryPeriodMs

/-- The poll of the clock in `RTC_Process`. -/
def pollTime (service : Service) (now : UInt32) : Turn :=
  let wasReady := service.rtc.clock.ready
  if now - service.lastRtcPollTime < service.pollPeriodMs then { service }
  else
    let (read, service) := { service with lastRtcPollTime := now }.updateTime
    let clock := service.rtc.clock
    if read then
      if wasReady then
        let (service, frames) := service.publishTime
        { service, frames }
      else
        let logged := [service.logOperation severityInfo eventRtcRecovered]
        let (service, frames) := { service with forcePublish := true }.publishTime
        { service
          frames := Frame.status .reconnected clock.lastStatus clock.lastError :: frames
          logged }
    else if wasReady then
      { service := { service with forcePublish := true }
        frames := [.status .readFailed clock.lastStatus clock.lastError]
        logged := [service.logOperation severityFault eventRtcReadFailed] }
    else { service }

/-- The last part of `RTC_Process`: the polls of the clock and of the
alarm. -/
def poll (service : Service) (now : UInt32) (txResult : Transport.Result) : Turn :=
  let turn := service.pollTime now
  let outcome := turn.service.alarm.processAlarmEvent now txResult
  { turn with
    service := { turn.service with alarm := outcome.service }
    frames := turn.frames ++
      (if outcome.accepted then outcome.event.toList.map .alarmEvent else [])
    logged := turn.logged ++ outcome.logged }

/-- What `RTC_Process` does when nothing is pending. -/
def idleTurn (service : Service) (now : UInt32) (txResult : Transport.Result) : Turn :=
  if service.watchdogReadPending ∧ service.rtc.clock.ready then
    { service := { service with
        watchdogReadPending := false
        alarm.rtc.bus := service.rtc.bus.readWatchdogStatus } }
  else if service.rtc.alarmReadPending ∧ service.rtc.clock.ready then
    { service := { service with alarm.rtc.alarmReadPending := false }.refreshAlarmSnapshot.2 }
  else service.poll now txResult

/-- `RTC_Process`; what the transport would answer to an event is given. -/
def process (service : Service) (now : UInt32) (txResult : Transport.Result) : Turn :=
  if service.rtc.peripheralReady = false then { service }
  else
    (service.processInitialization now).getD
      ((service.processPendingWrite now).getD
        ((service.processPendingAlarmWrite now).getD (service.idleTurn now txResult)))

end Service

/-- What the service may be called for. The chip and the bus are as the
call meets them. -/
inductive Happening where
  | turn (bus : Bus) (now : UInt32) (txResult : Transport.Result)
  | setDateTime (bus : Bus) (dateTime : DateTime) (tick : UInt32)
  | setTime (bus : Bus) (hour minute second : UInt8) (tick : UInt32)
  | setAlarm (bus : Bus) (config : AlarmConfig) (tick : UInt32)
  deriving DecidableEq, Repr

def Service.meet (service : Service) (bus : Bus) : Service := { service with alarm.rtc.bus := bus }

def Service.call (service : Service) : Happening → Turn
  | .turn bus now txResult => (service.meet bus).process now txResult
  | .setDateTime bus dateTime tick => (service.meet bus).setDateTime dateTime tick
  | .setTime bus hour minute second tick => (service.meet bus).setTime hour minute second tick
  | .setAlarm bus config tick => (service.meet bus).setAlarm config tick

end Rtc

end CanGui
