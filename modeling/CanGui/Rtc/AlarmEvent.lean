import CanGui.Rtc.Requests
import CanGui.Rtc.Writing
import CanGui.Transport.Queue
/-!
# RTC service — the event of an alarm

The service polls the chip's alarm flag, sends an event for a flag that is
set and clears the flag. The flag is sticky: it stays set until it is
cleared, by a poll or by the write of a new alarm.
-/

namespace CanGui

namespace Rtc

def alarmStatusPollPeriodMs : UInt32 := 100
def alarmLogStageStatusRead : UInt32 := 8
def alarmLogStageEventTx : UInt32 := 9
def alarmLogStageEventFlagClear : UInt32 := 10
def severityInfo : UInt32 := 0
def eventAlarmTriggered : UInt32 := 0x0301
def rtcAlarmEventTriggered : UInt8 := 0x01
def rtcAlarmEventAf : UInt8 := 0x01
def rtcAlarmEventAie : UInt8 := 0x02
def rtcAlarmEventConfigOk : UInt8 := 0x04

/-- `PCA2131_AlarmStatus_t` -/
structure AlarmStatus where
  alarmFlag : Bool := false
  interruptEnabled : Bool := false
  deriving DecidableEq, Repr

/-- `PCA2131_Driver_ReadAlarmStatus` -/
def Bus.readAlarmStatus (bus : Bus) : (OperationStatus × AlarmStatus) × Bus :=
  let reply := bus.reply
  let (control2, bus) := bus.read regControl2 1
  if reply.status ≠ .ok then ((reply.createStatus .alarmStatusReadFailed, {}), bus)
  else
    ((reply.createStatus .ok,
      { alarmFlag := control2.at' 0 &&& control2AfBit != 0
        interruptEnabled := control2.at' 0 &&& control2AieBit != 0 }), bus)

/-- `RTC_AlarmSnapshot_t`, as far as it is read here. -/
structure AlarmSnapshot where
  readOk : Bool := false
  alarm : Alarm := {}
  deriving DecidableEq, Repr

/-- `RTC_AlarmEventDiagnostics_t`; whether the event of the active flag was
reported is `State.eventReported`. -/
structure AlarmEventDiagnostics where
  pollCount : UInt32 := 0
  eventCount : UInt32 := 0
  statusReadFailureCount : UInt32 := 0
  txFailureCount : UInt32 := 0
  flagClearCount : UInt32 := 0
  flagClearFailureCount : UInt32 := 0
  lastAlarmFlag : Bool := false
  lastInterruptEnabled : Bool := false
  txAttempted : Bool := false
  lastTxResult : Transport.Result := .ok
  driverResult : Result := .ok
  halStatus : HalStatus := .ok
  halError : UInt32 := 0
  deriving DecidableEq, Repr

structure AlarmService where
  rtc : State := {}
  snapshot : AlarmSnapshot := {}
  lastAlarmStatusPollTime : UInt32 := 0
  diagnostics : AlarmEventDiagnostics := {}
  runtimeFailureActive : Bool := false
  runtimeFailureStage : UInt32 := alarmLogStageStatusRead
  deriving DecidableEq, Repr

/-- What a poll comes to. -/
structure AlarmOutcome where
  service : AlarmService
  /-- What was read of the chip. -/
  status : Option AlarmStatus := none
  /-- The event that was handed to the transport. -/
  event : Option Bytes := none
  accepted : Bool := false
  /-- How the clear of the flag went. -/
  clear : Option OperationStatus := none
  logged : List Log.Entry := []
  deriving DecidableEq, Repr

/-- `CAN_Transport_Result_t` -/
def txResultValue : Transport.Result → UInt32
  | .ok => 0
  | .queued => 1
  | .notInitialized => 2
  | .invalidId => 4
  | .queueFull => 5
  | .halError => 6

namespace AlarmService

/-- `RTC_LogAlarmRuntimeFailure` -/
def logAlarmRuntimeFailure (service : AlarmService) (stage result : UInt32) (halStatus : HalStatus)
    (halError : UInt32) : AlarmService × List Log.Entry :=
  if service.runtimeFailureActive = false ∨ service.runtimeFailureStage ≠ stage then
    ({ service with runtimeFailureActive := true, runtimeFailureStage := stage },
      [logAlarmFailure severityFault stage result halStatus halError])
  else (service, [])

/-- `RTC_ClearAlarmRuntimeFailure` -/
def clearAlarmRuntimeFailure (service : AlarmService) (stage : UInt32) : AlarmService :=
  if service.runtimeFailureActive = true ∧ service.runtimeFailureStage = stage then
    { service with runtimeFailureActive := false }
  else service

/-- `RTC_AlarmHasEnabledComparison` -/
def alarmHasEnabledComparison (service : AlarmService) : Bool :=
  let alarm := service.snapshot.alarm
  if service.snapshot.readOk = false ∨ alarm.configurationValid = false then false
  else
    alarm.second.enabled || alarm.minute.enabled || alarm.hour.enabled || alarm.day.enabled ||
      alarm.weekday.enabled

/-- The payload of `RTC_SendAlarmEvent`. -/
def alarmEvent (service : AlarmService) (status : AlarmStatus) : Bytes :=
  let clock := service.rtc.clock
  [rtcAlarmEventTriggered,
    (if status.alarmFlag then rtcAlarmEventAf else 0) |||
      (if status.interruptEnabled then rtcAlarmEventAie else 0) |||
      (if service.snapshot.alarm.configurationValid then rtcAlarmEventConfigOk else 0),
    clock.hour, clock.minute, clock.second, clock.day, clock.month, clock.year]

/-- The entry of `RTC_LogAlarmTriggered`. -/
def logAlarmTriggered (service : AlarmService) (status : AlarmStatus) : Log.Entry :=
  let clock := service.rtc.clock
  let flags : UInt32 :=
    (if status.alarmFlag then (1 : UInt32) <<< 0 else 0) |||
      (if status.interruptEnabled then (1 : UInt32) <<< 1 else 0) |||
      (if service.snapshot.alarm.configurationValid then (1 : UInt32) <<< 2 else 0)
  { source := sourceAlarm
    severity := severityInfo
    eventCode := eventAlarmTriggered
    rtcEpochS := 0
    data0 := clock.year.toUInt32 <<< 24 ||| clock.month.toUInt32 <<< 16 |||
      clock.day.toUInt32 <<< 8 ||| flags
    data1 := clock.hour.toUInt32 <<< 16 ||| clock.minute.toUInt32 <<< 8 |||
      clock.second.toUInt32 }

/-- What the driver reports is noted. -/
def driverReported (service : AlarmService) (status : OperationStatus) (bus : Bus) :
    AlarmService :=
  { service with
    rtc := { service.rtc with bus }
    diagnostics := { service.diagnostics with
      driverResult := status.result
      halStatus := status.halStatus
      halError := status.halError } }

/-- The last part of a poll: the flag is cleared. -/
def clearReportedFlag (service : AlarmService) : AlarmOutcome :=
  let (status, bus) := service.rtc.bus.clearAlarmFlag
  let service := service.driverReported status bus
  if status.result ≠ .ok then
    let service := { service with
      diagnostics.flagClearFailureCount := service.diagnostics.flagClearFailureCount + 1 }
    let (service, logged) := service.logAlarmRuntimeFailure alarmLogStageEventFlagClear
      status.result.value status.halStatus status.halError
    { service, clear := some status, logged }
  else
    let service := service.clearAlarmRuntimeFailure alarmLogStageEventFlagClear
    { service := { service with
        rtc.eventReported := false
        diagnostics.flagClearCount := service.diagnostics.flagClearCount + 1
        diagnostics.lastAlarmFlag := false }
      clear := some status }

/-- The middle part: a flag without an event gets one. -/
def reportAlarm (service : AlarmService) (status : AlarmStatus) (txResult : Transport.Result) :
    AlarmOutcome :=
  let event := service.alarmEvent status
  let service := { service with
    diagnostics.txAttempted := true
    diagnostics.lastTxResult := txResult }
  if txResult ≠ .ok ∧ txResult ≠ .queued then
    let service := { service with
      diagnostics.txFailureCount := service.diagnostics.txFailureCount + 1 }
    let (service, logged) := service.logAlarmRuntimeFailure alarmLogStageEventTx
      (txResultValue txResult) .error 0
    { service, event := some event, logged }
  else
    let service := service.clearAlarmRuntimeFailure alarmLogStageEventTx
    let service := { service with
      rtc.eventReported := true
      diagnostics.eventCount := service.diagnostics.eventCount + 1 }
    let outcome := service.clearReportedFlag
    { outcome with
      event := some event
      accepted := true
      logged := service.logAlarmTriggered status :: outcome.logged }

/-- What a poll does once the status is read. -/
def alarmStatusRead (service : AlarmService) (status : AlarmStatus) (txResult : Transport.Result) :
    AlarmOutcome :=
  let service := service.clearAlarmRuntimeFailure alarmLogStageStatusRead
  let service := { service with
    diagnostics.lastAlarmFlag := status.alarmFlag
    diagnostics.lastInterruptEnabled := status.interruptEnabled }
  if status.alarmFlag = false then
    { service := { service with rtc.eventReported := false, runtimeFailureActive := false } }
  else if service.rtc.eventReported = false then service.reportAlarm status txResult
  else service.clearReportedFlag

/-- `RTC_ProcessAlarmEvent`; what the transport would answer is given. -/
def processAlarmEvent (service : AlarmService) (now : UInt32) (txResult : Transport.Result) :
    AlarmOutcome :=
  if service.rtc.clock.ready = false ∨ service.alarmHasEnabledComparison = false ∨
      now - service.lastAlarmStatusPollTime < alarmStatusPollPeriodMs then
    { service }
  else
    let service := { service with
      lastAlarmStatusPollTime := now
      diagnostics.pollCount := service.diagnostics.pollCount + 1 }
    let ((status, alarmStatus), bus) := service.rtc.bus.readAlarmStatus
    let service := service.driverReported status bus
    if status.result ≠ .ok then
      let service := { service with
        diagnostics.statusReadFailureCount := service.diagnostics.statusReadFailureCount + 1 }
      let (service, logged) := service.logAlarmRuntimeFailure alarmLogStageStatusRead
        status.result.value status.halStatus status.halError
      { service, logged }
    else
      { service.alarmStatusRead alarmStatus txResult with status := some alarmStatus }

end AlarmService

/-! ## The flag -/

namespace Bus

variable {bus : Bus} {config : AlarmConfig}

/-- The alarm flag is set. -/
def alarmFlag (bus : Bus) : Bool := bus.register regControl2 &&& control2AfBit != 0

/-- The device sets its alarm flag. -/
def raiseAlarm (bus : Bus) : Bus :=
  { bus with
    registers := bus.registers.set regControl2 (bus.register regControl2 ||| control2AfBit) }

theorem raiseAlarm_flag (hwhole : bus.Whole) :
    bus.raiseAlarm.Whole ∧ bus.raiseAlarm.alarmFlag = true := by
  have hlength : bus.registers.length = 0x37 := hwhole
  have hset : bus.raiseAlarm.register regControl2 = bus.register regControl2 ||| control2AfBit := by
    simp [register, raiseAlarm, Bytes.at', regControl2, hlength]
  have hbit : ∀ byte : UInt8, ((byte ||| control2AfBit) &&& control2AfBit != 0) = true :=
    forall_byte (by decide +kernel)
  constructor
  · change (bus.registers.set _ _).length = 0x37
    rw [List.length_set, hlength]
  · unfold alarmFlag
    rw [hset]
    exact hbit _

theorem readAlarmStatus_spec (bus : Bus) :
    bus.readAlarmStatus.2 = (bus.read regControl2 1).2 ∧
      (bus.readAlarmStatus.1.1.result = .ok →
        bus.readAlarmStatus.1.2.alarmFlag = bus.alarmFlag) := by
  have hbyte : Bytes.at' ((bus.registers.drop regControl2).take 1) 0 = bus.register regControl2 :=
    at'_slice (by omega)
  unfold readAlarmStatus
  dsimp only
  split
  · exact ⟨rfl, nofun⟩
  · refine ⟨rfl, fun _ => ?_⟩
    unfold alarmFlag
    rw [← hbyte]
    rfl

theorem control2_fits (byte : UInt8) : regControl2 + [byte].length ≤ 0x37 := by
  show 1 + 1 ≤ 0x37
  omega

/-- Of a byte that is written, it or nothing arrives. -/
theorem register_write_byte (hwhole : bus.Whole) (byte : UInt8) :
    (bus.write regControl2 [byte]).register regControl2 = byte ∨
      (bus.write regControl2 [byte]).register regControl2 = bus.register regControl2 := by
  have harrives : bus.reply.arrives [byte] = [byte] ∨ bus.reply.arrives [byte] = [] := by
    unfold Reply.arrives
    split
    · exact .inl rfl
    · cases bus.reply.arrived with
      | zero => exact .inr rfl
      | succ arrived => exact .inl (List.take_of_length_le (Nat.succ_le_succ (Nat.zero_le _)))
  rw [register_write hwhole (control2_fits byte)]
  rcases harrives with hall | hnone
  · rw [hall]
    exact .inl rfl
  · rw [hnone]
    exact .inr rfl

/-- **A clear** that succeeds clears the flag; one that fails may have
cleared it, and never sets it. -/
theorem clearAlarmFlag_flag (hwhole : bus.Whole) :
    bus.clearAlarmFlag.2.Whole ∧
      (bus.clearAlarmFlag.1.result = .ok → bus.clearAlarmFlag.2.alarmFlag = false) ∧
      (bus.alarmFlag = false → bus.clearAlarmFlag.2.alarmFlag = false) := by
  have hread : (bus.read regControl2 1).2.Whole := hwhole
  unfold clearAlarmFlag
  dsimp only
  split
  · exact ⟨hread, nofun, id⟩
  generalize hbyte : control2MsfBit ||| control2WdtfBit |||
    (Bytes.at' (bus.read regControl2 1).1 0 &&& control2AieBit) = byte
  have hclear : (byte &&& control2AfBit != 0) = false := by
    have hall : ∀ control2 : UInt8, ((control2MsfBit ||| control2WdtfBit |||
        (control2 &&& control2AieBit)) &&& control2AfBit != 0) = false :=
      forall_byte (by decide +kernel)
    rw [← hbyte]
    exact hall _
  have hwritten := whole_write hread (control2_fits byte)
  split
  next hfailed =>
    refine ⟨hwritten, nofun, fun hflag => ?_⟩
    unfold alarmFlag at hflag ⊢
    rcases register_write_byte hread byte with harrived | hlost
    · rw [harrived]
      exact hclear
    · rw [hlost]
      exact hflag
  next hok =>
    have hset : ((bus.read regControl2 1).2.write regControl2 [byte]).alarmFlag = false := by
      unfold alarmFlag
      rw [register_write_of_ok hread (control2_fits byte) (not_not.1 hok)
        ⟨le_rfl, Nat.lt_succ_self _⟩]
      exact hclear
    exact ⟨hwritten, fun _ => hset, fun _ => hset⟩

/-- The write of an alarm leaves the flag. -/
theorem writeAlarm_flag (hwhole : bus.Whole) :
    (bus.writeAlarm config).2.Whole ∧ (bus.writeAlarm config).2.alarmFlag = bus.alarmFlag := by
  have hread : (bus.read regControl1 1).2.Whole := hwhole
  unfold writeAlarm
  split
  · exact ⟨hwhole, rfl⟩
  dsimp only
  split
  · exact ⟨hread, rfl⟩
  generalize (Bytes.at' (bus.read regControl1 1).1 0 &&& control1Hour12Bit != 0) = hourMode12
  have hfits := alarmData_fits config hourMode12
  have hbefore : regControl2 < regSecondAlarm := by decide
  have hsame : ((bus.read regControl1 1).2.write regSecondAlarm
      (config.alarmData hourMode12)).alarmFlag = bus.alarmFlag := by
    unfold alarmFlag
    rw [register_write_of_outside hread hfits (.inl hbefore)]
    rfl
  split <;> exact ⟨whole_write hread hfits, hsame⟩

end Bus

end Rtc

end CanGui
