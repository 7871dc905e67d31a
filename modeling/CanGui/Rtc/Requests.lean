import CanGui.Log.Ring
import CanGui.Rtc.Driver
/-!
# RTC service — what the GUI asks of it

The service takes a new date and time or a new alarm when it is idle and
the driver's transfers succeed. A request that is declined leaves an entry
in the log.
-/

namespace CanGui

namespace Rtc

def writeVerifyDelayMs : UInt32 := 20
def alarmVerifyDelayMs : UInt32 := 1

/-- `PCA2131_RTC_t` -/
structure Clock where
  ready : Bool := false
  calendarValid : Bool := false
  hundredth : UInt8 := 0
  second : UInt8 := 0
  minute : UInt8 := 0
  hour : UInt8 := 0
  day : UInt8 := 0
  weekday : UInt8 := 0
  month : UInt8 := 0
  year : UInt8 := 0
  osf : Bool := false
  lastResult : Result := .ok
  lastStatus : HalStatus := .ok
  lastError : UInt32 := 0
  deriving DecidableEq, Repr

inductive InitState where
  | notStarted
  | waitSettle
  | complete
  deriving DecidableEq, Repr

/-- `RTC_AlarmWriteResult_t` -/
inductive AlarmWriteResult where
  | notAttempted
  | pending
  | verified
  | rejectedBusy
  | rejectedNotReady
  | rejectedInvalidConfig
  | flagClearFailed
  | driverFailed
  | readbackFailed
  | verifyMismatch
  deriving DecidableEq, Repr

def AlarmWriteResult.value : AlarmWriteResult → UInt32
  | notAttempted => 0
  | pending => 1
  | verified => 2
  | rejectedBusy => 3
  | rejectedNotReady => 4
  | rejectedInvalidConfig => 5
  | flagClearFailed => 6
  | driverFailed => 7
  | readbackFailed => 8
  | verifyMismatch => 9

/-- `RTC_AlarmWriteStatus_t` -/
structure AlarmWriteStatus where
  result : AlarmWriteResult := .notAttempted
  requestCount : UInt32 := 0
  verifiedCount : UInt32 := 0
  failureCount : UInt32 := 0
  completionTickMs : UInt32 := 0
  driverResult : Result := .ok
  halStatus : HalStatus := .ok
  halError : UInt32 := 0
  requested : AlarmConfig := {}
  deriving DecidableEq, Repr

structure State where
  peripheralReady : Bool := false
  initState : InitState := .notStarted
  clock : Clock := {}
  bus : Bus := {}
  /-- A write waits to be read back. -/
  writePending : Bool := false
  writeRequested : DateTime := ⟨0, 0, 0, 0, 0, 0, 0, 0⟩
  writeRequestTick : UInt32 := 0
  writeVerifyDeadline : UInt32 := 0
  /-- An alarm waits to be read back. -/
  alarmWritePending : Bool := false
  alarmWriteStatus : AlarmWriteStatus := {}
  alarmVerifyDeadline : UInt32 := 0
  alarmReadPending : Bool := false
  eventReported : Bool := false
  deriving DecidableEq, Repr

/-! ## Entries of the log -/

def sourceRtc : UInt32 := 2
def sourceAlarm : UInt32 := 3
def severityWarning : UInt32 := 1
def severityFault : UInt32 := 2
def eventRtcWriteFailed : UInt32 := 0x0204
def eventAlarmFailed : UInt32 := 0x0302

/-- `RTC_PackFailureDetail` -/
def packFailureDetail (stage result : UInt32) (halStatus : HalStatus) : UInt32 :=
  stage <<< 24 ||| (result &&& 0xFFFF) <<< 8 ||| (halStatus.value &&& 0xFF)

/-- The entry of `RTC_LogWriteFailure`. -/
def logWriteFailure (stage : UInt32) (result : Result) (halStatus : HalStatus) (halError : UInt32) :
    Log.Entry where
  source := sourceRtc
  severity := severityFault
  eventCode := eventRtcWriteFailed
  rtcEpochS := 0
  data0 := packFailureDetail stage result.value halStatus
  data1 := halError

/-- The entry of `RTC_LogAlarmFailure`. -/
def logAlarmFailure (severity stage result : UInt32) (halStatus : HalStatus) (halError : UInt32) :
    Log.Entry where
  source := sourceAlarm
  severity := severity
  eventCode := eventAlarmFailed
  rtcEpochS := 0
  data0 := packFailureDetail stage result halStatus
  data1 := halError

/-- What a request comes to: whether it is accepted, the service, and what
is logged. -/
structure Outcome where
  accepted : Bool
  state : State
  logged : List Log.Entry := []
  deriving DecidableEq, Repr

namespace State

/-! ## Date and time -/

/-- `PCA2131_ReportWriteFailure` -/
def reportWriteFailure (rtc : State) (status : OperationStatus) : State :=
  let ready := if status.result = .invalidDateTime then rtc.clock.ready else false
  let (lastStatus, lastError) := match status.recovery with
    | some reply =>
      if reply.status ≠ .ok then (reply.status, reply.error)
      else (status.halStatus, status.halError)
    | none => (status.halStatus, status.halError)
  { rtc with
    clock := { rtc.clock with
      ready := ready
      lastResult := status.result
      lastStatus := lastStatus
      lastError := lastError } }

/-- What a write that succeeded leaves behind. -/
def dateTimeWritten (rtc : State) (dateTime : DateTime) (status : OperationStatus) (tick : UInt32) :
    State :=
  { rtc with
    clock := {
      ready := true
      calendarValid := true
      hundredth := dateTime.hundredth
      second := dateTime.second
      minute := dateTime.minute
      hour := dateTime.hour
      day := dateTime.day
      weekday := dateTime.weekday
      month := dateTime.month
      year := dateTime.year
      osf := false
      lastResult := status.result
      lastStatus := status.halStatus
      lastError := status.halError }
    writeRequested := dateTime
    writeRequestTick := tick
    writeVerifyDeadline := tick + writeVerifyDelayMs
    writePending := true }

/-- `PCA2131_SetDateTime` -/
def setDateTime (rtc : State) (dateTime : DateTime) (tick : UInt32) : Outcome :=
  if rtc.peripheralReady = false then { accepted := false, state := rtc }
  else if rtc.initState ≠ .complete ∨ rtc.writePending ∨ rtc.alarmWritePending then
    { accepted := false, state := rtc, logged := [logWriteFailure 1 .ok .busy 0] }
  else
    let (status, bus) := rtc.bus.writeDateTime dateTime
    let rtc := { rtc with bus := bus }
    if status.result ≠ .ok then
      let rtc := rtc.reportWriteFailure status
      { accepted := false
        state := rtc
        logged := [logWriteFailure 2 status.result rtc.clock.lastStatus rtc.clock.lastError] }
    else { accepted := true, state := rtc.dateTimeWritten dateTime status tick }

/-- The date and time `PCA2131_SetTime` writes: the date is kept. -/
def timeOfDay (rtc : State) (hour minute second : UInt8) : DateTime :=
  ⟨0, second, minute, hour, rtc.clock.day, rtc.clock.weekday, rtc.clock.month, rtc.clock.year⟩

/-- `PCA2131_SetTime` -/
def setTime (rtc : State) (hour minute second : UInt8) (tick : UInt32) : Outcome :=
  rtc.setDateTime (rtc.timeOfDay hour minute second) tick

/-! ## The alarm -/

/-- The service is idle. -/
def idle (rtc : State) : Bool :=
  rtc.initState == .complete && !rtc.writePending && !rtc.alarmWritePending

def alarmRequested (rtc : State) : State :=
  { rtc with
    alarmWriteStatus := { rtc.alarmWriteStatus with
      requestCount := rtc.alarmWriteStatus.requestCount + 1 } }

/-- A request is turned down before the driver is called. -/
def alarmRejected (rtc : State) (result : AlarmWriteResult) (tick : UInt32) : State :=
  { rtc with
    alarmWriteStatus := { rtc.alarmWriteStatus with
      result := result
      completionTickMs := tick } }

/-- What the driver reports of the alarm is noted. -/
def alarmReported (rtc : State) (status : OperationStatus) : State :=
  { rtc with
    alarmWriteStatus := { rtc.alarmWriteStatus with
      driverResult := status.result
      halStatus := status.halStatus
      halError := status.halError } }

/-- The driver failed. -/
def alarmFailed (rtc : State) (result : AlarmWriteResult) (tick : UInt32) : State :=
  { rtc with
    alarmWriteStatus := { rtc.alarmWriteStatus with
      result := result
      failureCount := rtc.alarmWriteStatus.failureCount + 1
      completionTickMs := tick } }

/-- The alarm is written. -/
def alarmWritten (rtc : State) (tick : UInt32) : State :=
  { rtc with
    alarmWriteStatus := { rtc.alarmWriteStatus with result := .pending }
    alarmReadPending := false
    alarmVerifyDeadline := tick + alarmVerifyDelayMs
    alarmWritePending := true }

/-- The second driver call of `RTC_SetAlarm`. -/
def writeAlarm (rtc : State) (config : AlarmConfig) (tick : UInt32) : Outcome :=
  let rtc := { rtc with
    eventReported := false
    alarmWriteStatus := { rtc.alarmWriteStatus with requested := config } }
  let (status, bus) := rtc.bus.writeAlarm config
  let rtc := { rtc with bus := bus }.alarmReported status
  if status.result ≠ .ok then
    { accepted := false
      state := rtc.alarmFailed .driverFailed tick
      logged := [logAlarmFailure severityFault 5 status.result.value status.halStatus
        status.halError] }
  else { accepted := true, state := rtc.alarmWritten tick }

/-- `RTC_SetAlarm` -/
def setAlarm (rtc : State) (config : AlarmConfig) (tick : UInt32) : Outcome :=
  let rtc := rtc.alarmRequested
  if rtc.idle = false then
    { accepted := false
      state := rtc.alarmRejected .rejectedBusy tick
      logged := [logAlarmFailure severityWarning 1 AlarmWriteResult.rejectedBusy.value .busy 0] }
  else if rtc.clock.ready = false then
    { accepted := false
      state := rtc.alarmRejected .rejectedNotReady tick
      logged := [logAlarmFailure severityWarning 2 AlarmWriteResult.rejectedNotReady.value
        rtc.clock.lastStatus rtc.clock.lastError] }
  else if config.isValid = false then
    { accepted := false
      state := rtc.alarmRejected .rejectedInvalidConfig tick
      logged := [logAlarmFailure severityWarning 3 AlarmWriteResult.rejectedInvalidConfig.value
        .error 0] }
  else
    let (status, bus) := rtc.bus.clearAlarmFlag
    let rtc := { rtc with bus := bus }.alarmReported status
    if status.result ≠ .ok then
      { accepted := false
        state := rtc.alarmFailed .flagClearFailed tick
        logged := [logAlarmFailure severityFault 4 status.result.value status.halStatus
          status.halError] }
    else rtc.writeAlarm config tick

/-! ## When a request is accepted -/

variable {rtc : State} {dateTime : DateTime} {config : AlarmConfig} {tick : UInt32}

/-- The conditions on which a date and time is taken. -/
def TakesDateTime (rtc : State) (dateTime : DateTime) : Prop :=
  rtc.peripheralReady = true ∧ rtc.idle = true ∧ dateTime.isValid = true ∧
    Bus.Succeeds 5 rtc.bus.replies

instance (rtc : State) (dateTime : DateTime) : Decidable (rtc.TakesDateTime dateTime) :=
  inferInstanceAs (Decidable (_ ∧ _ ∧ _ ∧ _))

theorem idle_eq_true : rtc.idle = true ↔
    ¬(rtc.initState ≠ .complete ∨ rtc.writePending = true ∨ rtc.alarmWritePending = true) := by
  unfold idle
  cases rtc.initState <;> cases rtc.writePending <;> cases rtc.alarmWritePending <;> decide

/-- **A date and time is accepted exactly when the service is idle and
each transfer succeeds.** -/
theorem setDateTime_accepted_iff :
    (rtc.setDateTime dateTime tick).accepted = true ↔ rtc.TakesDateTime dateTime := by
  have hdriver : (rtc.bus.writeDateTime dateTime).1.result = .ok ↔ _ := Bus.writeDateTime_ok_iff
  unfold setDateTime TakesDateTime
  rw [idle_eq_true]
  split
  · next hnot => exact ⟨nofun, fun h => absurd h.1 (by simp [hnot])⟩
  · next hready =>
    rw [and_iff_right (eq_true_of_ne_false hready)]
    split
    · next hbusy => exact ⟨nofun, fun h => absurd hbusy h.1⟩
    · next hidle =>
      rw [and_iff_right hidle, ← hdriver]
      dsimp only
      split
      · next hfailed => exact ⟨nofun, fun h => absurd h hfailed⟩
      · next hok => exact ⟨fun _ => not_not.1 hok, fun _ => rfl⟩

/-- The conditions on which an alarm is taken. -/
def TakesAlarm (rtc : State) (config : AlarmConfig) : Prop :=
  rtc.idle = true ∧ rtc.clock.ready = true ∧ config.isValid = true ∧
    Bus.Succeeds 4 rtc.bus.replies

instance (rtc : State) (config : AlarmConfig) : Decidable (rtc.TakesAlarm config) :=
  inferInstanceAs (Decidable (_ ∧ _ ∧ _ ∧ _))

/-- **An alarm is accepted exactly when the service is idle, the clock is
ready and each transfer succeeds.** -/
theorem setAlarm_accepted_iff :
    (rtc.setAlarm config tick).accepted = true ↔ rtc.TakesAlarm config := by
  have hclear : rtc.bus.clearAlarmFlag.1.result = .ok ↔ _ := Bus.clearAlarmFlag_ok_iff
  have hwrite : (rtc.bus.clearAlarmFlag.2.writeAlarm config).1.result = .ok ↔ _ :=
    Bus.writeAlarm_ok_iff
  unfold setAlarm TakesAlarm
  dsimp only
  split
  · next hbusy => exact ⟨nofun, fun h => absurd h.1 (ne_true_of_eq_false hbusy)⟩
  · next hidle =>
    have hidle : rtc.idle = true := eq_true_of_ne_false hidle
    rw [and_iff_right hidle]
    split
    · next hnot => exact ⟨nofun, fun h => absurd h.1 (ne_true_of_eq_false hnot)⟩
    · next hready =>
      have hready : rtc.clock.ready = true := eq_true_of_ne_false hready
      rw [and_iff_right hready]
      split
      · next hinvalid => exact ⟨nofun, fun h => absurd h.1 (ne_true_of_eq_false hinvalid)⟩
      · next hvalid =>
        have hvalid : config.isValid = true := eq_true_of_ne_false hvalid
        rw [and_iff_right hvalid]
        split
        · next hfailed =>
          refine ⟨nofun, fun h => absurd (hclear.2 ?_) hfailed⟩
          exact ⟨h.1, h.2.1, trivial⟩
        · next hcleared =>
          have hcleared : rtc.bus.clearAlarmFlag.1.result = .ok := not_not.1 hcleared
          have hfirst := hclear.1 hcleared
          rw [Bus.clearAlarmFlag_replies hcleared, and_iff_right hvalid] at hwrite
          have hsplit : Bus.Succeeds 4 rtc.bus.replies ↔
              Bus.Succeeds 2 rtc.bus.replies.tail.tail :=
            ⟨fun h => h.2.2, fun h => ⟨hfirst.1, hfirst.2.1, h⟩⟩
          rw [hsplit, ← hwrite]
          unfold writeAlarm
          dsimp only
          split
          · next hfailed => exact ⟨nofun, fun h => absurd h hfailed⟩
          · next hok => exact ⟨fun _ => not_not.1 hok, fun _ => rfl⟩

end State

end Rtc

end CanGui
