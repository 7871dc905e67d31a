import CanGui.Rtc.Service
/-!
# RTC service — what a call does

A call has one of a few effects on what is pending and on whether the chip
counts as in reach. The frames and the entries that it leaves behind say
which.
-/

namespace CanGui

namespace Rtc

/-! ## What a frame tells of the link -/

/-- What a status code tells of the link, if anything. -/
def StatusCode.link : StatusCode → Option Bool
  | initOk | writeVerifyOk | reconnected | alarmWriteVerifyOk => some true
  | initFailed | readFailed | controlReadFailed | stopWriteFailed | cprWriteFailed
  | calendarWriteFailed | startWriteFailed | recoveryFailed => some false
  | invalidDateTime | busy | alarmNotReady | invalidAlarmConfig | alarmWriteFailed
  | alarmReadbackFailed | alarmVerifyMismatch | alarmFlagClearFailed | writeVerifyMismatch => none

def Frame.link : Frame → Option Bool
  | status code _ _ => code.link
  | time clock => some clock.ready
  | alarmEvent _ => none

/-- What the last of the frames that tell of the link tells. -/
def told (frames : List Frame) : Option Bool :=
  frames.foldl (fun link frame => frame.link <|> link) none

@[simp] theorem told_nil : told [] = none := rfl

theorem told_concat (frames : List Frame) (frame : Frame) :
    told (frames ++ [frame]) = (frame.link <|> told frames) :=
  List.foldl_concat ..

/-! ## What a call does -/

/-- What the requests and the link hang on. -/
structure Phase where
  peripheralReady : Bool
  initialized : Bool
  ready : Bool
  writePending : Bool
  alarmWritePending : Bool
  deriving DecidableEq, Repr

/-- What is counted of the alarm's requests. -/
structure AlarmCounts where
  requests : UInt32
  verified : UInt32
  failures : UInt32
  deriving DecidableEq, Repr

def State.phase (rtc : State) : Phase where
  peripheralReady := rtc.peripheralReady
  initialized := rtc.initState == .complete
  ready := rtc.clock.ready
  writePending := rtc.writePending
  alarmWritePending := rtc.alarmWritePending

def State.alarmCounts (rtc : State) : AlarmCounts where
  requests := rtc.alarmWriteStatus.requestCount
  verified := rtc.alarmWriteStatus.verifiedCount
  failures := rtc.alarmWriteStatus.failureCount

/-- An entry of the log that says what became of a date and time that was
written. -/
def settlesWrite (entry : Log.Entry) : Bool :=
  entry.eventCode == eventRtcWriteOk ||
    (entry.eventCode == eventRtcWriteFailed &&
      (entry.data0 >>> 24 == writeLogStageReadback ||
        entry.data0 >>> 24 == writeLogStageVerifyMismatch))

/-- An entry of the log that says what became of an alarm that was
written. -/
def settlesAlarm (entry : Log.Entry) : Bool :=
  entry.eventCode == eventAlarmConfigured ||
    (entry.eventCode == eventAlarmFailed &&
      (entry.data0 >>> 24 == alarmLogStageReadback ||
        entry.data0 >>> 24 == alarmLogStageVerifyMismatch))

/-- What a call does to the phase and the counts, what it tells of the
link, and what it accepts and settles. -/
structure Effect where
  phase : Phase
  counts : AlarmCounts
  told : Option Bool := none
  wroteDateTime : Bool := false
  askedAlarm : Bool := false
  wroteAlarm : Bool := false
  settledWrites : Nat := 0
  settledAlarms : Nat := 0
  deriving DecidableEq, Repr

def Turn.effect (turn : Turn) : Effect where
  phase := turn.service.rtc.phase
  counts := turn.service.rtc.alarmCounts
  told := told turn.frames
  wroteDateTime := turn.wroteDateTime
  askedAlarm := turn.askedAlarm
  wroteAlarm := turn.wroteAlarm
  settledWrites := turn.logged.countP settlesWrite
  settledAlarms := turn.logged.countP settlesAlarm

/-- Nothing is pending. -/
def Phase.Idle (phase : Phase) : Prop :=
  phase.writePending = false ∧ phase.alarmWritePending = false

/-- The effects that a call may have. -/
inductive Effect.Of (phase : Phase) (counts : AlarmCounts) : Effect → Prop
  | quiet : Of phase counts { phase, counts }
  /-- A date and time is declined for want of a chip. -/
  | absent (h : phase.peripheralReady = false) : Of phase counts { phase, counts, told := some false }
  | published (h : phase.writePending = false) (hready : phase.ready = true) :
      Of phase counts { phase, counts, told := some true }
  /-- The chip answers, or it does not. -/
  | linked (ready : Bool) (hperipheral : phase.peripheralReady = true) (h : phase.Idle) :
      Of phase counts {
        phase := { phase with initialized := true, ready }
        counts
        told := some ready }
  | wroteDateTime (hperipheral : phase.peripheralReady = true)
      (hinitialized : phase.initialized = true) (h : phase.Idle) :
      Of phase counts {
        phase := { phase with ready := true, writePending := true }
        counts
        wroteDateTime := true }
  | settledWrite (ready : Bool) (h : phase.writePending = true) :
      Of phase counts {
        phase := { phase with ready, writePending := false }
        counts
        told := some ready
        settledWrites := 1 }
  | wroteAlarm (hinitialized : phase.initialized = true) (h : phase.Idle)
      (hready : phase.ready = true) :
      Of phase counts {
        phase := { phase with alarmWritePending := true }
        counts := { counts with requests := counts.requests + 1 }
        askedAlarm := true
        wroteAlarm := true }
  | declinedAlarm (failed : Bool) :
      Of phase counts {
        phase
        counts := { counts with
          requests := counts.requests + 1
          failures := if failed then counts.failures + 1 else counts.failures }
        askedAlarm := true }
  | settledAlarm (verified : Bool) (hwrite : phase.writePending = false)
      (h : phase.alarmWritePending = true) :
      Of phase counts {
        phase := { phase with alarmWritePending := false }
        counts := { counts with
          verified := if verified then counts.verified + 1 else counts.verified
          failures := if verified then counts.failures else counts.failures + 1 }
        told := if verified then some true else none
        settledAlarms := 1 }

theorem Turn.effect_of {phase : Phase} {counts : AlarmCounts} {turn : Turn} {effect : Effect}
    (h : effect.Of phase counts) (hphase : turn.service.rtc.phase = effect.phase)
    (hcounts : turn.service.rtc.alarmCounts = effect.counts) (htold : told turn.frames = effect.told)
    (hwrites : turn.logged.countP settlesWrite = effect.settledWrites)
    (halarms : turn.logged.countP settlesAlarm = effect.settledAlarms)
    (hdateTime : turn.wroteDateTime = effect.wroteDateTime := by rfl)
    (hasked : turn.askedAlarm = effect.askedAlarm := by rfl)
    (halarm : turn.wroteAlarm = effect.wroteAlarm := by rfl) : turn.effect.Of phase counts := by
  have heq : turn.effect = effect := by
    unfold Turn.effect
    rw [hphase, hcounts, htold, hdateTime, hasked, halarm, hwrites, halarms]
  exact heq ▸ h

/-- The stage that an entry of a failure names. -/
theorem packFailureDetail_stage {stage : UInt32} (h : stage.toNat < 256) (result : UInt32)
    (halStatus : HalStatus) : packFailureDetail stage result halStatus >>> 24 = stage := by
  have hresult : (result &&& 0xFFFF).toNat < 2 ^ 16 :=
    lt_of_le_of_lt Nat.and_le_right (by decide)
  have hstatus : (halStatus.value &&& 0xFF).toNat < 2 ^ 8 :=
    lt_of_le_of_lt Nat.and_le_right (by decide)
  have hlow : ((result &&& 0xFFFF) <<< 8 ||| (halStatus.value &&& 0xFF)).toNat < 2 ^ 24 := by
    rw [UInt32.toNat_or, UInt32.toNat_shiftLeft]
    simp only [UInt32.reduceToNat, Nat.reduceMod, Nat.shiftLeft_eq]
    exact Nat.or_lt_two_pow (by omega) (by omega)
  rw [← UInt32.toNat_inj, packFailureDetail, UInt32.or_assoc, UInt32.toNat_shiftRight,
    UInt32.toNat_or, UInt32.toNat_shiftLeft]
  simp only [UInt32.reduceToNat, Nat.reduceMod, Nat.shiftRight_eq_div_pow]
  rw [Nat.shiftLeft_eq, Nat.mod_eq_of_lt (by omega), ← Nat.shiftLeft_eq,
    ← Nat.shiftLeft_add_eq_or_of_lt hlow, Nat.shiftLeft_eq]
  omega

theorem settlesWrite_failure {stage : UInt32} (h : stage.toNat < 256) (result : Result)
    (halStatus : HalStatus) (halError : UInt32) :
    settlesWrite (logWriteFailure stage result halStatus halError) =
      (stage == writeLogStageReadback || stage == writeLogStageVerifyMismatch) := by
  unfold settlesWrite logWriteFailure
  dsimp only
  rw [packFailureDetail_stage h]
  rfl

theorem settlesWrite_readback {stage : UInt32} (h : stage.toNat < 256) (service : Service) :
    settlesWrite (service.logWriteFailure stage) =
      (stage == writeLogStageReadback || stage == writeLogStageVerifyMismatch) := by
  unfold settlesWrite Service.logWriteFailure
  dsimp only
  rw [packFailureDetail_stage h]
  rfl

theorem settlesAlarm_failure {stage : UInt32} (h : stage.toNat < 256)
    (severity result : UInt32) (halStatus : HalStatus) (halError : UInt32) :
    settlesAlarm (logAlarmFailure severity stage result halStatus halError) =
      (stage == alarmLogStageReadback || stage == alarmLogStageVerifyMismatch) := by
  unfold settlesAlarm logAlarmFailure
  dsimp only
  rw [packFailureDetail_stage h]
  rfl

/-! ### Requests -/

/-- What a write of the date and time that fails reports. -/
theorem writeDateTime_failed (bus : Bus) (dateTime : DateTime) :
    (bus.writeDateTime dateTime).1.result = .ok ∨
      (bus.writeDateTime dateTime).1.result = .invalidDateTime ∧
        (bus.writeDateTime dateTime).1.recovery = none ∨
      (bus.writeDateTime dateTime).1.result.writeErrorStatusCode.link = some false := by
  unfold Bus.writeDateTime
  split
  · exact .inr (.inl ⟨rfl, rfl⟩)
  dsimp only
  split
  · exact .inr (.inr rfl)
  unfold Bus.stopClock
  dsimp only
  split
  · exact .inr (.inr rfl)
  unfold Bus.clearPrescaler
  dsimp only
  split
  · exact .inr (.inr rfl)
  unfold Bus.writeCalendar
  dsimp only
  split
  · exact .inr (.inr rfl)
  unfold Bus.startClock
  dsimp only
  split
  · exact .inr (.inr rfl)
  · exact .inl rfl

theorem told_writeFailureFrames {status : OperationStatus}
    (h : status.result.writeErrorStatusCode.link = some false) :
    told status.writeFailureFrames = some false := by
  have hfirst : told [.status status.result.writeErrorStatusCode status.halStatus status.halError] =
      some false := by
    change (status.result.writeErrorStatusCode.link <|> none) = some false
    rw [h]
    rfl
  unfold OperationStatus.writeFailureFrames
  split
  · split
    · rfl
    · exact hfirst
  · exact hfirst

section Requests

variable {service : Service} {dateTime : DateTime} {config : AlarmConfig} {tick : UInt32}

theorem reportWriteFailure_phase (rtc : State) (status : OperationStatus) :
    (rtc.reportWriteFailure status).phase = { rtc.phase with
        ready := if status.result = .invalidDateTime then rtc.clock.ready else false } ∧
      (rtc.reportWriteFailure status).alarmCounts = rtc.alarmCounts := by
  unfold State.reportWriteFailure
  cases status.recovery with
  | none => exact ⟨rfl, rfl⟩
  | some reply =>
    dsimp only
    split <;> exact ⟨rfl, rfl⟩

theorem idle_phase (h : service.rtc.idle = true) :
    service.rtc.phase.initialized = true ∧ service.rtc.phase.Idle := by
  unfold State.idle at h
  simp only [Bool.and_eq_true, Bool.not_eq_true'] at h
  exact ⟨h.1.1, h.1.2, h.2⟩

theorem setDateTime_effect (service : Service) (dateTime : DateTime) (tick : UInt32) :
    (service.setDateTime dateTime tick).effect.Of service.rtc.phase service.rtc.alarmCounts := by
  unfold Service.setDateTime State.setDateTime
  dsimp only
  by_cases habsent : service.rtc.peripheralReady = false
  · rw [if_pos habsent, if_pos habsent]
    exact .absent habsent
  rw [if_neg habsent, if_neg habsent]
  have hperipheral : service.rtc.peripheralReady = true := eq_true_of_ne_false habsent
  by_cases hbusy : service.rtc.initState ≠ .complete ∨ service.rtc.writePending ∨
      service.rtc.alarmWritePending
  · rw [if_pos hbusy, if_pos hbusy]
    exact .quiet
  rw [if_neg hbusy, if_neg hbusy]
  have hidle := idle_phase (State.idle_eq_true.2 hbusy)
  by_cases hok : (service.rtc.bus.writeDateTime dateTime).1.result = .ok
  · rw [if_neg (not_not.2 hok), if_neg (not_not.2 hok)]
    exact .wroteDateTime hperipheral hidle.1 hidle.2
  rw [if_pos hok, if_pos hok]
  obtain ⟨hphase, hcounts⟩ := reportWriteFailure_phase
    { service.rtc with bus := (service.rtc.bus.writeDateTime dateTime).2 }
    (service.rtc.bus.writeDateTime dateTime).1
  -- the entry of a write that fails settles nothing
  have hsettled : ∀ halStatus halError, List.countP settlesWrite
      [logWriteFailure 2 (service.rtc.bus.writeDateTime dateTime).1.result halStatus halError] =
        0 := by
    intro halStatus halError
    rw [List.countP_singleton, settlesWrite_failure (by decide)]
    rfl
  rcases (writeDateTime_failed service.rtc.bus dateTime).resolve_left hok with
    ⟨hinvalid, hrecovery⟩ | hlink
  · refine Turn.effect_of .quiet ?_ hcounts ?_ (hsettled _ _) rfl
    · rw [if_pos hinvalid] at hphase
      exact hphase
    · unfold OperationStatus.writeFailureFrames
      dsimp only
      rw [hinvalid, hrecovery]
      rfl
  · have hvalid : (service.rtc.bus.writeDateTime dateTime).1.result ≠ .invalidDateTime := by
      intro hinvalid
      rw [hinvalid] at hlink
      cases hlink
    have hinitialized : service.rtc.phase.initialized = true := hidle.1
    refine Turn.effect_of (.linked false hperipheral hidle.2) ?_ hcounts
      (told_writeFailureFrames hlink) (hsettled _ _) rfl
    rw [if_neg hvalid] at hphase
    refine hphase.trans ?_
    rw [← hinitialized]
    rfl

theorem setAlarm_effect (service : Service) (config : AlarmConfig) (tick : UInt32) :
    (service.setAlarm config tick).effect.Of service.rtc.phase service.rtc.alarmCounts := by
  unfold Service.setAlarm State.setAlarm
  dsimp only
  by_cases hbusy : service.rtc.alarmRequested.idle = false
  · rw [if_pos hbusy]
    exact .declinedAlarm false
  rw [if_neg hbusy]
  have hidle : service.rtc.phase.initialized = true ∧ service.rtc.phase.Idle :=
    idle_phase (eq_true_of_ne_false hbusy)
  by_cases hnot : service.rtc.alarmRequested.clock.ready = false
  · rw [if_pos hnot]
    refine Turn.effect_of (.declinedAlarm false) rfl rfl rfl rfl ?_
    rw [List.countP_singleton, settlesAlarm_failure (by decide)]
    rfl
  rw [if_neg hnot]
  have hready : service.rtc.phase.ready = true := eq_true_of_ne_false hnot
  by_cases hinvalid : config.isValid = false
  · rw [if_pos hinvalid]
    exact .declinedAlarm false
  rw [if_neg hinvalid]
  by_cases hcleared : service.rtc.alarmRequested.bus.clearAlarmFlag.1.result = .ok
  · rw [if_neg (not_not.2 hcleared)]
    unfold State.writeAlarm
    dsimp only
    split
    · refine Turn.effect_of (.declinedAlarm true) rfl rfl rfl rfl ?_
      rw [List.countP_singleton, settlesAlarm_failure (by decide)]
      rfl
    · exact .wroteAlarm hidle.1 hidle.2 hready
  · rw [if_pos hcleared]
    refine Turn.effect_of (.declinedAlarm true) rfl rfl rfl rfl ?_
    rw [List.countP_singleton, settlesAlarm_failure (by decide)]
    rfl

end Requests

/-! ### Turns -/

section Turns

variable {service : Service} {now : UInt32} {txResult : Transport.Result}

/-- A read of the clock says whether the chip answers. -/
theorem updateTime_phase (service : Service) :
    service.updateTime.2.rtc.phase = { service.rtc.phase with ready := service.updateTime.1 } ∧
      service.updateTime.2.rtc.alarmCounts = service.rtc.alarmCounts := by
  unfold Service.updateTime
  dsimp only
  split <;> exact ⟨rfl, rfl⟩

theorem refreshAlarmSnapshot_phase (service : Service) :
    service.refreshAlarmSnapshot.2.rtc.phase = service.rtc.phase ∧
      service.refreshAlarmSnapshot.2.rtc.alarmWriteStatus = service.rtc.alarmWriteStatus := by
  unfold Service.refreshAlarmSnapshot
  split <;> exact ⟨rfl, rfl⟩

theorem processInitialization_effect {turn : Turn}
    (hperipheral : service.rtc.peripheralReady = true) (hidle : service.rtc.phase.Idle)
    (h : service.processInitialization now = some turn) :
    turn.effect.Of service.rtc.phase service.rtc.alarmCounts := by
  unfold Service.processInitialization at h
  dsimp only at h
  split at h
  · cases h
  split at h
  · cases h
    exact .quiet
  split at h
  · cases h
    exact .quiet
  split at h
  · next hready =>
    cases h
    refine Turn.effect_of (.linked true hperipheral hidle) ?_ rfl rfl rfl rfl
    exact congrArg (fun ready => { service.rtc.phase with initialized := true, ready }) hready
  · next hready =>
    cases h
    refine Turn.effect_of (.linked false hperipheral hidle) ?_ rfl rfl rfl rfl
    exact congrArg (fun ready => { service.rtc.phase with initialized := true, ready })
      (eq_false_of_ne_true hready)

theorem processPendingWrite_effect {turn : Turn}
    (h : service.processPendingWrite now = some turn) :
    turn.effect.Of service.rtc.phase service.rtc.alarmCounts := by
  unfold Service.processPendingWrite at h
  dsimp only at h
  split at h
  · cases h
  next hpending =>
  split at h
  · cases h
    exact .quiet
  have hpending : service.rtc.phase.writePending = true := eq_true_of_ne_false hpending
  obtain ⟨hphase, hcounts⟩ :=
    updateTime_phase { service with alarm.rtc.writePending := false }
  -- the frame with the time tells what the read found
  have htold := congrArg (fun phase => some phase.ready) hphase
  have hsettled : ∀ service : Service, ∀ stage ∈ [writeLogStageReadback, writeLogStageVerifyMismatch],
      List.countP settlesWrite [service.logWriteFailure stage] = 1 := by
    intro service stage hstage
    have hsmall : stage.toNat < 256 := by
      rcases List.mem_pair.1 hstage with rfl | rfl <;> decide
    rw [List.countP_singleton, settlesWrite_readback hsmall]
    rcases List.mem_pair.1 hstage with rfl | rfl <;> rfl
  split at h
  · next hfailed =>
    cases h
    exact Turn.effect_of (.settledWrite _ hpending) hphase hcounts htold
      (hsettled _ _ List.mem_cons_self) rfl
  split at h
  · cases h
    exact Turn.effect_of (.settledWrite _ hpending) hphase hcounts htold
      (hsettled _ _ (List.mem_cons_of_mem _ List.mem_cons_self)) rfl
  · cases h
    exact Turn.effect_of (.settledWrite _ hpending) hphase hcounts htold rfl rfl

theorem processPendingAlarmWrite_effect {turn : Turn} (hwrite : service.rtc.writePending = false)
    (h : service.processPendingAlarmWrite now = some turn) :
    turn.effect.Of service.rtc.phase service.rtc.alarmCounts := by
  unfold Service.processPendingAlarmWrite at h
  dsimp only at h
  split at h
  · cases h
  next hpending =>
  split at h
  · cases h
    exact .quiet
  have hpending : service.rtc.phase.alarmWritePending = true := eq_true_of_ne_false hpending
  obtain ⟨hphase, hstatus⟩ :=
    refreshAlarmSnapshot_phase { service with alarm.rtc.alarmWritePending := false }
  have hcounts (verified failures : UInt32 → UInt32) : AlarmCounts.mk
      ({ service with alarm.rtc.alarmWritePending := false }
        : Service).refreshAlarmSnapshot.2.rtc.alarmWriteStatus.requestCount
      (verified ({ service with alarm.rtc.alarmWritePending := false }
        : Service).refreshAlarmSnapshot.2.rtc.alarmWriteStatus.verifiedCount)
      (failures ({ service with alarm.rtc.alarmWritePending := false }
        : Service).refreshAlarmSnapshot.2.rtc.alarmWriteStatus.failureCount) =
      { service.rtc.alarmCounts with
        verified := verified service.rtc.alarmCounts.verified
        failures := failures service.rtc.alarmCounts.failures } := by
    rw [hstatus]
    rfl
  split at h
  · cases h
    refine Turn.effect_of (.settledAlarm false hwrite hpending) hphase (hcounts id (· + 1)) rfl rfl
      ?_
    rw [List.countP_singleton, settlesAlarm_failure (by decide)]
    rfl
  split at h
  · cases h
    refine Turn.effect_of (.settledAlarm false hwrite hpending) hphase (hcounts id (· + 1)) rfl rfl
      ?_
    rw [List.countP_singleton, settlesAlarm_failure (by decide)]
    rfl
  · cases h
    exact Turn.effect_of (.settledAlarm true hwrite hpending) hphase (hcounts (· + 1) id) rfl rfl
      rfl

/-- A poll of the alarm has no part in the phase, and settles nothing. -/
structure AlarmService.Leaves (alarm : AlarmService) (outcome : AlarmOutcome) : Prop where
  phase : outcome.service.rtc.phase = alarm.rtc.phase
  counts : outcome.service.rtc.alarmCounts = alarm.rtc.alarmCounts
  logged : ∀ entry ∈ outcome.logged, settlesWrite entry = false ∧ settlesAlarm entry = false

theorem logAlarmRuntimeFailure_rtc (alarm : AlarmService) {stage : UInt32} (hstage : 7 < stage.toNat)
    (hbyte : stage.toNat < 256) (result : UInt32) (halStatus : HalStatus) (halError : UInt32) :
    (alarm.logAlarmRuntimeFailure stage result halStatus halError).1.rtc = alarm.rtc ∧
      ∀ entry ∈ (alarm.logAlarmRuntimeFailure stage result halStatus halError).2,
        settlesWrite entry = false ∧ settlesAlarm entry = false := by
  unfold AlarmService.logAlarmRuntimeFailure
  split
  · refine ⟨rfl, fun entry hentry => ?_⟩
    rw [List.mem_singleton.1 hentry]
    refine ⟨rfl, (settlesAlarm_failure hbyte ..).trans ?_⟩
    have hreadback : stage ≠ alarmLogStageReadback := fun h => by
      rw [h] at hstage
      exact absurd hstage (by decide)
    have hmismatch : stage ≠ alarmLogStageVerifyMismatch := fun h => by
      rw [h] at hstage
      exact absurd hstage (by decide)
    rw [beq_false_of_ne hreadback, beq_false_of_ne hmismatch]
    rfl
  · exact ⟨rfl, fun entry hentry => absurd hentry List.not_mem_nil⟩

theorem clearAlarmRuntimeFailure_rtc (alarm : AlarmService) (stage : UInt32) :
    (alarm.clearAlarmRuntimeFailure stage).rtc = alarm.rtc := by
  unfold AlarmService.clearAlarmRuntimeFailure
  split <;> rfl

theorem clearReportedFlag_leaves (alarm : AlarmService) : alarm.Leaves alarm.clearReportedFlag := by
  unfold AlarmService.clearReportedFlag
  dsimp only
  split
  · obtain ⟨hrtc, hlogged⟩ := logAlarmRuntimeFailure_rtc _
      (by decide : 7 < alarmLogStageEventFlagClear.toNat) (by decide) _ _ _
    exact ⟨(congrArg State.phase hrtc).trans rfl, (congrArg State.alarmCounts hrtc).trans rfl,
      hlogged⟩
  · have hrtc := clearAlarmRuntimeFailure_rtc
      (alarm.driverReported alarm.rtc.bus.clearAlarmFlag.1 alarm.rtc.bus.clearAlarmFlag.2)
      alarmLogStageEventFlagClear
    exact ⟨(congrArg State.phase hrtc).trans rfl, (congrArg State.alarmCounts hrtc).trans rfl,
      fun entry hentry => absurd hentry List.not_mem_nil⟩

theorem reportAlarm_leaves (alarm : AlarmService) (status : AlarmStatus)
    (txResult : Transport.Result) : alarm.Leaves (alarm.reportAlarm status txResult) := by
  unfold AlarmService.reportAlarm
  dsimp only
  split
  · obtain ⟨hrtc, hlogged⟩ := logAlarmRuntimeFailure_rtc _
      (by decide : 7 < alarmLogStageEventTx.toNat) (by decide) _ _ _
    exact ⟨(congrArg State.phase hrtc).trans rfl, (congrArg State.alarmCounts hrtc).trans rfl,
      hlogged⟩
  · have hrtc := clearAlarmRuntimeFailure_rtc
      { alarm with
        diagnostics := { alarm.diagnostics with txAttempted := true, lastTxResult := txResult } }
      alarmLogStageEventTx
    refine ⟨(clearReportedFlag_leaves _).phase.trans ((congrArg State.phase hrtc).trans rfl),
      (clearReportedFlag_leaves _).counts.trans ((congrArg State.alarmCounts hrtc).trans rfl),
      fun entry hentry => ?_⟩
    rcases List.mem_cons.1 hentry with hevent | hentry
    · rw [hevent]
      exact ⟨rfl, rfl⟩
    · exact (clearReportedFlag_leaves _).logged entry hentry

theorem alarmStatusRead_leaves (alarm : AlarmService) (status : AlarmStatus)
    (txResult : Transport.Result) : alarm.Leaves (alarm.alarmStatusRead status txResult) := by
  unfold AlarmService.alarmStatusRead
  dsimp only
  have hrtc := clearAlarmRuntimeFailure_rtc alarm alarmLogStageStatusRead
  have hphase := (congrArg State.phase hrtc).trans rfl
  have hcounts := (congrArg State.alarmCounts hrtc).trans rfl
  split
  · exact ⟨hphase, hcounts, fun entry hentry => absurd hentry List.not_mem_nil⟩
  split
  · obtain ⟨hreported, hsame, hlogged⟩ := reportAlarm_leaves _ status txResult
    exact ⟨hreported.trans hphase, hsame.trans hcounts, hlogged⟩
  · obtain ⟨hreported, hsame, hlogged⟩ := clearReportedFlag_leaves _
    exact ⟨hreported.trans hphase, hsame.trans hcounts, hlogged⟩

theorem processAlarmEvent_leaves (alarm : AlarmService) (now : UInt32)
    (txResult : Transport.Result) : alarm.Leaves (alarm.processAlarmEvent now txResult) := by
  unfold AlarmService.processAlarmEvent
  dsimp only
  split
  · exact ⟨rfl, rfl, fun entry hentry => absurd hentry List.not_mem_nil⟩
  split
  · obtain ⟨hrtc, hlogged⟩ := logAlarmRuntimeFailure_rtc _
      (by decide : 7 < alarmLogStageStatusRead.toNat) (by decide) _ _ _
    exact ⟨(congrArg State.phase hrtc).trans rfl, (congrArg State.alarmCounts hrtc).trans rfl,
      hlogged⟩
  · obtain ⟨hphase, hcounts, hlogged⟩ := alarmStatusRead_leaves _ _ txResult
    exact ⟨hphase, hcounts, hlogged⟩

/-- The time that is published tells of the link as the service has it. -/
theorem publishTime_spec (service : Service) :
    service.publishTime.1.rtc = service.rtc ∧
      (told service.publishTime.2 = none ∨
        told service.publishTime.2 = some service.rtc.clock.ready) := by
  unfold Service.publishTime
  dsimp only
  split
  · exact ⟨rfl, .inr rfl⟩
  · exact ⟨rfl, .inl rfl⟩

theorem pollTime_effect (hperipheral : service.rtc.peripheralReady = true)
    (hinitialized : service.rtc.phase.initialized = true) (hidle : service.rtc.phase.Idle) :
    (service.pollTime now).effect.Of service.rtc.phase service.rtc.alarmCounts := by
  unfold Service.pollTime
  dsimp only
  split
  · exact .quiet
  obtain ⟨hphase, hcounts⟩ := updateTime_phase { service with lastRtcPollTime := now }
  have hready := congrArg Phase.ready hphase
  -- in the phase only whether the chip answers is new
  have hlinked (ready : Bool) : { service.rtc.phase with ready } =
      { service.rtc.phase with initialized := true, ready } :=
    congrArg (fun initialized => { service.rtc.phase with initialized, ready }) hinitialized
  split
  · next hread =>
    rw [hread] at hphase hready
    split
    · next hwas =>
      have hsame : { service.rtc.phase with ready := true } = service.rtc.phase :=
        congrArg (fun ready => { service.rtc.phase with ready }) hwas.symm
      obtain ⟨hrtc, hnone | hsome⟩ :=
        publishTime_spec ({ service with lastRtcPollTime := now } : Service).updateTime.2
      · exact Turn.effect_of .quiet ((congrArg State.phase hrtc).trans (hphase.trans hsame))
          ((congrArg State.alarmCounts hrtc).trans hcounts) hnone rfl rfl
      · exact Turn.effect_of (.published hidle.1 hwas)
          ((congrArg State.phase hrtc).trans (hphase.trans hsame))
          ((congrArg State.alarmCounts hrtc).trans hcounts) (hsome.trans (congrArg some hready))
          rfl rfl
    · refine Turn.effect_of (.linked true hperipheral hidle) (hphase.trans (hlinked true)) hcounts
        (congrArg some hready) rfl rfl
  · next hread =>
    rw [eq_false_of_ne_true hread] at hphase hready
    split
    · exact Turn.effect_of (.linked false hperipheral hidle) (hphase.trans (hlinked false)) hcounts
        rfl rfl rfl
    · next hwas =>
      have hsame : { service.rtc.phase with ready := false } = service.rtc.phase :=
        congrArg (fun ready => { service.rtc.phase with ready }) (eq_false_of_ne_true hwas).symm
      exact Turn.effect_of .quiet (hphase.trans hsame) hcounts rfl rfl rfl

theorem poll_effect (hperipheral : service.rtc.peripheralReady = true)
    (hinitialized : service.rtc.phase.initialized = true) (hidle : service.rtc.phase.Idle) :
    (service.poll now txResult).effect.Of service.rtc.phase service.rtc.alarmCounts := by
  have hleaves := processAlarmEvent_leaves (service.pollTime now).service.alarm now txResult
  have hnothing (p : Log.Entry → Bool) (h : ∀ entry ∈ ((service.pollTime
      now).service.alarm.processAlarmEvent now txResult).logged, p entry = false) :
      (service.poll now txResult).logged.countP p = (service.pollTime now).logged.countP p := by
    have hzero := List.countP_eq_zero.2 fun entry hentry => ne_true_of_eq_false (h entry hentry)
    exact (List.countP_append ..).trans ((congrArg (_ + ·) hzero).trans (Nat.add_zero _))
  refine Turn.effect_of (@pollTime_effect service now hperipheral hinitialized hidle)
    hleaves.phase hleaves.counts ?_ (hnothing _ fun entry hentry => (hleaves.logged _ hentry).1)
    (hnothing _ fun entry hentry => (hleaves.logged _ hentry).2)
  unfold Service.poll
  dsimp only
  split
  · cases ((service.pollTime now).service.alarm.processAlarmEvent now txResult).event with
    | none => exact congrArg told (List.append_nil _)
    | some event => exact told_concat ..
  · exact congrArg told (List.append_nil _)

theorem idleTurn_effect (hperipheral : service.rtc.peripheralReady = true)
    (hinitialized : service.rtc.phase.initialized = true) (hidle : service.rtc.phase.Idle) :
    (service.idleTurn now txResult).effect.Of service.rtc.phase service.rtc.alarmCounts := by
  unfold Service.idleTurn
  split
  · exact .quiet
  split
  · obtain ⟨hphase, hstatus⟩ :=
      refreshAlarmSnapshot_phase { service with alarm.rtc.alarmReadPending := false }
    refine Turn.effect_of .quiet hphase ?_ rfl rfl rfl
    unfold State.alarmCounts
    rw [hstatus]
    rfl
  · exact poll_effect hperipheral hinitialized hidle

theorem processInitialization_eq_none :
    service.processInitialization now = none ↔ service.rtc.initState = .complete := by
  unfold Service.processInitialization
  dsimp only
  split
  · next hcomplete => exact iff_of_true rfl hcomplete
  next hnot =>
  refine iff_of_false ?_ hnot
  split
  · exact Option.some_ne_none _
  split
  · exact Option.some_ne_none _
  · split <;> exact Option.some_ne_none _

theorem processPendingWrite_eq_none :
    service.processPendingWrite now = none ↔ service.rtc.writePending = false := by
  unfold Service.processPendingWrite
  dsimp only
  split
  · next hidle => exact iff_of_true rfl hidle
  next hnot =>
  refine iff_of_false ?_ hnot
  split
  · exact Option.some_ne_none _
  split
  · exact Option.some_ne_none _
  · split <;> exact Option.some_ne_none _

theorem processPendingAlarmWrite_eq_none :
    service.processPendingAlarmWrite now = none ↔ service.rtc.alarmWritePending = false := by
  unfold Service.processPendingAlarmWrite
  dsimp only
  split
  · next hidle => exact iff_of_true rfl hidle
  next hnot =>
  refine iff_of_false ?_ hnot
  split
  · exact Option.some_ne_none _
  split
  · exact Option.some_ne_none _
  · split <;> exact Option.some_ne_none _

/-- A turn has one of the effects, when nothing is pending before the chip
is initialized. -/
theorem process_effect (now : UInt32) (txResult : Transport.Result)
    (h : service.rtc.phase.initialized = false → service.rtc.phase.Idle) :
    (service.process now txResult).effect.Of service.rtc.phase service.rtc.alarmCounts := by
  unfold Service.process
  by_cases habsent : service.rtc.peripheralReady = false
  · rw [if_pos habsent]
    exact .quiet
  rw [if_neg habsent]
  have hperipheral : service.rtc.peripheralReady = true := eq_true_of_ne_false habsent
  cases hstarting : service.processInitialization now with
  | some turn =>
    have hnot : service.rtc.initState ≠ .complete := fun hcomplete =>
      Option.some_ne_none _ (hstarting.symm.trans (processInitialization_eq_none.2 hcomplete))
    exact processInitialization_effect hperipheral (h (beq_false_of_ne hnot)) hstarting
  | none =>
    have hinitialized : service.rtc.phase.initialized = true :=
      beq_iff_eq.2 (processInitialization_eq_none.1 hstarting)
    cases hwrite : service.processPendingWrite now with
    | some turn => exact processPendingWrite_effect hwrite
    | none =>
      have hidleWrite := processPendingWrite_eq_none.1 hwrite
      cases halarm : service.processPendingAlarmWrite now with
      | some turn => exact processPendingAlarmWrite_effect hidleWrite halarm
      | none =>
        have hidleAlarm := processPendingAlarmWrite_eq_none.1 halarm
        exact idleTurn_effect hperipheral hinitialized ⟨hidleWrite, hidleAlarm⟩

end Turns

/-- A call has one of the effects. -/
theorem call_effect (service : Service) (happening : Happening)
    (h : service.rtc.phase.initialized = false → service.rtc.phase.Idle) :
    (service.call happening).effect.Of service.rtc.phase service.rtc.alarmCounts := by
  cases happening with
  | turn bus now txResult => exact @process_effect (service.meet bus) now txResult h
  | setDateTime bus dateTime tick => exact setDateTime_effect (service.meet bus) dateTime tick
  | setTime bus hour minute second tick => exact setDateTime_effect (service.meet bus) _ tick
  | setAlarm bus config tick => exact setAlarm_effect (service.meet bus) config tick

end Rtc

end CanGui
