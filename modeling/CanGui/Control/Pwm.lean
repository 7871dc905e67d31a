import Mathlib.Logic.Basic
/-!
# PWM output and its self-test

What the timer is set to, and the self-test that borrows the output and
gives it back. What the HAL makes of starting and stopping the timer is
an argument.
-/

namespace CanGui

namespace Control

/-- What the HAL answers when the timer's output is started and stopped. -/
structure TimerAnswers where
  started : Bool := true
  stopped : Bool := true
  deriving DecidableEq, Repr

namespace Pwm

def minFrequencyHz : UInt32 := 1
def maxFrequencyHz : UInt32 := 1000000

/-- `PWM_Control_Result_t` -/
inductive Result where
  | ok
  | notInitialized
  | invalidFrequency
  | invalidDuty
  | hal
  deriving DecidableEq, Repr

/-- `PWM_Control_State_t`. The timer's handle is set with `initialized`. -/
structure State where
  initialized : Bool := false
  running : Bool := false
  dutyPercent : UInt8 := 0
  requestedFrequencyHz : UInt32 := 0
  actualFrequencyHz : UInt32 := 0
  counterClockHz : UInt32 := 0
  periodTicks : UInt32 := 0
  pulseTicks : UInt32 := 0
  lastResult : Result := .ok
  /-- `App_SafeState_Engage` was called. -/
  safeState : Bool := false
  deriving DecidableEq, Repr

/-- `PWM_Control_RecordResult` -/
def State.recordResult (pwm : State) (result : Result) : Result × State :=
  (result, { pwm with lastResult := result })

/-- The timer counts of a period, to the nearest. -/
def periodOf (counterClockHz frequencyHz : UInt32) : UInt32 :=
  (counterClockHz + frequencyHz / 2) / frequencyHz

def pulseOf (periodTicks : UInt32) (dutyPercent : UInt8) : UInt32 :=
  UInt32.ofNat ((periodTicks.toNat * dutyPercent.toNat + 50) / 100)

/-- What a setting that is accepted leaves behind. -/
def State.program (pwm : State) (frequencyHz : UInt32) (dutyPercent : UInt8) : State :=
  let period := periodOf pwm.counterClockHz frequencyHz
  let pulse := pulseOf period dutyPercent
  { pwm with
    requestedFrequencyHz := frequencyHz
    actualFrequencyHz := pwm.counterClockHz / period
    dutyPercent := UInt8.ofNat ((pulse.toNat * 100 + period.toNat / 2) / period.toNat)
    periodTicks := period
    pulseTicks := pulse }

/-- `PWM_Control_Set` -/
def State.set (pwm : State) (frequencyHz : UInt32) (dutyPercent : UInt8) : Result × State :=
  if pwm.initialized = false then pwm.recordResult .notInitialized
  else if frequencyHz < minFrequencyHz ∨ maxFrequencyHz < frequencyHz then
    pwm.recordResult .invalidFrequency
  else if 100 < dutyPercent then pwm.recordResult .invalidDuty
  else if periodOf pwm.counterClockHz frequencyHz < 1 then pwm.recordResult .invalidFrequency
  else (pwm.program frequencyHz dutyPercent).recordResult .ok

/-- `PWM_Control_Stop` -/
def State.stop (pwm : State) (timer : TimerAnswers) : Result × State :=
  if pwm.initialized = false then pwm.recordResult .notInitialized
  else if pwm.running = false then pwm.recordResult .ok
  else if timer.stopped = false then
    { pwm with safeState := true, running := false }.recordResult .hal
  else { pwm with running := false }.recordResult .ok

/-- `PWM_Control_Start` -/
def State.start (pwm : State) (timer : TimerAnswers) : Result × State :=
  if pwm.initialized = false then pwm.recordResult .notInitialized
  else if pwm.running then pwm.recordResult .ok
  else if timer.started = false then pwm.recordResult .hal
  else { pwm with running := true }.recordResult .ok

/-- What a setting is accepted on. -/
def State.accepts (pwm : State) (frequencyHz : UInt32) (dutyPercent : UInt8) : Bool :=
  pwm.initialized && decide (minFrequencyHz ≤ frequencyHz ∧ frequencyHz ≤ maxFrequencyHz) &&
    decide (dutyPercent ≤ 100) && decide (1 ≤ periodOf pwm.counterClockHz frequencyHz)

variable {pwm : State} {frequencyHz : UInt32} {dutyPercent : UInt8} {timer : TimerAnswers}

theorem set_ok_iff : (pwm.set frequencyHz dutyPercent).1 = .ok ↔
    pwm.accepts frequencyHz dutyPercent = true := by
  unfold State.set State.accepts
  cases pwm.initialized with
  | false => simp [State.recordResult]
  | true =>
    simp only [State.recordResult, Bool.true_eq_false, reduceIte, Bool.true_and, Bool.and_eq_true,
      decide_eq_true_eq]
    split
    · next h =>
      refine ⟨nofun, fun haccepted => ?_⟩
      obtain ⟨⟨⟨hlow, hhigh⟩, -⟩, -⟩ := haccepted
      exact (h.elim (UInt32.not_lt.2 hlow) (UInt32.not_lt.2 hhigh)).elim
    · next h =>
      obtain ⟨hlow, hhigh⟩ := not_or.1 h
      split
      · next hduty => exact ⟨nofun, fun haccepted => absurd haccepted.1.2 (UInt8.not_le.2 hduty)⟩
      · next hduty =>
        split
        · next hperiod =>
          exact ⟨nofun, fun haccepted => absurd haccepted.2 (UInt32.not_le.2 hperiod)⟩
        · next hperiod =>
          exact ⟨fun _ => ⟨⟨⟨UInt32.not_lt.1 hlow, UInt32.not_lt.1 hhigh⟩, UInt8.not_lt.1 hduty⟩,
            UInt32.not_lt.1 hperiod⟩, fun _ => rfl⟩

/-- **A setting that is accepted is made.** -/
theorem set_accepted (h : pwm.accepts frequencyHz dutyPercent = true) :
    pwm.set frequencyHz dutyPercent = (pwm.program frequencyHz dutyPercent).recordResult .ok := by
  have hok := set_ok_iff.2 h
  unfold State.set at *
  split at hok
  · cases hok
  · next hinitialized =>
    rw [if_neg hinitialized]
    split at hok
    · cases hok
    · next hrange =>
      rw [if_neg hrange]
      split at hok
      · cases hok
      · next hduty =>
        rw [if_neg hduty]
        split at hok
        · cases hok
        · next hperiod => rw [if_neg hperiod]

/-- What setting, starting and stopping do not change. -/
theorem set_initialized (pwm : State) (frequencyHz : UInt32) (dutyPercent : UInt8) :
    (pwm.set frequencyHz dutyPercent).2.initialized = pwm.initialized ∧
    (pwm.set frequencyHz dutyPercent).2.counterClockHz = pwm.counterClockHz ∧
    (pwm.set frequencyHz dutyPercent).2.running = pwm.running := by
  unfold State.set
  split
  · exact ⟨rfl, rfl, rfl⟩
  · split
    · exact ⟨rfl, rfl, rfl⟩
    · split
      · exact ⟨rfl, rfl, rfl⟩
      · split <;> exact ⟨rfl, rfl, rfl⟩

theorem stop_initialized (pwm : State) (timer : TimerAnswers) :
    (pwm.stop timer).2.initialized = pwm.initialized ∧
    (pwm.stop timer).2.counterClockHz = pwm.counterClockHz := by
  unfold State.stop
  split
  · exact ⟨rfl, rfl⟩
  · split
    · exact ⟨rfl, rfl⟩
    · split <;> exact ⟨rfl, rfl⟩

/-- What a setting is accepted on does not change with the settings. -/
theorem accepts_congr {pwm' : State} (hinitialized : pwm'.initialized = pwm.initialized)
    (hclock : pwm'.counterClockHz = pwm.counterClockHz) :
    pwm'.accepts frequencyHz dutyPercent = pwm.accepts frequencyHz dutyPercent := by
  unfold State.accepts
  rw [hinitialized, hclock]

theorem start_initialized (pwm : State) (timer : TimerAnswers) :
    (pwm.start timer).2.initialized = pwm.initialized ∧
    (pwm.start timer).2.counterClockHz = pwm.counterClockHz := by
  unfold State.start
  split
  · exact ⟨rfl, rfl⟩
  · split
    · exact ⟨rfl, rfl⟩
    · split <;> exact ⟨rfl, rfl⟩

theorem stop_ok_iff : (pwm.stop timer).1 = .ok ↔
    pwm.initialized = true ∧ (pwm.running = true → timer.stopped = true) := by
  unfold State.stop
  cases pwm.initialized <;> cases pwm.running <;> cases timer.stopped <;> simp [State.recordResult]

theorem start_ok_iff : (pwm.start timer).1 = .ok ↔
    pwm.initialized = true ∧ (pwm.running = false → timer.started = true) := by
  unfold State.start
  cases pwm.initialized <;> cases pwm.running <;> cases timer.started <;> simp [State.recordResult]

end Pwm

/-! ## The self-test -/

namespace SelfTest

def totalPoints : Nat := 10

/-- `PWM_SelfTest_StateCode_t` -/
inductive Code where
  | idle
  | running
  | passed
  | failed
  | cancelled
  | error
  deriving DecidableEq, Repr

/-- The value of the code on the bus and in the log. -/
def Code.value : Code → UInt32
  | idle => 0
  | running => 1
  | passed => 2
  | failed => 3
  | cancelled => 4
  | error => 5

inductive Phase where
  | idle
  | apply
  | settle
  deriving DecidableEq, Repr

/-- `PWM_SelfTest_ResultCode_t` -/
inductive Result where
  | ok
  | busy
  | controlError
  deriving DecidableEq, Repr

/-- `PWM_SelfTest_PointResult_t` -/
structure PointResult where
  point : Nat := 0
  passed : Bool := false
  expectedDutyPercent : UInt8 := 0
  measuredDutyPercent : UInt8 := 0
  expectedFrequencyHz : UInt32 := 0
  measuredFrequencyHz : UInt32 := 0
  deriving DecidableEq, Repr

/-- `PWM_SelfTest_State_t` and the module's own variables. -/
structure State where
  code : Code := .idle
  phase : Phase := .idle
  saved : Pwm.State := {}
  pointIndex : Nat := 0
  failedPoints : Nat := 0
  failedPointMask : UInt16 := 0
  currentPoint : Nat := 0
  totalPoints : Nat := SelfTest.totalPoints
  passedPoints : Nat := 0
  expectedFrequencyHz : UInt32 := 0
  expectedDutyPercent : UInt8 := 0
  phaseStartedAt : UInt32 := 0
  resultSequence : UInt32 := 0
  lastResult : PointResult := {}
  deriving DecidableEq, Repr

namespace State

/-- `PWM_SelfTest_IsRunning` -/
def isRunning (test : State) : Bool := test.code == .running

/-- `PWM_SelfTest_Start` -/
def start (test : State) (pwm : Pwm.State) (captureInitialized : Bool) : Result × State :=
  if test.isRunning then (.busy, test)
  else if pwm.initialized = false ∨ captureInitialized = false then
    (.controlError, { test with code := .error })
  else
    (.ok, { test with
      saved := pwm
      pointIndex := 0
      failedPoints := 0
      failedPointMask := 0
      code := .running
      currentPoint := 1
      totalPoints := SelfTest.totalPoints
      passedPoints := 0
      expectedFrequencyHz := 1000
      expectedDutyPercent := 50
      phase := .apply })

/-- The end of `PWM_SelfTest_RestoreOutput`: the output runs or not, as it
did. -/
def restoreRunning (test : State) (pwm : Pwm.State) (timer : TimerAnswers) : Result × Pwm.State :=
  let (result, pwm) := if test.saved.running then pwm.start timer else pwm.stop timer
  (if result = .ok then .ok else .controlError, pwm)

/-- `PWM_SelfTest_RestoreOutput` -/
def restoreOutput (test : State) (pwm : Pwm.State) (timer : TimerAnswers) : Result × Pwm.State :=
  if test.saved.requestedFrequencyHz ≠ 0 then
    let (result, pwm) := pwm.set test.saved.requestedFrequencyHz test.saved.dutyPercent
    if result ≠ .ok then (.controlError, pwm) else test.restoreRunning pwm timer
  else test.restoreRunning pwm timer

/-- `PWM_SelfTest_Cancel`, without the entry it logs. -/
def cancel (test : State) (pwm : Pwm.State) (timer : TimerAnswers) : State × Pwm.State :=
  if test.isRunning = false then (test, pwm)
  else
    let (result, pwm) := test.restoreOutput pwm timer
    ({ test with phase := .idle, code := if result = .ok then .cancelled else .error }, pwm)

/-- The summary `PWM_SelfTest_LogTerminalResult` logs. -/
def summary (test : State) : UInt32 :=
  test.code.value ||| (UInt32.ofNat test.passedPoints <<< 8) |||
    (UInt32.ofNat test.totalPoints <<< 16) ||| (UInt32.ofNat test.failedPoints <<< 24)

/-- What the output can be given back on. -/
def restores (test : State) (pwm : Pwm.State) (timer : TimerAnswers) : Bool :=
  pwm.initialized &&
    (test.saved.requestedFrequencyHz == 0 ||
      pwm.accepts test.saved.requestedFrequencyHz test.saved.dutyPercent) &&
    (if test.saved.running then pwm.running || timer.started else !pwm.running || timer.stopped)

variable {test : State} {pwm : Pwm.State} {timer : TimerAnswers}

theorem restoreRunning_ok_iff : (test.restoreRunning pwm timer).1 = .ok ↔
    pwm.initialized = true ∧
      (if test.saved.running then pwm.running || timer.started else !pwm.running || timer.stopped) =
        true := by
  have hstart : (pwm.start timer).1 = .ok ↔ _ := Pwm.start_ok_iff
  have hstop : (pwm.stop timer).1 = .ok ↔ _ := Pwm.stop_ok_iff
  unfold restoreRunning
  cases test.saved.running with
  | true =>
    simp only [reduceIte, ite_eq_left_iff, imp_false, not_not, reduceCtorEq]
    rw [hstart]
    cases pwm.running <;> simp
  | false =>
    simp only [Bool.false_eq_true, reduceIte, ite_eq_left_iff, imp_false, not_not, reduceCtorEq]
    rw [hstop]
    cases pwm.running <;> simp

/-- Giving the output back changes neither its timer nor its clock. -/
theorem restoreRunning_initialized : (test.restoreRunning pwm timer).2.initialized = pwm.initialized ∧
    (test.restoreRunning pwm timer).2.counterClockHz = pwm.counterClockHz := by
  unfold restoreRunning
  cases test.saved.running with
  | true => exact Pwm.start_initialized pwm timer
  | false => exact Pwm.stop_initialized pwm timer

theorem restoreOutput_initialized : (test.restoreOutput pwm timer).2.initialized = pwm.initialized ∧
    (test.restoreOutput pwm timer).2.counterClockHz = pwm.counterClockHz := by
  obtain ⟨hinitialized, hclock, -⟩ := Pwm.set_initialized pwm test.saved.requestedFrequencyHz
    test.saved.dutyPercent
  unfold restoreOutput
  split
  · dsimp only
    split
    · exact ⟨hinitialized, hclock⟩
    · exact ⟨restoreRunning_initialized.1.trans hinitialized,
        restoreRunning_initialized.2.trans hclock⟩
  · exact restoreRunning_initialized

theorem cancel_initialized : (test.cancel pwm timer).2.initialized = pwm.initialized ∧
    (test.cancel pwm timer).2.counterClockHz = pwm.counterClockHz := by
  unfold cancel
  split
  · exact ⟨rfl, rfl⟩
  · exact restoreOutput_initialized

/-- **The output is given back exactly when each step of it succeeds.** -/
theorem restoreOutput_ok_iff :
    (test.restoreOutput pwm timer).1 = .ok ↔ test.restores pwm timer = true := by
  unfold restoreOutput restores
  by_cases hzero : test.saved.requestedFrequencyHz = 0
  · rw [if_neg (not_not.2 hzero), restoreRunning_ok_iff, hzero]
    simp
  · rw [if_pos hzero]
    obtain ⟨hinitialized, -, hrunning⟩ := Pwm.set_initialized pwm
      test.saved.requestedFrequencyHz test.saved.dutyPercent
    have hset : (pwm.set test.saved.requestedFrequencyHz test.saved.dutyPercent).1 = .ok ↔ _ :=
      Pwm.set_ok_iff
    by_cases hok : (pwm.set test.saved.requestedFrequencyHz test.saved.dutyPercent).1 = .ok
    · dsimp only
      rw [if_neg (not_not.2 hok), restoreRunning_ok_iff, hinitialized, hrunning]
      simp [hset.1 hok]
    · dsimp only
      have hrefused := eq_false_of_ne_true (mt hset.2 hok)
      rw [if_pos hok]
      simp [hzero, hrefused]

end State

end SelfTest

end Control

end CanGui
