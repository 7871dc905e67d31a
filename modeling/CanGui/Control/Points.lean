import CanGui.Control.Pwm
/-!
# PWM self-test — its points

The self-test sets the output to ten points in turn, lets each settle and
compares what the input capture measures, and gives the output back in the
end.
-/

namespace CanGui

namespace Control

namespace SelfTest

def settleMs : UInt32 := 300

/-- `PWM_SelfTest_Point_t` -/
structure Point where
  frequencyHz : UInt32
  dutyPercent : UInt8
  expectSignal : Bool
  deriving DecidableEq, Repr

def testPoints : List Point :=
  [⟨1000, 50, true⟩, ⟨10000, 50, true⟩, ⟨100000, 50, true⟩, ⟨500000, 50, true⟩, ⟨10000, 10, true⟩,
    ⟨10000, 25, true⟩, ⟨10000, 50, true⟩, ⟨10000, 75, true⟩, ⟨10000, 90, true⟩, ⟨0, 0, false⟩]

/-- `test_points[index]` -/
def pointAt (index : Nat) : Point := testPoints.getD index ⟨0, 0, false⟩

/-- What the self-test reads of `Input_Capture_State_t`. -/
structure Capture where
  signalDetected : Bool := false
  frequencyHz : UInt32 := 0
  dutyPercent : UInt8 := 0
  deriving DecidableEq, Repr

/-- `PWM_SelfTest_AbsoluteDifference` -/
def absoluteDifference (first second : UInt32) : UInt32 :=
  if second ≤ first then first - second else second - first

/-- `PWM_SelfTest_FrequencyMatches` -/
def frequencyMatches (measured expected : UInt32) : Bool :=
  let tolerance := if expected / 50 < 2 then 2 else expected / 50
  decide (absoluteDifference measured expected ≤ tolerance)

/-- `PWM_SelfTest_DutyMatches` -/
def dutyMatches (measured expected : UInt8) : Bool :=
  let difference := if expected ≤ measured then measured - expected else expected - measured
  decide (difference ≤ 2)

/-- What the HAL answers to the starts and stops of one step: where the
point is applied and where the output is given back. -/
structure StepAnswers where
  point : TimerAnswers := {}
  restore : TimerAnswers := {}
  deriving DecidableEq, Repr

namespace State

/-- `PWM_SelfTest_ApplyPoint` -/
def applyPoint (test : State) (pwm : Pwm.State) (timer : TimerAnswers) : Result × Pwm.State :=
  let point := pointAt test.pointIndex
  if point.expectSignal = false then
    let (result, pwm) := pwm.stop timer
    (if result = .ok then .ok else .controlError, pwm)
  else
    let (result, pwm) := pwm.set point.frequencyHz point.dutyPercent
    if result ≠ .ok then (.controlError, pwm)
    else
      let (result, pwm) := pwm.start timer
      (if result = .ok then .ok else .controlError, pwm)

/-- The measurement agrees with the point. -/
def passes (point : Point) (pwm : Pwm.State) (capture : Capture) : Bool :=
  if point.expectSignal = false then !capture.signalDetected
  else pwm.running && capture.signalDetected &&
    frequencyMatches capture.frequencyHz pwm.actualFrequencyHz &&
    dutyMatches capture.dutyPercent pwm.dutyPercent

/-- `PWM_SelfTest_RecordPoint` -/
def recordPoint (test : State) (pwm : Pwm.State) (capture : Capture) : State :=
  let point := pointAt test.pointIndex
  let passed := passes point pwm capture
  let test := { test with
    lastResult := {
      point := test.pointIndex + 1
      passed := passed
      expectedDutyPercent := point.dutyPercent
      measuredDutyPercent := capture.dutyPercent
      expectedFrequencyHz := point.frequencyHz
      measuredFrequencyHz := capture.frequencyHz }
    resultSequence := test.resultSequence + 1 }
  if passed then { test with passedPoints := test.passedPoints + 1 }
  else { test with
    failedPoints := test.failedPoints + 1
    failedPointMask := test.failedPointMask ||| (1 : UInt16) <<< UInt16.ofNat test.pointIndex }

/-- The end of the last point. -/
def finish (test : State) (pwm : Pwm.State) (timer : TimerAnswers) : State × Pwm.State :=
  let (result, pwm) := test.restoreOutput pwm timer
  let code : Code :=
    if result ≠ .ok then .error else if test.failedPoints = 0 then .passed else .failed
  ({ test with phase := .idle, code := code }, pwm)

/-- The next point is due. -/
def advance (test : State) : State :=
  let point := pointAt test.pointIndex
  { test with
    currentPoint := test.pointIndex + 1
    expectedFrequencyHz := point.frequencyHz
    expectedDutyPercent := point.dutyPercent
    phase := .apply }

/-- A point that could not be applied ends the test. -/
def abandon (test : State) (pwm : Pwm.State) (timer : TimerAnswers) : State × Pwm.State :=
  ({ test with code := .error, phase := .idle }, (test.restoreOutput pwm timer).2)

/-- `PWM_SelfTest_Process`. The entry of a test that ends here is logged
where this is called. -/
def process (test : State) (pwm : Pwm.State) (capture : Capture) (now : UInt32)
    (answers : StepAnswers) : State × Pwm.State :=
  if test.isRunning = false then (test, pwm)
  else if test.phase = .apply then
    let (result, pwm) := test.applyPoint pwm answers.point
    if result ≠ .ok then test.abandon pwm answers.restore
    else ({ test with phaseStartedAt := now, phase := .settle }, pwm)
  else if test.phase ≠ .settle ∨ now - test.phaseStartedAt < settleMs then (test, pwm)
  else
    let recorded := test.recordPoint pwm capture
    let test := { recorded with pointIndex := recorded.pointIndex + 1 }
    if SelfTest.totalPoints ≤ test.pointIndex then test.finish pwm answers.restore else (test.advance, pwm)

end State

end SelfTest

/-! ## A timer that was never set up does not run -/

namespace Pwm

/-- The output runs only on a timer that was set up. -/
def State.Sound (pwm : State) : Prop := pwm.running = true → pwm.initialized = true

variable {pwm : State} {timer : TimerAnswers}

theorem State.Sound.set (h : pwm.Sound) (frequencyHz : UInt32) (dutyPercent : UInt8) :
    (pwm.set frequencyHz dutyPercent).2.Sound := by
  obtain ⟨hinitialized, -, hrunning⟩ := set_initialized pwm frequencyHz dutyPercent
  unfold State.Sound
  rw [hinitialized, hrunning]
  exact h

theorem State.Sound.start (h : pwm.Sound) (timer : TimerAnswers) : (pwm.start timer).2.Sound := by
  unfold State.start
  split
  · exact h
  · next hinitialized =>
    split
    · exact h
    · split
      · exact h
      · exact fun _ => eq_true_of_ne_false hinitialized

/-- **A stop ends the output, whatever the HAL answers.** -/
theorem State.Sound.stop (h : pwm.Sound) (timer : TimerAnswers) :
    (pwm.stop timer).2.running = false := by
  unfold State.stop
  split
  · next hnot =>
    refine eq_false_of_ne_true fun hrunning => ?_
    exact absurd (hnot.symm.trans (h hrunning)) nofun
  · split
    · next hstopped => exact hstopped
    · split <;> rfl

theorem State.Sound.of_stopped (h : pwm.running = false) : pwm.Sound :=
  fun hrunning => absurd (h.symm.trans hrunning) nofun

end Pwm

namespace SelfTest

namespace State

variable {test : State} {pwm : Pwm.State} {timer : TimerAnswers}

theorem restoreRunning_sound (h : pwm.Sound) : (test.restoreRunning pwm timer).2.Sound := by
  unfold restoreRunning
  cases test.saved.running with
  | true => exact h.start timer
  | false => exact .of_stopped (h.stop timer)

theorem restoreOutput_sound (h : pwm.Sound) : (test.restoreOutput pwm timer).2.Sound := by
  unfold restoreOutput
  split
  · dsimp only
    split
    · exact h.set _ _
    · exact restoreRunning_sound (h.set _ _)
  · exact restoreRunning_sound h

theorem cancel_sound (h : pwm.Sound) : (test.cancel pwm timer).2.Sound := by
  unfold cancel
  split
  · exact h
  · exact restoreOutput_sound h

theorem applyPoint_sound (h : pwm.Sound) : (test.applyPoint pwm timer).2.Sound := by
  unfold applyPoint
  dsimp only
  split
  · exact .of_stopped (h.stop timer)
  · split
    · exact h.set _ _
    · exact (h.set _ _).start timer

theorem process_sound (h : pwm.Sound) (capture : Capture) (now : UInt32) (answers : StepAnswers) :
    (test.process pwm capture now answers).2.Sound := by
  unfold process
  split
  · exact h
  · split
    · dsimp only
      split
      · exact restoreOutput_sound (applyPoint_sound h)
      · exact applyPoint_sound h
    · split
      · exact h
      · dsimp only
        split
        · exact restoreOutput_sound h
        · exact h

end State

end SelfTest

end Control

end CanGui
