import CanGui.Command.Exits
import CanGui.Control.Application
/-!
# Application control — the PWM interlock

The policy, the commands and the self-test drive one output. After every
pass it runs only where the switches permit it.
-/

namespace CanGui

namespace Control

open Command (Parts Answers Code)

/-! ## What the commands leave sound -/

section Commands

open Command (State.logAll_sameParts)

variable {parts : Parts} {answers : Answers}

theorem cancelSelfTest_sound (h : parts.pwm.Sound) : (parts.cancelSelfTest answers).pwm.Sound := by
  unfold Parts.cancelSelfTest
  split
  · exact h
  · have hsame := State.logAll_sameParts [Parts.terminalEntry (parts.selfTest.cancel parts.pwm
      answers.timer).1] { parts with
        selfTest := (parts.selfTest.cancel parts.pwm answers.timer).1
        pwm := (parts.selfTest.cancel parts.pwm answers.timer).2 } answers.uptime
    dsimp only
    rw [hsame.pwm]
    exact SelfTest.State.cancel_sound h

theorem pwmSetOutput_sound (h : parts.pwm.Sound) (frequencyHz : UInt32) (dutyPercent : UInt8) :
    (parts.pwmSetOutput frequencyHz dutyPercent).parts.pwm.Sound := by
  unfold Parts.pwmSetOutput
  dsimp only
  split
  · exact h.set _ _
  · exact h.set _ _

theorem pwmSet_sound (h : parts.pwm.Sound) (payload : Bytes) :
    (parts.pwmSet payload answers).parts.pwm.Sound := by
  unfold Parts.pwmSet
  dsimp only
  have hcancelled : (if parts.selfTest.isRunning then parts.cancelSelfTest answers
      else parts).pwm.Sound := by
    split
    · exact cancelSelfTest_sound h
    · exact h
  generalize (if parts.selfTest.isRunning then parts.cancelSelfTest answers else parts) = prepared
    at hcancelled
  split
  · exact hcancelled
  · exact pwmSetOutput_sound hcancelled _ _

theorem pwmSelfTest_sound (h : parts.pwm.Sound) (payload : Bytes) :
    (parts.pwmSelfTest payload answers).parts.pwm.Sound := by
  unfold Parts.pwmSelfTest
  split
  · exact cancelSelfTest_sound h
  · split
    · exact h
    · exact h

theorem rtcDone_sound (h : parts.pwm.Sound) (outcome : Rtc.Outcome) :
    (parts.rtcDone outcome answers).pwm.Sound := by
  have hsame := State.logAll_sameParts outcome.logged { parts with rtc := outcome.state }
    answers.uptime
  unfold Parts.rtcDone
  rw [hsame.pwm]
  exact h

/-- The output runs on a timer that was set up, whatever is commanded. -/
theorem handle_sound (h : parts.pwm.Sound) (payload : Bytes) (code : Code) :
    (parts.handle payload answers code).parts.pwm.Sound := by
  cases code with
  | setSlot1 => exact h
  | setSlot2 => exact h
  | startSlot1Counter => exact h
  | startSlot2Counter => exact h
  | ledControl => exact h
  | rtcSetTime => exact rtcDone_sound h _
  | rtcSetDateTime => exact rtcDone_sound h _
  | rtcSetAlarm =>
    change (parts.handleRtcSetAlarm payload answers).parts.pwm.Sound
    unfold Parts.handleRtcSetAlarm
    split
    · exact h
    · exact rtcDone_sound h _
  | logGetInfo => exact h
  | logReadSequence => exact h
  | pwmSet => exact pwmSet_sound h payload
  | pwmSelfTest => exact pwmSelfTest_sound h payload
  | tic12400SetPolarity =>
    change (parts.tic12400SetPolarity payload answers).parts.pwm.Sound
    unfold Parts.tic12400SetPolarity
    split
    · exact h
    · exact h

end Commands

/-! ## A pass -/

/-- What of the policy decides over the output follows from the switches
and the request. -/
structure Policy.Decided (policy : Policy) : Prop where
  permitted : policy.pwmPermitted = policy.permits pwmInput
  effective : policy.pwmEffective = (policy.pwmRequested && policy.pwmPermitted)

theorem updateSwitches_decided (policy : Policy) (dataValid : Bool) (closedSwitchMask : UInt32) :
    (policy.updateSwitches dataValid closedSwitchMask).Decided := ⟨rfl, rfl⟩

/-- **The interlock.** The output runs only while the switches are valid,
the switch of the output is open and it is asked for or tested. -/
def Machine.Interlocked (machine : Machine) : Prop :=
  machine.parts.pwm.running = true →
    machine.parts.policy.switchDataValid = true ∧
      machine.parts.policy.isClosed pwmInput = false ∧
      machine.parts.policy.pwmPermitted = true ∧
      (machine.parts.policy.pwmRequested = true ∨ machine.parts.selfTest.isRunning = true)

namespace Machine

variable {machine : Machine}

theorem takeSwitches_decided (dataValid : Bool) (closedSwitchMask : UInt32) :
    (machine.takeSwitches dataValid closedSwitchMask).parts.policy.Decided :=
  updateSwitches_decided _ _ _

theorem interrupt_policy (answers : ApplyAnswers) :
    (machine.interrupt answers).parts.policy = machine.parts.policy := by
  unfold interrupt Parts.cancelSelfTest
  dsimp only
  split
  · rfl
  · exact (Command.State.logAll_sameParts _ _ _).policy

theorem applyPwm_policy (answers : ApplyAnswers) :
    (machine.applyPwm answers).parts.policy = machine.parts.policy := by
  unfold applyPwm report
  dsimp only
  split
  · split
    · exact interrupt_policy answers
    · rfl
  · split <;> rfl

theorem processSelfTest_policy (capture : SelfTest.Capture) (now : UInt32)
    (answers : SelfTest.StepAnswers) (uptime : Nat → UInt32) :
    (machine.processSelfTest capture now answers uptime).parts.policy = machine.parts.policy := by
  unfold processSelfTest
  dsimp only
  split
  · exact (Command.State.logAll_sameParts _ _ _).policy
  · rfl

theorem processSelfTest_sound (h : machine.parts.pwm.Sound) (capture : SelfTest.Capture)
    (now : UInt32) (answers : SelfTest.StepAnswers) (uptime : Nat → UInt32) :
    (machine.processSelfTest capture now answers uptime).parts.pwm.Sound := by
  have hstep := @SelfTest.State.process_sound machine.parts.selfTest _ h capture now answers
  unfold processSelfTest
  dsimp only
  split
  · have hsame := Command.State.logAll_sameParts [Parts.terminalEntry
      (machine.parts.selfTest.process machine.parts.pwm capture now answers).1] { machine.parts with
        selfTest := (machine.parts.selfTest.process machine.parts.pwm capture now answers).1
        pwm := (machine.parts.selfTest.process machine.parts.pwm capture now answers).2 } uptime
    rw [hsame.pwm]
    exact hstep
  · exact hstep

/-- An interrupted test has stopped, and the output with it. -/
theorem interrupt_stopped (h : machine.parts.pwm.Sound) (answers : ApplyAnswers) :
    (machine.interrupt answers).parts.pwm.running = false :=
  (cancelSelfTest_sound h).stop _

theorem applyPwm_sound (h : machine.parts.pwm.Sound) (answers : ApplyAnswers) :
    (machine.applyPwm answers).parts.pwm.Sound := by
  unfold applyPwm report
  dsimp only
  split
  · split
    · exact .of_stopped (interrupt_stopped h answers)
    · exact h
  · split
    · exact h.start _
    · exact .of_stopped (h.stop _)

/-- **Applying the policy interlocks the output.** -/
theorem applyPwm_interlocked (h : machine.parts.pwm.Sound) (hpolicy : machine.parts.policy.Decided)
    (answers : ApplyAnswers) : (machine.applyPwm answers).Interlocked := by
  have hpermits : machine.parts.policy.pwmPermitted = true →
      machine.parts.policy.switchDataValid = true ∧
        machine.parts.policy.isClosed pwmInput = false := by
    intro hpermitted
    rw [hpolicy.permitted, Policy.permits, Bool.and_eq_true, Bool.not_eq_true'] at hpermitted
    exact hpermitted
  intro hrunning
  rw [applyPwm_policy]
  revert hrunning
  unfold applyPwm report
  dsimp only
  split
  · next htest =>
    split
    · intro hrunning
      exact absurd (hrunning.symm.trans (interrupt_stopped h answers)) nofun
    · next hpermitted =>
      intro _
      have hpermitted := eq_true_of_ne_false hpermitted
      obtain ⟨hvalid, hopen⟩ := hpermits hpermitted
      exact ⟨hvalid, hopen, hpermitted, .inr htest⟩
  · split
    · next heffective =>
      intro _
      rw [hpolicy.effective, Bool.and_eq_true] at heffective
      obtain ⟨hvalid, hopen⟩ := hpermits heffective.2
      exact ⟨hvalid, hopen, heffective.2, .inl heffective.1⟩
    · intro hrunning
      exact absurd (hrunning.symm.trans (h.stop answers.output)) nofun

/-! ## The whole pass -/

theorem process_sound (h : machine.parts.pwm.Sound) (answers : ProcessAnswers) :
    (machine.process answers).parts.pwm.Sound := by
  have hswitches : (machine.takeSwitches answers.dataValid
      answers.closedSwitchMask).parts.pwm.Sound := h
  have hfirst := applyPwm_sound hswitches answers.first
  have htest :=
    processSelfTest_sound hfirst answers.capture answers.now answers.step answers.uptime
  unfold process
  dsimp only
  exact applyPwm_sound htest answers.second

theorem process_interlocked (h : machine.parts.pwm.Sound) (answers : ProcessAnswers) :
    (machine.process answers).Interlocked := by
  have hswitches : (machine.takeSwitches answers.dataValid
      answers.closedSwitchMask).parts.pwm.Sound := h
  have hdecided := @takeSwitches_decided machine answers.dataValid
    answers.closedSwitchMask
  have hfirst := applyPwm_sound hswitches answers.first
  have htest :=
    processSelfTest_sound hfirst answers.capture answers.now answers.step answers.uptime
  -- neither the first application nor the self-test touches the policy
  rw [← applyPwm_policy answers.first, ← processSelfTest_policy answers.capture answers.now
    answers.step answers.uptime] at hdecided
  unfold process
  dsimp only
  exact applyPwm_interlocked htest hdecided answers.second

/-- What becomes of a self-test that lost its permission. -/
structure GivenUp (machine : Machine) (answers : ProcessAnswers) (after : Machine) : Prop where
  ended : after.parts.selfTest.isRunning = false
  code : after.parts.selfTest.code =
    if machine.parts.selfTest.restores machine.parts.pwm answers.first.cancel then .cancelled
    else .error
  stopped : after.parts.pwm.running = false
  count : after.control.selfTestCancelCount = machine.control.selfTestCancelCount + 1

theorem interrupt_test (hrunning : machine.parts.selfTest.isRunning = true)
    (answers : ApplyAnswers) : (machine.interrupt answers).parts.selfTest.code =
      if machine.parts.selfTest.restores machine.parts.pwm answers.cancel then .cancelled
      else .error := by
  have hrestored : (machine.parts.selfTest.restoreOutput machine.parts.pwm answers.cancel).1 = .ok ↔
      _ := SelfTest.State.restoreOutput_ok_iff
  unfold interrupt Parts.cancelSelfTest
  dsimp only
  rw [if_neg (ne_false_of_eq_true hrunning)]
  have hsame := Command.State.logAll_sameParts [Parts.terminalEntry
    (machine.parts.selfTest.cancel machine.parts.pwm answers.cancel).1] { machine.parts with
      selfTest := (machine.parts.selfTest.cancel machine.parts.pwm answers.cancel).1
      pwm := (machine.parts.selfTest.cancel machine.parts.pwm answers.cancel).2 } answers.uptime
  rw [hsame.selfTest]
  dsimp only
  unfold SelfTest.State.cancel
  rw [if_neg (ne_false_of_eq_true hrunning)]
  exact if_congr hrestored rfl rfl

/-- A pass without a running test and without permission changes no test
and stops the output. -/
theorem applyPwm_unpermitted (h : machine.parts.pwm.Sound)
    (hidle : machine.parts.selfTest.isRunning = false)
    (heffective : machine.parts.policy.pwmEffective = false) (answers : ApplyAnswers) :
    (machine.applyPwm answers).parts.selfTest = machine.parts.selfTest ∧
      (machine.applyPwm answers).parts.pwm.running = false ∧
      (machine.applyPwm answers).control.selfTestCancelCount =
        machine.control.selfTestCancelCount := by
  unfold applyPwm report
  dsimp only
  rw [if_neg (ne_true_of_eq_false hidle), if_neg (ne_true_of_eq_false heffective)]
  refine ⟨rfl, h.stop _, ?_⟩
  dsimp only
  split <;> rfl

/-- A pass that finds a running test without permission gives it up. -/
theorem applyPwm_interrupted (hrunning : machine.parts.selfTest.isRunning = true)
    (hlost : machine.parts.policy.pwmPermitted = false) (answers : ApplyAnswers) :
    (machine.applyPwm answers).parts = (machine.interrupt answers).parts ∧
      (machine.applyPwm answers).control.selfTestCancelCount =
        machine.control.selfTestCancelCount + 1 := by
  unfold applyPwm report
  dsimp only
  rw [if_pos hrunning, if_pos hlost]
  refine ⟨rfl, ?_⟩
  split <;> rfl

/-- A test that is not running takes no step. -/
theorem processSelfTest_idle (hidle : machine.parts.selfTest.isRunning = false)
    (capture : SelfTest.Capture) (now : UInt32) (answers : SelfTest.StepAnswers)
    (uptime : Nat → UInt32) :
    machine.processSelfTest capture now answers uptime = machine := by
  have hstep : machine.parts.selfTest.process machine.parts.pwm capture now answers =
      (machine.parts.selfTest, machine.parts.pwm) := if_pos hidle
  unfold processSelfTest
  dsimp only
  rw [hstep, if_neg fun h => ne_true_of_eq_false hidle h.1]

theorem takeSwitches_selfTestCancelCount (dataValid : Bool) (closedSwitchMask : UInt32) :
    (machine.takeSwitches dataValid closedSwitchMask).control.selfTestCancelCount =
      machine.control.selfTestCancelCount := by
  have hled : ∀ (control : Snapshot) (ledNumber : Nat) (effectiveOn : Bool),
      (control.applyLed ledNumber effectiveOn).selfTestCancelCount =
        control.selfTestCancelCount := by
    intro control ledNumber effectiveOn
    unfold Snapshot.applyLed
    split
    · split <;> rfl
    · split <;> rfl
  exact (hled _ _ _).trans (hled _ _ _)

/-- **A self-test that loses its permission is given up**, and the output
does not run. -/
theorem process_givenUp (h : machine.parts.pwm.Sound) (answers : ProcessAnswers)
    (hrunning : machine.parts.selfTest.isRunning = true)
    (hlost : (machine.parts.policy.updateSwitches answers.dataValid
      answers.closedSwitchMask).pwmPermitted = false) :
    GivenUp machine answers (machine.process answers) := by
  have hdecided := @takeSwitches_decided machine answers.dataValid
    answers.closedSwitchMask
  have hcount := @takeSwitches_selfTestCancelCount machine answers.dataValid
    answers.closedSwitchMask
  have hsound : (machine.takeSwitches answers.dataValid
      answers.closedSwitchMask).parts.pwm.Sound := h
  have htest : (machine.takeSwitches answers.dataValid
      answers.closedSwitchMask).parts.selfTest = machine.parts.selfTest := rfl
  have hpwm : (machine.takeSwitches answers.dataValid
      answers.closedSwitchMask).parts.pwm = machine.parts.pwm := rfl
  have hunpermitted : (machine.takeSwitches answers.dataValid
      answers.closedSwitchMask).parts.policy.pwmPermitted = false := hlost
  unfold process
  dsimp only
  generalize machine.takeSwitches answers.dataValid answers.closedSwitchMask = taken at *
  -- the first application gives the test up, and the step in between does nothing
  obtain ⟨hparts, hcancelled⟩ :=
    applyPwm_interrupted (htest ▸ hrunning) hunpermitted answers.first
  have hcode := interrupt_test (htest ▸ hrunning) answers.first
  rw [← hparts, htest, hpwm] at hcode
  have hended : (taken.applyPwm answers.first).parts.selfTest.isRunning = false := by
    unfold SelfTest.State.isRunning
    rw [hcode]
    split <;> rfl
  have heffective : (taken.applyPwm answers.first).parts.policy.pwmEffective = false := by
    rw [applyPwm_policy, hdecided.effective, hunpermitted, Bool.and_false]
  have hsoundFirst := applyPwm_sound hsound answers.first
  rw [processSelfTest_idle hended]
  obtain ⟨hsame, hstopped, hcountSecond⟩ :=
    applyPwm_unpermitted hsoundFirst hended heffective answers.second
  constructor
  case ended => exact (congrArg SelfTest.State.isRunning hsame).trans hended
  case code => exact (congrArg SelfTest.State.code hsame).trans hcode
  case stopped => exact hstopped
  case count => exact hcountSecond.trans (hcancelled.trans (congrArg (· + 1) hcount))

end Machine

/-! ## Runs -/

theorem boot_sound (counterClockHz : Option UInt32) (captureInitialized : Bool) :
    (boot counterClockHz captureInitialized).parts.pwm.Sound := by
  cases counterClockHz with
  | none => exact .of_stopped rfl
  | some clock => exact Pwm.State.Sound.set (.of_stopped rfl) _ _

theorem step_sound (machine : Machine) (event : Event) (h : machine.parts.pwm.Sound) :
    (step machine event).parts.pwm.Sound := by
  cases event with
  | process answers => exact Machine.process_sound h answers
  | command payload answers code => exact handle_sound h payload code
  | transmit answers => exact h
  | others rtc tic log sender => exact h

/-- **The interlock holds after every pass of every run**, and a test that
loses its permission is given up. -/
theorem interlocked (counterClockHz : Option UInt32) (captureInitialized : Bool)
    (events : List Event) (answers : ProcessAnswers) :
    ((run step (boot counterClockHz captureInitialized) events).process answers).Interlocked ∧
      ((run step (boot counterClockHz captureInitialized) events).parts.selfTest.isRunning = true →
        ((run step (boot counterClockHz captureInitialized) events).parts.policy.updateSwitches
          answers.dataValid answers.closedSwitchMask).pwmPermitted = false →
        Machine.GivenUp (run step (boot counterClockHz captureInitialized) events) answers
          ((run step (boot counterClockHz captureInitialized) events).process answers)) := by
  have hsound := run_invariant (I := fun machine : Machine => machine.parts.pwm.Sound) step_sound
    events _ (boot_sound counterClockHz captureInitialized)
  exact ⟨Machine.process_interlocked hsound answers, Machine.process_givenUp hsound answers⟩

/-- The switches permit the output, a self-test is started and applies its
first point. -/
def testEvents : List Event :=
  [.process { dataValid := true, closedSwitchMask := 0 },
    .command [0x41, 1, 0, 0, 0, 0, 0, 0] {} .pwmSelfTest,
    .process { dataValid := true, closedSwitchMask := 0 }]

/-- The output's switch is closed. -/
def switchClosed : ProcessAnswers where
  dataValid := true
  closedSwitchMask := 2

theorem interlocked_testEvents :
    (run step (boot (some 1000000) true) testEvents).parts.pwm.running = true ∧
      Machine.GivenUp (run step (boot (some 1000000) true) testEvents) switchClosed
        ((run step (boot (some 1000000) true) testEvents).process switchClosed) :=
  ⟨by decide +kernel,
    (interlocked (some 1000000) true testEvents switchClosed).2 (by decide +kernel)
      (by decide +kernel)⟩

end Control

end CanGui
