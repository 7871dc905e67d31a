import CanGui.Common.Run
import CanGui.Control.Points
/-!
# PWM output — settings restored

A duty is rounded to timer counts, and the counts are rounded back to the
duty that is reported. Setting the output to what it reports makes the
same counts again (`set_again`), so a self-test gives back the output it
has borrowed (`settings_restored`).
-/

namespace CanGui

namespace Control

/-! ## Two roundings -/

section Rounding

variable {period duty : Nat}

/-- A hundred counts or more tell the percentages apart. -/
theorem percent_of_long (hperiod : 100 ≤ period) :
    (((period * duty + 50) / 100) * 100 + period / 2) / period = duty := by
  set pulse := (period * duty + 50) / 100 with hpulse
  have hlow : period * duty + 50 < pulse * 100 + 100 := by omega
  have hhigh : pulse * 100 ≤ period * duty + 50 := by omega
  have hexact : period = 100 → pulse = duty := by
    rintro rfl
    omega
  have hcomm : duty * period = period * duty := Nat.mul_comm _ _
  rw [Nat.div_eq_iff (by omega)]
  by_cases hlong : period = 100
  · -- at a hundred counts the percentage is the pulse itself
    have hsame := hexact hlong
    subst hlong
    omega
  · omega

/-- Fewer counts than a hundred are told apart by their percentages. -/
theorem pulse_of_short {pulse : Nat} (hpos : 0 < period) (hperiod : period < 100) :
    (period * ((pulse * 100 + period / 2) / period) + 50) / 100 = pulse := by
  set percent := (pulse * 100 + period / 2) / period with hpercent
  have hlow : period * percent ≤ pulse * 100 + period / 2 := Nat.mul_div_le _ _
  have hhigh : pulse * 100 + period / 2 < period * percent + period := by
    have hmod := Nat.mod_lt (pulse * 100 + period / 2) hpos
    have hdiv := Nat.div_add_mod (pulse * 100 + period / 2) period
    rw [← hpercent] at hdiv
    omega
  omega

/-- **The counts survive the reported percentage.** -/
theorem pulse_again (hpos : 0 < period) :
    (period * ((((period * duty + 50) / 100) * 100 + period / 2) / period) + 50) / 100 =
      (period * duty + 50) / 100 := by
  by_cases hlong : 100 ≤ period
  · rw [percent_of_long hlong]
  · exact pulse_of_short hpos (by omega)

theorem percent_le (hpos : 0 < period) (hduty : duty ≤ 100) :
    (((period * duty + 50) / 100) * 100 + period / 2) / period ≤ 100 := by
  have hproduct : period * duty ≤ period * 100 := Nat.mul_le_mul_left period hduty
  rw [← Nat.lt_succ_iff, Nat.div_lt_iff_lt_mul hpos]
  omega

end Rounding

namespace Pwm

/-- `PWM_Control_Init`, with the timer's handle. -/
def State.init (pwm : State) (timerHandle : Bool) (counterClockHz : UInt32) : Result × State :=
  if timerHandle = false ∨ counterClockHz = 0 then pwm.recordResult .notInitialized
  else
    { pwm with
      counterClockHz := counterClockHz
      initialized := true
      running := false }.recordResult .ok

/-- A call of the interface. -/
inductive Call where
  | set (frequencyHz : UInt32) (dutyPercent : UInt8)
  | start (timer : TimerAnswers)
  | stop (timer : TimerAnswers)

def State.call (pwm : State) : Call → State
  | .set frequencyHz dutyPercent => (pwm.set frequencyHz dutyPercent).2
  | .start timer => (pwm.start timer).2
  | .stop timer => (pwm.stop timer).2

/-- What the timer is set to. -/
structure SameSettings (pwm pwm' : State) : Prop where
  frequency : pwm'.requestedFrequencyHz = pwm.requestedFrequencyHz
  period : pwm'.periodTicks = pwm.periodTicks
  pulse : pwm'.pulseTicks = pwm.pulseTicks
  duty : pwm'.dutyPercent = pwm.dutyPercent

/-- The settings are those of a setting that was accepted. -/
def State.Programmed (pwm : State) : Prop :=
  ∃ dutyPercent, pwm.accepts pwm.requestedFrequencyHz dutyPercent = true ∧
    SameSettings (pwm.program pwm.requestedFrequencyHz dutyPercent) pwm

variable {pwm pwm' : State} {frequencyHz : UInt32} {dutyPercent : UInt8}

/-! ## Setting again -/

theorem toNat_pulseOf (period : UInt32) (hduty : dutyPercent ≤ 100) :
    (pulseOf period dutyPercent).toNat = (period.toNat * dutyPercent.toNat + 50) / 100 := by
  have hperiod := period.toNat_lt
  have hpercent : dutyPercent.toNat ≤ 100 := UInt8.le_iff_toNat_le.1 hduty
  have hproduct : period.toNat * dutyPercent.toNat ≤ period.toNat * 100 :=
    Nat.mul_le_mul_left _ hpercent
  exact UInt32.toNat_ofNat_of_lt' (by simp only [UInt32.size]; omega)

/-- The duty a setting reports. -/
theorem toNat_duty_program (h : pwm.accepts frequencyHz dutyPercent = true) :
    (pwm.program frequencyHz dutyPercent).dutyPercent.toNat =
      ((((periodOf pwm.counterClockHz frequencyHz).toNat * dutyPercent.toNat + 50) / 100) * 100 +
        (periodOf pwm.counterClockHz frequencyHz).toNat / 2) /
          (periodOf pwm.counterClockHz frequencyHz).toNat ∧
      (pwm.program frequencyHz dutyPercent).dutyPercent.toNat ≤ 100 := by
  simp only [State.accepts, Bool.and_eq_true, decide_eq_true_eq] at h
  obtain ⟨⟨-, hduty⟩, hperiod⟩ := h
  have hpercent : dutyPercent.toNat ≤ 100 := UInt8.le_iff_toNat_le.1 hduty
  have hpos : 0 < (periodOf pwm.counterClockHz frequencyHz).toNat := UInt32.le_iff_toNat_le.1 hperiod
  have hle := percent_le hpos hpercent
  simp only [State.program]
  rw [toNat_pulseOf _ hduty, UInt8.toNat_ofNat_of_lt' (by simp only [UInt8.size]; omega)]
  exact ⟨rfl, hle⟩

/-- A setting with the duty that a setting reported is that setting, on any
state of the same timer. -/
theorem program_again (h : pwm.accepts frequencyHz dutyPercent = true)
    (hinitialized : pwm'.initialized = pwm.initialized)
    (hclock : pwm'.counterClockHz = pwm.counterClockHz) :
    pwm'.accepts frequencyHz (pwm.program frequencyHz dutyPercent).dutyPercent = true ∧
      SameSettings (pwm.program frequencyHz dutyPercent)
        (pwm'.program frequencyHz (pwm.program frequencyHz dutyPercent).dutyPercent) := by
  obtain ⟨hreported, hle⟩ := toNat_duty_program h
  set reported := (pwm.program frequencyHz dutyPercent).dutyPercent with hdef
  have hreportedLe : reported ≤ 100 := UInt8.le_iff_toNat_le.2 hle
  have hparts := h
  simp only [State.accepts, Bool.and_eq_true, decide_eq_true_eq] at hparts
  obtain ⟨⟨⟨hready, hrange⟩, hduty⟩, hperiod⟩ := hparts
  have hpos : 0 < (periodOf pwm.counterClockHz frequencyHz).toNat := UInt32.le_iff_toNat_le.1 hperiod
  have hpulse : pulseOf (periodOf pwm.counterClockHz frequencyHz) reported =
      pulseOf (periodOf pwm.counterClockHz frequencyHz) dutyPercent := by
    rw [← UInt32.toNat_inj, toNat_pulseOf _ hreportedLe, toNat_pulseOf _ hduty, hreported]
    exact pulse_again hpos
  refine ⟨?_, rfl, ?_, ?_, ?_⟩
  · simp [State.accepts, hinitialized, hclock, hready, hrange, hreportedLe, hperiod]
  · simp only [State.program, hclock]
  · simp only [State.program, hclock]
    exact hpulse
  · have hduty : (pwm'.program frequencyHz reported).dutyPercent =
        UInt8.ofNat (((pulseOf (periodOf pwm.counterClockHz frequencyHz) reported).toNat * 100 +
          (periodOf pwm.counterClockHz frequencyHz).toNat / 2) /
            (periodOf pwm.counterClockHz frequencyHz).toNat) := by
      simp only [State.program, hclock]
    rw [hduty, hpulse]
    rfl

/-- What has been programmed can be set again. -/
theorem set_programmed (h : pwm.Programmed) (hinitialized : pwm'.initialized = pwm.initialized)
    (hclock : pwm'.counterClockHz = pwm.counterClockHz) :
    (pwm'.set pwm.requestedFrequencyHz pwm.dutyPercent).1 = .ok ∧
      SameSettings pwm (pwm'.set pwm.requestedFrequencyHz pwm.dutyPercent).2 := by
  obtain ⟨dutyPercent, haccepts, hsame⟩ := h
  obtain ⟨hagain, hsettings⟩ := program_again haccepts hinitialized hclock
  rw [← hsame.duty] at hagain hsettings
  rw [set_accepted hagain]
  exact ⟨rfl, hsettings.frequency, hsettings.period.trans hsame.period.symm,
    hsettings.pulse.trans hsame.pulse.symm, hsettings.duty.trans hsame.duty.symm⟩

/-! ## Runs of the output -/

theorem SameSettings.refl (pwm : State) : SameSettings pwm pwm := ⟨rfl, rfl, rfl, rfl⟩

theorem State.Programmed.congr (h : pwm.Programmed) (hsame : SameSettings pwm pwm')
    (hinitialized : pwm'.initialized = pwm.initialized)
    (hclock : pwm'.counterClockHz = pwm.counterClockHz) : pwm'.Programmed := by
  obtain ⟨dutyPercent, haccepts, hsettings⟩ := h
  refine ⟨dutyPercent, ?_, ?_⟩
  · rw [hsame.frequency, accepts_congr hinitialized hclock]
    exact haccepts
  · rw [hsame.frequency]
    refine ⟨hsame.frequency, hsame.period.trans ?_, hsame.pulse.trans ?_, hsame.duty.trans ?_⟩
    · rw [hsettings.period]
      simp only [State.program, hclock]
    · rw [hsettings.pulse]
      simp only [State.program, hclock]
    · rw [hsettings.duty]
      simp only [State.program, hclock]

/-- A setting is made or refused; a refused one changes nothing. -/
theorem set_cases (pwm : State) (frequencyHz : UInt32) (dutyPercent : UInt8) :
    (pwm.accepts frequencyHz dutyPercent = true ∧
        (pwm.set frequencyHz dutyPercent).2 =
          ((pwm.program frequencyHz dutyPercent).recordResult .ok).2) ∨
      SameSettings pwm (pwm.set frequencyHz dutyPercent).2 := by
  by_cases haccepts : pwm.accepts frequencyHz dutyPercent = true
  · exact .inl ⟨haccepts, by rw [set_accepted haccepts]⟩
  · have hnot : (pwm.set frequencyHz dutyPercent).1 ≠ .ok := mt set_ok_iff.1 haccepts
    right
    unfold State.set at hnot ⊢
    split
    · exact ⟨rfl, rfl, rfl, rfl⟩
    next hinitialized =>
    split
    · exact ⟨rfl, rfl, rfl, rfl⟩
    next hrange =>
    split
    · exact ⟨rfl, rfl, rfl, rfl⟩
    next hduty =>
    split
    · exact ⟨rfl, rfl, rfl, rfl⟩
    next hperiod =>
    rw [if_neg hinitialized, if_neg hrange, if_neg hduty, if_neg hperiod] at hnot
    exact absurd rfl hnot

theorem start_settings (pwm : State) (timer : TimerAnswers) :
    SameSettings pwm (pwm.start timer).2 := by
  unfold State.start
  split
  · exact ⟨rfl, rfl, rfl, rfl⟩
  split
  · exact ⟨rfl, rfl, rfl, rfl⟩
  split
  · exact ⟨rfl, rfl, rfl, rfl⟩
  · exact ⟨rfl, rfl, rfl, rfl⟩

theorem stop_settings (pwm : State) (timer : TimerAnswers) :
    SameSettings pwm (pwm.stop timer).2 := by
  unfold State.stop
  split
  · exact ⟨rfl, rfl, rfl, rfl⟩
  split
  · exact ⟨rfl, rfl, rfl, rfl⟩
  split
  · exact ⟨rfl, rfl, rfl, rfl⟩
  · exact ⟨rfl, rfl, rfl, rfl⟩

/-- Where a frequency has been set, the settings are those of a setting. -/
def State.Settled (pwm : State) : Prop := pwm.requestedFrequencyHz ≠ 0 → pwm.Programmed

theorem State.Settled.congr (h : pwm.Settled) (hsame : SameSettings pwm pwm')
    (hinitialized : pwm'.initialized = pwm.initialized)
    (hclock : pwm'.counterClockHz = pwm.counterClockHz) : pwm'.Settled := by
  intro hfrequency
  rw [hsame.frequency] at hfrequency
  exact (h hfrequency).congr hsame hinitialized hclock

theorem State.Settled.call (h : pwm.Settled) (call : Call) : (pwm.call call).Settled := by
  cases call with
  | set frequencyHz dutyPercent =>
    obtain ⟨hinitialized, hclock, -⟩ := set_initialized pwm frequencyHz dutyPercent
    rcases set_cases pwm frequencyHz dutyPercent with ⟨haccepts, hset⟩ | hsame
    · intro _
      unfold State.call
      dsimp only
      rw [hset]
      exact ⟨dutyPercent, haccepts, .refl _⟩
    · exact h.congr hsame hinitialized hclock
  | start timer =>
    obtain ⟨hinitialized, hclock⟩ := start_initialized pwm timer
    exact h.congr (start_settings pwm timer) hinitialized hclock
  | stop timer =>
    obtain ⟨hinitialized, hclock⟩ := stop_initialized pwm timer
    exact h.congr (stop_settings pwm timer) hinitialized hclock

theorem init_settled (timerHandle : Bool) (counterClockHz : UInt32) :
    (State.init {} timerHandle counterClockHz).2.Settled := by
  unfold State.init
  split
  · exact fun hfrequency => absurd rfl hfrequency
  · exact fun hfrequency => absurd rfl hfrequency

/-- Every state of the output is settled. -/
theorem run_settled (timerHandle : Bool) (counterClockHz : UInt32) (calls : List Call) :
    (run State.call (State.init {} timerHandle counterClockHz).2 calls).Settled :=
  run_invariant (fun _ call h => h.call call) calls _ (init_settled timerHandle counterClockHz)

end Pwm

/-! ## Runs of the self-test -/

namespace SelfTest

open Pwm (SameSettings)

/-- The self-test, and the output that it borrows. -/
structure Bench where
  test : State
  pwm : Pwm.State

inductive Event where
  | process (capture : Capture) (now : UInt32) (answers : StepAnswers)
  | cancel (timer : TimerAnswers)

def Bench.step (bench : Bench) : Event → Bench
  | .process capture now answers =>
    let after := bench.test.process bench.pwm capture now answers
    { test := after.1, pwm := after.2 }
  | .cancel timer =>
    let after := bench.test.cancel bench.pwm timer
    { test := after.1, pwm := after.2 }

/-- The HAL does as it is told when the output is given back. -/
def Event.Restores : Event → Prop
  | .process _ _ answers => answers.restore.started = true ∧ answers.restore.stopped = true
  | .cancel timer => timer.started = true ∧ timer.stopped = true

variable {test : State} {pwm saved : Pwm.State} {timer : TimerAnswers} {bench : Bench}

/-- What the self-test holds of the output it has saved. -/
structure Borrowed (saved : Pwm.State) (bench : Bench) : Prop where
  held : bench.test.saved = saved
  initialized : bench.pwm.initialized = saved.initialized
  clock : bench.pwm.counterClockHz = saved.counterClockHz

/-- The output is as it was saved. -/
structure GivenBack (saved pwm : Pwm.State) : Prop where
  settings : SameSettings saved pwm
  running : pwm.running = saved.running

theorem restoreRunning_givenBack (hinitialized : pwm.initialized = true)
    (hstarted : timer.started = true) (hstopped : timer.stopped = true)
    (hsame : SameSettings test.saved pwm) :
    GivenBack test.saved (test.restoreRunning pwm timer).2 := by
  unfold State.restoreRunning
  dsimp only
  split
  · -- the output ran when it was saved
    next hrunning =>
    refine ⟨?_, ?_⟩
    · have hstart := Pwm.start_settings pwm timer
      exact ⟨hstart.frequency.trans hsame.frequency, hstart.period.trans hsame.period,
        hstart.pulse.trans hsame.pulse, hstart.duty.trans hsame.duty⟩
    · unfold Pwm.State.start
      rw [if_neg (by simp [hinitialized]), hrunning]
      split
      · next h => exact h
      · rw [if_neg (by simp [hstarted])]
        rfl
  · next hrunning =>
    have hsaved : test.saved.running = false := by simpa using hrunning
    refine ⟨?_, ?_⟩
    · have hstop := Pwm.stop_settings pwm timer
      exact ⟨hstop.frequency.trans hsame.frequency, hstop.period.trans hsame.period,
        hstop.pulse.trans hsame.pulse, hstop.duty.trans hsame.duty⟩
    · unfold Pwm.State.stop
      rw [if_neg (by simp [hinitialized]), hsaved]
      split
      · next h => exact h
      · rw [if_neg (by simp [hstopped])]
        rfl

/-- **The output is given back** as it was saved, from any state of the
same timer. -/
theorem restoreOutput_givenBack (hprogrammed : test.saved.Programmed)
    (hinitialized : pwm.initialized = test.saved.initialized)
    (hclock : pwm.counterClockHz = test.saved.counterClockHz)
    (hstarted : timer.started = true) (hstopped : timer.stopped = true) :
    GivenBack test.saved (test.restoreOutput pwm timer).2 := by
  obtain ⟨hok, hsame⟩ := Pwm.set_programmed hprogrammed hinitialized hclock
  obtain ⟨dutyPercent, haccepts, -⟩ := hprogrammed
  simp only [Pwm.State.accepts, Bool.and_eq_true, decide_eq_true_eq] at haccepts
  obtain ⟨⟨⟨hready, hrange⟩, -⟩, -⟩ := haccepts
  -- an accepted frequency is none of 0, so the setting is made again
  have hfrequency : test.saved.requestedFrequencyHz ≠ 0 := by
    intro hzero
    have hmin := UInt32.le_iff_toNat_le.1 hrange.1
    rw [hzero] at hmin
    exact absurd hmin (by decide)
  unfold State.restoreOutput
  rw [if_pos hfrequency]
  dsimp only
  rw [if_neg (not_not.2 hok)]
  refine restoreRunning_givenBack ?_ hstarted hstopped hsame
  rw [(Pwm.set_initialized pwm _ _).1, hinitialized, hready]

theorem applyPoint_initialized :
    (test.applyPoint pwm timer).2.initialized = pwm.initialized ∧
      (test.applyPoint pwm timer).2.counterClockHz = pwm.counterClockHz := by
  unfold State.applyPoint
  dsimp only
  split
  · exact Pwm.stop_initialized pwm timer
  obtain ⟨hinitialized, hclock, -⟩ := Pwm.set_initialized pwm
    (pointAt test.pointIndex).frequencyHz (pointAt test.pointIndex).dutyPercent
  split
  · exact ⟨hinitialized, hclock⟩
  · obtain ⟨hstart, hstartClock⟩ := Pwm.start_initialized
      (pwm.set (pointAt test.pointIndex).frequencyHz (pointAt test.pointIndex).dutyPercent).2 timer
    exact ⟨hstart.trans hinitialized, hstartClock.trans hclock⟩

theorem recordPoint_saved {capture : Capture} :
    (test.recordPoint pwm capture).saved = test.saved ∧
      (test.recordPoint pwm capture).isRunning = test.isRunning := by
  unfold State.recordPoint
  dsimp only
  split
  · exact ⟨rfl, rfl⟩
  · exact ⟨rfl, rfl⟩

/-- One step of a running test: what it has saved stays, and if the test
ends with it the output has been given back. -/
theorem step_borrowed (h : Borrowed saved bench) (event : Event) :
    Borrowed saved (bench.step event) ∧
      (bench.test.isRunning = true → (bench.step event).test.isRunning = false →
        saved.Programmed → event.Restores → GivenBack saved (bench.step event).pwm) := by
  obtain ⟨hsaved, hinitialized, hclock⟩ := h
  subst hsaved
  cases event with
  | cancel timer =>
    obtain ⟨hready, hsame⟩ := @State.cancel_initialized bench.test bench.pwm timer
    refine ⟨⟨?_, hready.trans hinitialized, hsame.trans hclock⟩, ?_⟩
    · unfold Bench.step State.cancel
      dsimp only
      split
      · rfl
      · rfl
    · intro hrunning _ hprogrammed hrestores
      unfold Bench.step State.cancel
      dsimp only
      rw [if_neg (by simp [hrunning])]
      exact restoreOutput_givenBack hprogrammed hinitialized hclock hrestores.1 hrestores.2
  | process capture now answers =>
    unfold Bench.step State.process
    dsimp only
    split
    · next hidle =>
      exact ⟨⟨rfl, hinitialized, hclock⟩, fun hrunning => absurd hrunning (by simp [hidle])⟩
    next hrunning =>
    split
    · -- a point is applied, or the test is given up
      obtain ⟨hready, hsame⟩ := @applyPoint_initialized bench.test bench.pwm answers.point
      split
      · obtain ⟨hready', hsame'⟩ := @State.restoreOutput_initialized bench.test
          (bench.test.applyPoint bench.pwm answers.point).2 answers.restore
        refine ⟨⟨rfl, hready'.trans (hready.trans hinitialized),
          hsame'.trans (hsame.trans hclock)⟩, ?_⟩
        intro _ _ hprogrammed hrestores
        exact restoreOutput_givenBack hprogrammed (hready.trans hinitialized) (hsame.trans hclock)
          hrestores.1 hrestores.2
      · refine ⟨⟨rfl, hready.trans hinitialized, hsame.trans hclock⟩, ?_⟩
        intro hwas hover
        exact absurd (hwas.symm.trans hover) (by simp)
    split
    · -- the point is still settling
      exact ⟨⟨rfl, hinitialized, hclock⟩,
        fun hwas hover => absurd (hwas.symm.trans hover) (by simp)⟩
    obtain ⟨hrecorded, hgoing⟩ := @recordPoint_saved bench.test bench.pwm capture
    split
    · -- the last point
      obtain ⟨hready, hsame⟩ := @State.restoreOutput_initialized
        { bench.test.recordPoint bench.pwm capture with
          pointIndex := (bench.test.recordPoint bench.pwm capture).pointIndex + 1 }
        bench.pwm answers.restore
      refine ⟨⟨hrecorded, hready.trans hinitialized, hsame.trans hclock⟩, ?_⟩
      intro _ _ hprogrammed hrestores
      have hgiven := @restoreOutput_givenBack
        { bench.test.recordPoint bench.pwm capture with
          pointIndex := (bench.test.recordPoint bench.pwm capture).pointIndex + 1 }
        bench.pwm answers.restore (by rw [hrecorded]; exact hprogrammed)
        (by rw [hrecorded]; exact hinitialized) (by rw [hrecorded]; exact hclock)
        hrestores.1 hrestores.2
      rw [hrecorded] at hgiven
      exact hgiven
    · refine ⟨⟨hrecorded, hinitialized, hclock⟩, ?_⟩
      intro hwas hover
      have hstill : (bench.test.recordPoint bench.pwm capture).isRunning = false := hover
      rw [hgoing, hwas] at hstill
      exact absurd hstill (by simp)

/-- What a test that starts has saved. -/
theorem start_borrowed {captureInitialized : Bool}
    (hstart : (test.start pwm captureInitialized).1 = .ok) :
    Borrowed pwm { test := (test.start pwm captureInitialized).2, pwm } := by
  unfold State.start at hstart ⊢
  split
  · next hrunning =>
    rw [if_pos hrunning] at hstart
    simp at hstart
  next hrunning =>
  rw [if_neg hrunning] at hstart
  split
  · next hrefused =>
    rw [if_pos hrefused] at hstart
    simp at hstart
  · exact ⟨rfl, rfl, rfl⟩

end SelfTest

/-- **Settings are restored exactly.** Whatever a setting that is accepted
leaves behind, setting what it reports makes again; so a self-test that
starts after any calls of the output, with a frequency set, gives back the
period, the pulse and the running state with the step in which it ends. -/
theorem settings_restored (timerHandle : Bool) (counterClockHz : UInt32) (calls : List Pwm.Call) :
    let pwm := run Pwm.State.call (Pwm.State.init {} timerHandle counterClockHz).2 calls
    (∀ frequencyHz dutyPercent, (pwm.set frequencyHz dutyPercent).1 = .ok →
      let once := (pwm.set frequencyHz dutyPercent).2
      let again := once.set once.requestedFrequencyHz once.dutyPercent
      again.1 = .ok ∧ again.2.periodTicks = once.periodTicks ∧
        again.2.pulseTicks = once.pulseTicks ∧ again.2.dutyPercent = once.dutyPercent) ∧
    ∀ (test : SelfTest.State) (captureInitialized : Bool),
      pwm.requestedFrequencyHz ≠ 0 → (test.start pwm captureInitialized).1 = .ok →
      ∀ (events : List SelfTest.Event) (last : SelfTest.Event),
        let bench := run SelfTest.Bench.step
          { test := (test.start pwm captureInitialized).2, pwm } events
        bench.test.isRunning = true → (bench.step last).test.isRunning = false → last.Restores →
        (bench.step last).pwm.periodTicks = pwm.periodTicks ∧
          (bench.step last).pwm.pulseTicks = pwm.pulseTicks ∧
          (bench.step last).pwm.running = pwm.running := by
  intro pwm
  have hsettled : pwm.Settled := Pwm.run_settled timerHandle counterClockHz calls
  refine ⟨fun frequencyHz dutyPercent hok => ?_, fun test captureInitialized hfrequency hstart => ?_⟩
  · intro once again
    have haccepts := Pwm.set_ok_iff.1 hok
    have honce : once = ((pwm.program frequencyHz dutyPercent).recordResult .ok).2 := by
      simp only [once, Pwm.set_accepted haccepts]
    have hprogrammed : once.Programmed := by
      rw [honce]
      exact ⟨dutyPercent, haccepts, .refl _⟩
    obtain ⟨hagain, hsame⟩ := @Pwm.set_programmed _ once hprogrammed rfl rfl
    exact ⟨hagain, hsame.period, hsame.pulse, hsame.duty⟩
  · intro events last bench hrunning hover hrestores
    have hborrowed : SelfTest.Borrowed pwm bench :=
      @run_invariant _ _ SelfTest.Bench.step (SelfTest.Borrowed pwm)
        (fun _ event h => (SelfTest.step_borrowed h event).1) events _ (SelfTest.start_borrowed hstart)
    obtain ⟨hsettings, hstate⟩ := (SelfTest.step_borrowed hborrowed last).2 hrunning hover
      (hsettled hfrequency) hrestores
    exact ⟨hsettings.period, hsettings.pulse, hstate⟩

/-- A running output of three counts a period, borrowed and given back. -/
theorem settings_restored_cancelled :
    let pwm := run Pwm.State.call (Pwm.State.init {} true 1000000).2 [.set 300000 40, .start {}]
    let bench := run SelfTest.Bench.step
      { test := (SelfTest.State.start {} pwm true).2, pwm } [.process {} 0 {}]
    bench.pwm.periodTicks = 1000 ∧
      (bench.step (.cancel {})).pwm.periodTicks = pwm.periodTicks ∧
      (bench.step (.cancel {})).pwm.pulseTicks = pwm.pulseTicks ∧
      (bench.step (.cancel {})).pwm.running = pwm.running :=
  ⟨by decide, (settings_restored true 1000000 [.set 300000 40, .start {}]).2 {} true (by decide)
    (by decide) [.process {} 0 {}] (.cancel {}) (by decide) (by decide) ⟨rfl, rfl⟩⟩

end Control

end CanGui
