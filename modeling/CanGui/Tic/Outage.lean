import CanGui.Tic.Freshness
/-!
# TIC12400 — the schedule of the recovery

Monitoring is off exactly while an attempt to initialise is scheduled. The
delay of the attempts starts anew with each offline event, doubles with
each attempt that fails, up to a limit, and no attempt is made before it
is over.
-/

namespace CanGui

namespace Tic

variable {machine machine' : Machine}

theorem succ_ne_self (n : UInt32) : n + 1 ≠ n := by
  intro h
  have hnat : (n.toNat + 1) % 2 ^ 32 = n.toNat := congrArg UInt32.toNat h
  have hbound := n.toNat_lt
  omega

namespace RecoveryState

/-! ## What is recorded -/

/-- The delay after `failures` attempts that failed. -/
def delayAfter (failures : Nat) : Nat :=
  min (recoveryInitialDelayMs.toNat * 2 ^ failures) recoveryMaxDelayMs.toNat

/-- An attempt that fails doubles the delay, up to the limit. -/
theorem recordReinitializationResult_failed (state : RecoveryState) (now : UInt32) {failures : Nat}
    (hdelay : state.retryDelayMs.toNat = delayAfter failures) :
    ∃ delay : UInt32, delay.toNat = delayAfter (failures + 1) ∧
      state.recordReinitializationResult now false =
        schedule { state with
          reinitializationAttempts := state.reinitializationAttempts + 1 } now delay := by
  refine ⟨_, ?_, rfl⟩
  have hmax : recoveryMaxDelayMs.toNat = 8000 := rfl
  have hinitial : recoveryInitialDelayMs.toNat = 500 := rfl
  have hpower : 1 ≤ 2 ^ failures := Nat.one_le_two_pow
  have hsucc : 2 ^ (failures + 1) = 2 ^ failures * 2 := Nat.pow_succ 2 failures
  have hdouble : (state.retryDelayMs * 2).toNat = state.retryDelayMs.toNat * 2 := by
    rw [UInt32.toNat_mul]
    refine Nat.mod_eq_of_lt ?_
    rw [hdelay, delayAfter, hmax]
    change _ * 2 < _
    omega
  simp only [delayAfter, hmax, hinitial] at hdelay ⊢
  have hnot : ¬state.retryDelayMs < recoveryInitialDelayMs := by
    rw [UInt32.lt_iff_toNat_lt, hinitial]
    omega
  rw [if_neg hnot]
  simp only [UInt32.lt_iff_toNat_lt, hdouble, hmax, gt_iff_lt]
  split
  · split
    · rw [hmax]
      omega
    · rw [hdouble]
      omega
  · omega

end RecoveryState

/-! ## Runs in time -/

/-- A call reads the clock at times that do not go back; what it reads is a
time modulo `2 ^ 32`. -/
inductive Occurrence where
  | process (times : Nat → Nat) (answers : List Answer)
  | setBatterySwitchMask (mask : UInt32) (times : Nat → Nat) (answers : List Answer)
  | interrupt
  | change (inputs : UInt32)

def Occurrence.event : Occurrence → Event
  | process times answers => .process (fun n => (times n).toUInt32) answers
  | setBatterySwitchMask mask times answers =>
    .setBatterySwitchMask mask (fun n => (times n).toUInt32) answers
  | interrupt => .interrupt
  | change inputs => .change inputs

/-- The probe in time, and since the last offline event: when the next
attempt was scheduled, and how many failed. -/
structure Outage where
  machine : Machine
  now : Nat
  scheduledAt : Nat
  failedAttempts : Nat := 0

/-- An offline event is counted. -/
def WentOffline (machine machine' : Machine) : Prop :=
  machine'.recovery.offlineEvents ≠ machine.recovery.offlineEvents

/-- An attempt to initialise is counted. -/
def MadeAttempt (machine machine' : Machine) : Prop :=
  machine'.recovery.reinitializationAttempts ≠ machine.recovery.reinitializationAttempts

instance (machine machine' : Machine) : Decidable (WentOffline machine machine') :=
  inferInstanceAs (Decidable (_ ≠ _))

instance (machine machine' : Machine) : Decidable (MadeAttempt machine machine') :=
  inferInstanceAs (Decidable (_ ≠ _))

namespace Outage

/-- A call at these times: an offline event is scheduled with one of the
clock's readings, a failed attempt with the last. -/
def call (outage : Outage) (machine' : Machine) (times : Nat → Nat) (reading : Nat) : Outage :=
  let outage' := { outage with machine := machine', now := times 2 }
  if WentOffline outage.machine machine' then
    { outage' with scheduledAt := times reading, failedAttempts := 0 }
  else if MadeAttempt outage.machine machine' ∧
      machine'.recovery.reinitializationPending = true then
    { outage' with scheduledAt := times 2, failedAttempts := outage.failedAttempts + 1 }
  else outage'

theorem call_machine (outage : Outage) (machine' : Machine) (times : Nat → Nat)
    (reading : Nat) : (outage.call machine' times reading).machine = machine' := by
  unfold call
  dsimp only
  split
  · rfl
  split
  · rfl
  · rfl

def step (outage : Outage) (occurrence : Occurrence) : Outage :=
  let machine' := probeStep outage.machine occurrence.event
  match occurrence with
  | .process times _ => outage.call machine' times 0
  | .setBatterySwitchMask _ times _ => outage.call machine' times 1
  | .interrupt | .change _ => { outage with machine := machine' }

/-- The start at these times. -/
def start (device : Device) (answers : List Answer) (times : Nat → Nat) : Outage where
  machine := probeInit device answers true fun n => (times n).toUInt32
  now := times 2
  scheduledAt := times 2

/-- The clock does not go back. -/
def Forward (outage : Outage) : Occurrence → Prop
  | .process times _ | .setBatterySwitchMask _ times _ =>
    outage.now ≤ times 0 ∧ times 0 ≤ times 1 ∧ times 1 ≤ times 2
  | _ => True

instance (outage : Outage) (occurrence : Occurrence) : Decidable (outage.Forward occurrence) :=
  match occurrence with
  | .process _ _ | .setBatterySwitchMask _ _ _ => inferInstanceAs (Decidable (_ ∧ _ ∧ _))
  | .interrupt | .change _ => inferInstanceAs (Decidable True)

/-- Monitoring is on, or an attempt is scheduled. -/
structure OnSchedule (outage : Outage) : Prop where
  ready : outage.machine.peripheralReady = true
  pending : outage.machine.recovery.reinitializationPending =
    !outage.machine.snapshot.monitoringStarted
  tick : outage.machine.recovery.reinitializationPending = true →
    outage.machine.recovery.retryStartedTick = outage.scheduledAt.toUInt32
  delay : outage.machine.recovery.reinitializationPending = true →
    outage.machine.recovery.retryDelayMs.toNat = RecoveryState.delayAfter outage.failedAttempts
  past : outage.scheduledAt ≤ outage.now

variable {outage : Outage} {times : Nat → Nat} {answers : List Answer}

/-- A call that leaves the schedule. -/
theorem OnSchedule.left (h : outage.OnSchedule) {machine' : Machine} {reading : Nat}
    (hready : machine'.peripheralReady = outage.machine.peripheralReady)
    (hschedule : ∃ failures, machine'.recovery =
      { outage.machine.recovery with consecutiveFailures := failures })
    (hstarted : machine'.snapshot.monitoringStarted = outage.machine.snapshot.monitoringStarted)
    (hnow : outage.now ≤ times 2) : (outage.call machine' times reading).OnSchedule := by
  obtain ⟨failures, hrecovery⟩ := hschedule
  have hcall : outage.call machine' times reading =
      { outage with machine := machine', now := times 2 } := by
    unfold call
    dsimp only
    rw [if_neg (by simp [WentOffline, hrecovery]), if_neg (by simp [MadeAttempt, hrecovery])]
  rw [hcall]
  exact {
    ready := hready.trans h.ready
    pending := by
      rw [hrecovery, hstarted]
      exact h.pending
    tick := by
      rw [hrecovery]
      exact h.tick
    delay := by
      rw [hrecovery]
      exact h.delay
    past := h.past.trans hnow }

/-- A call after which the device is offline. -/
theorem onSchedule_offline {machine' : Machine} {reading : Nat} {recovery : RecoveryState}
    (hready : machine'.peripheralReady = true)
    (hevents : recovery.offlineEvents = outage.machine.recovery.offlineEvents + 1)
    (hrecovery : machine'.recovery =
      recovery.schedule (times reading).toUInt32 recoveryInitialDelayMs)
    (hstarted : machine'.snapshot.monitoringStarted = false)
    (hnow : times reading ≤ times 2) : (outage.call machine' times reading).OnSchedule := by
  have hcounted : WentOffline outage.machine machine' := by
    unfold WentOffline
    rw [hrecovery]
    change recovery.offlineEvents ≠ _
    rw [hevents]
    exact succ_ne_self _
  unfold call
  dsimp only
  rw [if_pos hcounted]
  exact {
    ready := hready
    pending := by
      rw [hrecovery, hstarted]
      rfl
    tick := by
      rw [hrecovery]
      exact fun _ => rfl
    delay := by
      rw [hrecovery]
      exact fun _ => rfl
    past := hnow }

/-- A call after which monitoring is on. -/
theorem OnSchedule.restarted (h : outage.OnSchedule) {machine' : Machine} {reading : Nat}
    (hready : machine'.peripheralReady = true)
    (hevents : machine'.recovery.offlineEvents = outage.machine.recovery.offlineEvents)
    (hpending : machine'.recovery.reinitializationPending = false)
    (hstarted : machine'.snapshot.monitoringStarted = true)
    (hnow : outage.now ≤ times 2) : (outage.call machine' times reading).OnSchedule := by
  have hcall : outage.call machine' times reading =
      { outage with machine := machine', now := times 2 } := by
    have hsame : ¬WentOffline outage.machine machine' := not_not_intro hevents
    unfold call
    dsimp only
    rw [if_neg hsame,
      if_neg fun hfailed => absurd (hpending.symm.trans hfailed.2) Bool.false_ne_true]
  rw [hcall]
  exact {
    ready := hready
    pending := hpending.trans (congrArg not hstarted).symm
    tick := fun hpending' => absurd (hpending.symm.trans hpending') Bool.false_ne_true
    delay := fun hpending' => absurd (hpending.symm.trans hpending') Bool.false_ne_true
    past := h.past.trans hnow }

/-- A call whose attempt fails. -/
theorem onSchedule_failed {machine' : Machine} {reading : Nat} {delay : UInt32}
    (hready : machine'.peripheralReady = true)
    (hdelay : delay.toNat = RecoveryState.delayAfter (outage.failedAttempts + 1))
    (hrecovery : machine'.recovery = RecoveryState.schedule { outage.machine.recovery with
      reinitializationAttempts := outage.machine.recovery.reinitializationAttempts + 1 }
      (times 2).toUInt32 delay)
    (hstarted : machine'.snapshot.monitoringStarted = false) :
    (outage.call machine' times reading).OnSchedule := by
  have hsame : ¬WentOffline outage.machine machine' := by
    unfold WentOffline
    rw [hrecovery]
    exact not_not_intro rfl
  have hmade : MadeAttempt outage.machine machine' := by
    unfold MadeAttempt
    rw [hrecovery]
    exact succ_ne_self _
  have hpending : machine'.recovery.reinitializationPending = true := by
    rw [hrecovery]
    rfl
  unfold call
  dsimp only
  rw [if_neg hsame, if_pos ⟨hmade, hpending⟩]
  exact {
    ready := hready
    pending := hpending.trans (congrArg not hstarted).symm
    tick := by
      rw [hrecovery]
      exact fun _ => rfl
    delay := by
      rw [hrecovery]
      exact fun _ => hdelay
    past := Nat.le_refl _ }

/-! ## What each call does to the schedule -/

/-- With monitoring off, an attempt is made when it is due. -/
theorem OnSchedule.processOffline (h : outage.OnSchedule)
    (hoff : outage.machine.snapshot.monitoringStarted = false) (hnow : outage.now ≤ times 2) :
    (outage.call (Tic.processOffline { outage.machine with answers }
      fun n => (times n).toUInt32) times 0).OnSchedule := by
  have houtcome := processOffline_outcome { outage.machine with answers }
    fun n => (times n).toUInt32
  generalize Tic.processOffline { outage.machine with answers }
    (fun n => (times n).toUInt32) = after at *
  cases houtcome with
  | waits hnot => exact h.left rfl ⟨_, rfl⟩ rfl hnow
  | attempted succeeded hdue hrecovery hready hstarted hrequested hmask =>
    have hready' : after.peripheralReady = true := hready.trans h.ready
    have hpending : outage.machine.recovery.reinitializationPending = true :=
      h.pending.trans (congrArg not hoff)
    cases succeeded with
    | true =>
      exact h.restarted hready' (by rw [hrecovery]; rfl) (by rw [hrecovery]; rfl) hstarted hnow
    | false =>
      obtain ⟨delay, hdelay, hrecorded⟩ :=
        outage.machine.recovery.recordReinitializationResult_failed (times 2).toUInt32
          (h.delay hpending)
      exact onSchedule_failed hready' hdelay (hrecovery.trans hrecorded) hstarted

/-- With monitoring on, the third service in a row that fails takes the
device offline. -/
theorem OnSchedule.processService (h : outage.OnSchedule)
    (hforward : outage.now ≤ times 2 ∧ times 0 ≤ times 2) :
    (outage.call (Tic.processService { outage.machine with answers } (times 0).toUInt32)
      times 0).OnSchedule := by
  have houtcome := processService_outcome { outage.machine with answers } (times 0).toUInt32
  obtain ⟨failures, ⟨hleft, hstarted⟩ | ⟨hoffline, hstarted⟩⟩ := houtcome.recovery
  · exact h.left houtcome.ready ⟨failures, hleft⟩ hstarted hforward.1
  · exact onSchedule_offline (houtcome.ready.trans h.ready) rfl hoffline hstarted hforward.2

/-- A change of the polarity that fails takes the device offline, also when
it is offline already. -/
theorem OnSchedule.setBatterySwitchMask (h : outage.OnSchedule) (mask : UInt32)
    (hforward : outage.now ≤ times 2 ∧ times 1 ≤ times 2) :
    (outage.call (Tic.setBatterySwitchMask { outage.machine with answers } mask
      fun n => (times n).toUInt32).2 times 1).OnSchedule := by
  have houtcome := setBatterySwitchMask_outcome { outage.machine with answers } mask
    fun n => (times n).toUInt32
  generalize Tic.setBatterySwitchMask { outage.machine with answers } mask
    (fun n => (times n).toUInt32) = answered at *
  cases houtcome with
  | refused hnot => exact h.left rfl ⟨_, rfl⟩ rfl hforward.1
  | same hchecked hrequested => exact h.left rfl ⟨_, rfl⟩ rfl hforward.1
  | configured succeeded hchecked hrecovery hready hstarted hrequested hmask =>
    cases succeeded with
    | true =>
      exact h.restarted hready (by rw [hrecovery]; rfl) (by rw [hrecovery]; rfl) hstarted
        hforward.1
    | false => exact onSchedule_offline hready rfl hrecovery hstarted hforward.2

theorem onSchedule_step (outage : Outage) (occurrence : Occurrence)
    (hforward : outage.Forward occurrence) (h : outage.OnSchedule) :
    (outage.step occurrence).OnSchedule := by
  cases occurrence with
  | interrupt => exact ⟨h.ready, h.pending, h.tick, h.delay, h.past⟩
  | change inputs => exact ⟨h.ready, h.pending, h.tick, h.delay, h.past⟩
  | setBatterySwitchMask mask times answers =>
    obtain ⟨hfirst, hsecond, hthird⟩ := hforward
    exact h.setBatterySwitchMask mask ⟨by omega, hthird⟩
  | process times answers =>
    obtain ⟨hfirst, hsecond, hthird⟩ := hforward
    unfold step Occurrence.event probeStep probeProcess
    dsimp only
    rw [if_neg (by simp [h.ready])]
    split
    next hoff => exact h.processOffline (by simpa using hoff) (by omega)
    · exact h.processService ⟨by omega, by omega⟩

theorem onSchedule_start (device : Device) (answers : List Answer) (times : Nat → Nat) :
    (start device answers times).OnSchedule := by
  have hattempted := attemptInitialize_attempted
    { lastServiceTick := (times 0).toUInt32, peripheralReady := true, device, answers }
    (times 1).toUInt32
  unfold start probeInit
  dsimp only
  rw [if_neg (by decide)]
  generalize attemptInitialize
    { lastServiceTick := (times 0).toUInt32, peripheralReady := true, device, answers }
    (times 1).toUInt32 = attempt at *
  obtain ⟨succeeded, attempt⟩ := attempt
  cases succeeded with
  | true =>
    exact ⟨hattempted.ready, (congrArg not hattempted.started).symm, nofun, nofun,
      Nat.le_refl _⟩
  | false => exact ⟨hattempted.ready, rfl, fun _ => rfl, fun _ => rfl, Nat.le_refl _⟩

end Outage

/-! ## When an attempt is made -/

theorem setBatterySwitchMask_attempts (machine : Machine) (mask : UInt32)
    (ticks : Nat → UInt32) :
    (setBatterySwitchMask machine mask ticks).2.recovery.reinitializationAttempts =
      machine.recovery.reinitializationAttempts := by
  have houtcome := setBatterySwitchMask_outcome machine mask ticks
  generalize setBatterySwitchMask machine mask ticks = answered at *
  cases houtcome with
  | refused hnot => rfl
  | same hchecked hrequested => rfl
  | configured succeeded hchecked hrecovery hready hstarted hrequested hmask =>
    dsimp only
    rw [hrecovery]
    cases succeeded <;> rfl

theorem processService_attempts (machine : Machine) (now : UInt32) :
    (processService machine now).recovery.reinitializationAttempts =
      machine.recovery.reinitializationAttempts := by
  obtain ⟨failures, ⟨hleft, -⟩ | ⟨hoffline, -⟩⟩ := (processService_outcome machine now).recovery
  · rw [hleft]
  · rw [hoffline]
    rfl

/-- An attempt is made by a call of Process that finds it due. -/
theorem MadeAttempt.due {event : Event} (h : MadeAttempt machine (probeStep machine event)) :
    ∃ ticks answers, event = .process ticks answers ∧ machine.peripheralReady = true ∧
      machine.snapshot.monitoringStarted = false ∧
      machine.recovery.shouldReinitialize (ticks 0) = true := by
  cases event with
  | interrupt => exact absurd rfl h
  | change inputs => exact absurd rfl h
  | setBatterySwitchMask mask ticks answers =>
    exact absurd (setBatterySwitchMask_attempts { machine with answers } mask ticks) h
  | process ticks answers =>
    change MadeAttempt machine (probeProcess { machine with answers } ticks) at h
    unfold MadeAttempt probeProcess at h
    split at h
    · exact absurd rfl h
    next hready =>
    split at h
    next hoff =>
      unfold processOffline at h
      split at h
      · exact absurd rfl h
      next hdue =>
        simp only [Bool.not_eq_true', Bool.not_eq_false] at hready hoff hdue
        exact ⟨ticks, answers, rfl, hready, hoff, hdue⟩
    · exact absurd (processService_attempts { machine with answers } (ticks 0)) h

/-- The clock's difference is the time that is over, modulo `2 ^ 32`. -/
theorem RecoveryState.shouldReinitialize_elapsed {state : RecoveryState} {scheduledAt now : Nat}
    (htick : state.retryStartedTick = scheduledAt.toUInt32) (hpast : scheduledAt ≤ now)
    (hdue : state.shouldReinitialize now.toUInt32 = true) :
    scheduledAt + state.retryDelayMs.toNat ≤ now := by
  unfold shouldReinitialize at hdue
  simp only [Bool.and_eq_true, decide_eq_true_eq, ge_iff_le, htick, UInt32.le_iff_toNat_le,
    UInt32.toNat_sub] at hdue
  have helapsed : (2 ^ 32 - scheduledAt.toUInt32.toNat + now.toUInt32.toNat) % 2 ^ 32 =
      (now - scheduledAt) % 2 ^ 32 := by
    change (2 ^ 32 - scheduledAt % 2 ^ 32 + now % 2 ^ 32) % 2 ^ 32 = _
    omega
  -- a wrapped difference is less than the time that is over
  have hmod := Nat.mod_le (now - scheduledAt) (2 ^ 32)
  omega

/-- Monitoring and the recovery agree, the delay is that of the failed
attempts, and no attempt is made before it is over. -/
structure Outage.Scheduled (outage : Outage) : Prop where
  agrees : outage.machine.snapshot.monitoringStarted = false ↔
    outage.machine.recovery.reinitializationPending = true
  delay : outage.machine.recovery.reinitializationPending = true →
    outage.machine.recovery.retryDelayMs.toNat =
      min (recoveryInitialDelayMs.toNat * 2 ^ outage.failedAttempts) recoveryMaxDelayMs.toNat
  waits : ∀ occurrence, outage.Forward occurrence →
    MadeAttempt outage.machine (outage.step occurrence).machine →
    ∃ times answers, occurrence = .process times answers ∧
      outage.scheduledAt + outage.machine.recovery.retryDelayMs.toNat ≤ times 0

theorem Outage.OnSchedule.scheduled {outage : Outage} (h : outage.OnSchedule) :
    outage.Scheduled where
  agrees := by
    rw [h.pending, Bool.not_eq_true']
  delay := h.delay
  waits occurrence hforward hmade := by
    have hstep : (outage.step occurrence).machine =
        probeStep outage.machine occurrence.event := by
      cases occurrence with
      | process times answers => exact call_machine ..
      | setBatterySwitchMask mask times answers => exact call_machine ..
      | interrupt => rfl
      | change inputs => rfl
    rw [hstep] at hmade
    obtain ⟨ticks, answers, hevent, -, hoff, hdue⟩ := hmade.due
    cases occurrence with
    | process times answers' =>
      obtain ⟨rfl, rfl⟩ := Event.process.inj hevent
      refine ⟨times, answers', rfl, RecoveryState.shouldReinitialize_elapsed ?_ ?_ hdue⟩
      · exact h.tick (h.pending.trans (congrArg not hoff))
      · exact h.past.trans hforward.1
    | setBatterySwitchMask mask times answers => nomatch hevent
    | interrupt => nomatch hevent
    | change inputs => nomatch hevent

/-- **The recovery keeps its schedule**, in every state of a run from a
start with the peripheral ready. -/
theorem recovery_onSchedule (device : Device) (answers : List Answer) (times : Nat → Nat)
    (occurrences : List Occurrence)
    (hforward : Along Outage.step Outage.Forward (Outage.start device answers times) occurrences) :
    (run Outage.step (Outage.start device answers times) occurrences).Scheduled :=
  (run_invariant_along Outage.onSchedule_step occurrences _ hforward
    (Outage.onSchedule_start device answers times)).scheduled

/-! ## A change of the polarity while the device is offline -/

/-- The start fails, and the first attempt half a second later. -/
def failedTwice : List Occurrence := [.process (fun _ => 500) []]

theorem recovery_onSchedule_failedTwice :
    (run Outage.step (Outage.start {} [] fun _ => 0) failedTwice).Scheduled :=
  recovery_onSchedule {} [] (fun _ => 0) failedTwice (by decide)

/-- The delay of an outage goes back to the first when a change of the
polarity fails. -/
theorem setBatterySwitchMask_restartsDelay :
    ¬∀ (device : Device) (answers : List Answer) (times : Nat → Nat)
        (occurrences : List Occurrence) (occurrence : Occurrence),
      Along Outage.step Outage.Forward (Outage.start device answers times)
        (occurrences ++ [occurrence]) →
      let before := run Outage.step (Outage.start device answers times) occurrences
      let after := before.step occurrence
      before.machine.snapshot.monitoringStarted = false →
      after.machine.snapshot.monitoringStarted = false →
      after.machine.recovery.retryDelayMs = before.machine.recovery.retryDelayMs ∨
        after.machine.recovery.retryDelayMs.toNat =
          min (2 * before.machine.recovery.retryDelayMs.toNat) recoveryMaxDelayMs.toNat := by
  intro h
  have hafter := h {} [] (fun _ => 0) failedTwice (.setBatterySwitchMask 1 (fun _ => 600) [])
    (by decide)
  revert hafter
  decide +kernel

end Tic

end CanGui
