import CanGui.Tic.Outage
/-!
# TIC12400 — the polarity that is in force

A change of the polarity is a request that is kept: the device is configured
with it at once, and by the recovery when that fails. So the polarity in
force is that of the last request that passed the checks. It is the one
that was accepted last unless that request failed.
-/

namespace CanGui

namespace Tic

variable {machine machine' : Machine} {mask : UInt32}

/-- The probe with what was asked of it and answered: the last polarity
that passed the checks, whether its call returned 0, the polarity of the
last call that returned 1, and those for which a call returned 0 and none
returned 1 since. -/
structure PolarityHistory where
  machine : Machine
  requested : UInt32 := 0
  failed : Bool := false
  accepted : UInt32 := 0
  refused : List UInt32 := []

namespace PolarityHistory

/-- A call is answered. -/
def answered (history : PolarityHistory) (mask : UInt32) (succeeded : Bool) (machine' : Machine) :
    PolarityHistory :=
  let history' :=
    if PassesChecks history.machine mask then
      { history with machine := machine', requested := mask, failed := !succeeded }
    else
      { history with machine := machine' }
  if succeeded then
    { history' with accepted := mask, refused := history.refused.filter (· ≠ mask) }
  else
    { history' with refused := mask :: history.refused }

def step (history : PolarityHistory) : Event → PolarityHistory
  | .setBatterySwitchMask mask ticks answers =>
    let (succeeded, machine') :=
      setBatterySwitchMask { history.machine with answers } mask ticks
    history.answered mask succeeded machine'
  | event => { history with machine := probeStep history.machine event }

def start (device : Device) (answers : List Answer) (peripheralReady : Bool)
    (ticks : Nat → UInt32) : PolarityHistory where
  machine := probeInit device answers peripheralReady ticks

/-- The polarity that the device is configured with. -/
def inForce (history : PolarityHistory) : UInt32 := history.machine.activeProfile.batterySwitchMask

/-- The last polarity that was accepted is in force, and not one that was
refused. -/
def AcceptedInForce (history : PolarityHistory) : Prop :=
  history.inForce = history.accepted ∧ history.inForce ∉ history.refused

instance (history : PolarityHistory) : Decidable history.AcceptedInForce :=
  inferInstanceAs (Decidable (_ ∧ _))

/-- The device is configured with the polarity that is requested; it was
accepted, or the last request failed. -/
structure Inv (history : PolarityHistory) : Prop where
  inForce : history.inForce = history.requested
  requested : history.machine.requestedBatterySwitchMask = history.requested
  valid : Profile.validate { carrierBinary with batterySwitchMask := history.requested }
    profileCarrierFittedMask = .ok
  off : history.machine.peripheralReady = false → history.machine.snapshot.monitoringStarted = false
  accepted : history.machine.peripheralReady = true → history.failed = false →
    history.requested = history.accepted ∧ history.requested ∉ history.refused
  refused : history.failed = true → history.requested ∈ history.refused

variable {history : PolarityHistory}

/-- A step that asks nothing. -/
theorem Inv.left (h : history.Inv)
    (hactive : machine'.activeProfile.batterySwitchMask =
      history.machine.requestedBatterySwitchMask)
    (hrequested : machine'.requestedBatterySwitchMask = history.machine.requestedBatterySwitchMask)
    (hready : machine'.peripheralReady = history.machine.peripheralReady)
    (hoff : machine'.peripheralReady = false → machine'.snapshot.monitoringStarted = false) :
    Inv { history with machine := machine' } where
  inForce := hactive.trans h.requested
  requested := hrequested.trans h.requested
  valid := h.valid
  off := hoff
  accepted hready' := h.accepted (hready.symm.trans hready')
  refused := h.refused

theorem Inv.active (h : history.Inv) :
    history.machine.activeProfile.batterySwitchMask =
      history.machine.requestedBatterySwitchMask := h.inForce.trans h.requested.symm

/-- A polarity in force was accepted last, exactly if its request did not
fail. -/
theorem Inv.acceptedInForce_iff (h : history.Inv)
    (hready : history.machine.peripheralReady = true) :
    history.AcceptedInForce ↔ history.failed = false := by
  unfold AcceptedInForce
  rw [h.inForce]
  constructor
  · intro haccepted
    refine Bool.eq_false_of_not_eq_true fun hfailed => ?_
    exact haccepted.2 (h.refused hfailed)
  · exact h.accepted hready

/-! ## Calls of Process -/

/-- An attempt to initialise configures the polarity that is requested, if
it comes to that. -/
theorem processOffline_polarity (ticks : Nat → UInt32)
    (hactive : machine.activeProfile.batterySwitchMask = machine.requestedBatterySwitchMask) :
    (Tic.processOffline machine ticks).activeProfile.batterySwitchMask =
        machine.requestedBatterySwitchMask ∧
      (Tic.processOffline machine ticks).requestedBatterySwitchMask =
        machine.requestedBatterySwitchMask ∧
      (Tic.processOffline machine ticks).peripheralReady = machine.peripheralReady := by
  have houtcome := processOffline_outcome machine ticks
  generalize Tic.processOffline machine ticks = after at *
  cases houtcome with
  | waits hnot => exact ⟨hactive, rfl, rfl⟩
  | attempted succeeded hdue hrecovery hready hstarted hrequested hmask =>
    exact ⟨hmask hactive, hrequested, hready⟩

theorem Inv.process (h : history.Inv) (ticks : Nat → UInt32) (answers : List Answer) :
    (history.step (.process ticks answers)).Inv := by
  change Inv { history with machine := probeProcess { history.machine with answers } ticks }
  unfold probeProcess
  split
  · exact h.left h.active rfl rfl h.off
  next hready =>
  have hready : history.machine.peripheralReady = true := by simpa using hready
  split
  · obtain ⟨hactive, hrequested, hsame⟩ :=
      @processOffline_polarity { history.machine with answers } ticks h.active
    refine h.left hactive hrequested hsame fun hnot => ?_
    exact absurd (hnot.symm.trans (hsame.trans hready)) Bool.false_ne_true
  · have houtcome := processService_outcome { history.machine with answers } (ticks 0)
    refine h.left ((congrArg Profile.batterySwitchMask houtcome.profile).trans h.active)
      houtcome.requested houtcome.ready fun hnot => ?_
    exact absurd (hnot.symm.trans (houtcome.ready.trans hready)) Bool.false_ne_true

/-! ## Calls that change the polarity -/

/-- The checks refuse another polarity than the requested one, which is
valid. -/
theorem Inv.refusedByChecks (h : history.Inv) {answers : List Answer}
    (hrefuses : ¬PassesChecks history.machine mask) :
    (history.answered mask false { history.machine with answers }).Inv := by
  unfold answered
  rw [if_neg hrefuses]
  exact {
    inForce := h.inForce
    requested := h.requested
    valid := h.valid
    off := h.off
    accepted := fun hready hfailed => by
      obtain ⟨haccepted, hkept⟩ := h.accepted hready hfailed
      -- the checks would accept the requested polarity, so it is another one
      refine ⟨haccepted, fun hmem => ?_⟩
      cases List.mem_cons.1 hmem with
      | inl hsame => exact hrefuses ⟨hready, hsame ▸ h.valid⟩
      | inr hearlier => exact hkept hearlier
    refused := fun hfailed => List.mem_cons_of_mem _ (h.refused hfailed) }

/-- A request is answered, and the device is configured with it or
offline. -/
theorem inv_answered {succeeded : Bool} (hchecked : PassesChecks history.machine mask)
    (hactive : machine'.activeProfile.batterySwitchMask = mask)
    (hrequested : machine'.requestedBatterySwitchMask = mask)
    (hready : machine'.peripheralReady = true) :
    (history.answered mask succeeded machine').Inv := by
  unfold answered
  rw [if_pos hchecked]
  have hoff : machine'.peripheralReady = false → machine'.snapshot.monitoringStarted = false :=
    fun hnot => absurd (hnot.symm.trans hready) Bool.false_ne_true
  cases succeeded with
  | true =>
    refine ⟨hactive, hrequested, hchecked.2, hoff, fun _ _ => ⟨rfl, ?_⟩, nofun⟩
    change mask ∉ history.refused.filter (· ≠ mask)
    simp
  | false => exact ⟨hactive, hrequested, hchecked.2, hoff, nofun, fun _ => List.mem_cons_self⟩

theorem Inv.setBatterySwitchMask (h : history.Inv) (mask : UInt32) (ticks : Nat → UInt32)
    (answers : List Answer) : (history.step (.setBatterySwitchMask mask ticks answers)).Inv := by
  have houtcome := setBatterySwitchMask_outcome { history.machine with answers } mask ticks
  change (history.answered mask
    (Tic.setBatterySwitchMask { history.machine with answers } mask ticks).1
    (Tic.setBatterySwitchMask { history.machine with answers } mask ticks).2).Inv
  generalize Tic.setBatterySwitchMask { history.machine with answers } mask ticks = outcome at *
  cases houtcome with
  | refused hnot => exact h.refusedByChecks hnot
  | same hchecked hrequested =>
    exact inv_answered hchecked (h.active.trans hrequested.symm) hrequested.symm hchecked.1
  | configured succeeded hchecked hrecovery hready hstarted hrequested hmask =>
    exact inv_answered hchecked hmask hrequested hready

/-! ## Every run -/

theorem inv_step (history : PolarityHistory) (event : Event) (h : history.Inv) :
    (history.step event).Inv := by
  cases event with
  | interrupt => exact h.left h.active rfl rfl h.off
  | change inputs => exact h.left h.active rfl rfl h.off
  | setBatterySwitchMask mask ticks answers => exact h.setBatterySwitchMask mask ticks answers
  | process ticks answers => exact h.process ticks answers

/-- Nothing is requested at the start. -/
theorem inv_initial (hactive : machine'.activeProfile.batterySwitchMask = 0)
    (hrequested : machine'.requestedBatterySwitchMask = 0)
    (hoff : machine'.peripheralReady = false → machine'.snapshot.monitoringStarted = false) :
    Inv { machine := machine' } where
  inForce := hactive
  requested := hrequested
  valid := by
    change Profile.validate { carrierBinary with batterySwitchMask := 0 } _ = _
    decide
  off := hoff
  accepted _ _ := ⟨rfl, List.not_mem_nil⟩
  refused := nofun

theorem inv_start (device : Device) (answers : List Answer) (peripheralReady : Bool)
    (ticks : Nat → UInt32) : (start device answers peripheralReady ticks).Inv := by
  unfold start probeInit
  dsimp only
  cases peripheralReady with
  | false => exact inv_initial rfl rfl fun _ => rfl
  | true =>
    rw [if_neg (by decide)]
    have hattempted := attemptInitialize_attempted
      { lastServiceTick := ticks 0, peripheralReady := true, device, answers } (ticks 1)
    generalize attemptInitialize
      { lastServiceTick := ticks 0, peripheralReady := true, device, answers } (ticks 1) =
      attempt at *
    obtain ⟨succeeded, attempt⟩ := attempt
    cases succeeded with
    | true =>
      exact inv_initial (hattempted.mask rfl) hattempted.requested fun hnot =>
        absurd (hnot.symm.trans hattempted.ready) Bool.false_ne_true
    | false => exact inv_initial (hattempted.mask rfl) hattempted.requested fun _ => rfl

/-- With monitoring on, the last request is in force, and it was accepted
or failed; an attempt to initialise configures it. -/
structure RequestInForce (history : PolarityHistory) : Prop where
  inForce : history.machine.snapshot.monitoringStarted = true →
    history.inForce = history.requested
  accepted : history.machine.snapshot.monitoringStarted = true →
    (history.AcceptedInForce ↔ history.failed = false)
  attempt : ∀ event, MadeAttempt history.machine (probeStep history.machine event) →
    (history.step event).inForce = history.requested ∧
      ((history.step event).AcceptedInForce ↔ history.failed = false)

theorem Inv.requestInForce (h : history.Inv) : history.RequestInForce where
  inForce _ := h.inForce
  accepted hon := by
    refine h.acceptedInForce_iff ?_
    by_contra hnot
    have hoff := h.off (Bool.eq_false_of_not_eq_true hnot)
    exact Bool.false_ne_true (hoff.symm.trans hon)
  attempt event hmade := by
    obtain ⟨ticks, answers, rfl, hready, hoff, -⟩ := hmade.due
    have hstep : probeProcess { history.machine with answers } ticks =
        Tic.processOffline { history.machine with answers } ticks := by
      unfold probeProcess
      rw [if_neg (by simp [hready]), if_pos (by simp [hoff])]
    obtain ⟨-, -, hsame⟩ :=
      @processOffline_polarity { history.machine with answers } ticks h.active
    have hafter := h.process ticks answers
    refine ⟨hafter.inForce, hafter.acceptedInForce_iff ?_⟩
    change (probeProcess { history.machine with answers } ticks).peripheralReady = true
    rw [hstep]
    exact hsame.trans hready

/-- The device is initialised with another polarity, and answers. -/
def reinitialized (mask : UInt32) : List Answer :=
  [answer expectedDeviceId, answer 0] ++
    ((configuration { carrierBinary with batterySwitchMask := mask }).map fun write =>
      verified write.2).flatten ++
    [answer 0, answer configBinaryBase, answer intStatusCrcCalcMask, answer 0] ++
    verified (configBinaryBase ||| configTrigger) ++ [answer 0]

/-- A change of the polarity fails; the device answers again when the
attempt to initialise it is due. -/
def refusedThenConfigured : PolarityHistory :=
  run step (start {} initialized true fun _ => 0)
    [.setBatterySwitchMask 1 (fun _ => 100) [], .process (fun _ => 600) (reinitialized 1)]

end PolarityHistory

end Tic

end CanGui
