import CanGui.Command.Exits
import CanGui.Control.Application
/-!
# Application control — the slots

A slot is asked for exactly when the policy has the request, runs only
where the policy lets it, and the counters of the frames the transport
accepts run from one to the limit, again and again.
-/

namespace CanGui

namespace Control

open Command (Parts Answers Code)

/-- The counters of a slot in turn: one to the limit, again and again. -/
def cycleValue (limit : UInt32) (n : Nat) : UInt32 := UInt32.ofNat (n % limit.toNat + 1)

/-- The first counters, the latest first. -/
def cycle (limit : UInt32) : (count : Nat) → List UInt32
  | 0 => []
  | count + 1 => cycleValue limit count :: cycle limit count

section Cycle

variable {limit : UInt32}

theorem cycleValue_toNat (hlimit : limit ≠ 0) (n : Nat) :
    (cycleValue limit n).toNat = n % limit.toNat + 1 := by
  have hpos : 0 < limit.toNat := Nat.pos_of_ne_zero fun h => hlimit (UInt32.toNat_inj.1 h)
  have hmod := Nat.mod_lt n hpos
  have hlt := limit.toNat_lt
  unfold cycleValue
  rw [UInt32.toNat_ofNat']
  omega

/-- A counter lies between one and the limit. -/
theorem cycleValue_bounds (hlimit : limit ≠ 0) (n : Nat) :
    cycleValue limit n ≠ 0 ∧ ¬limit < cycleValue limit n := by
  have hvalue := cycleValue_toNat hlimit n
  have hpos : 0 < limit.toNat := Nat.pos_of_ne_zero fun h => hlimit (UInt32.toNat_inj.1 h)
  have hmod := Nat.mod_lt n hpos
  constructor
  · intro hzero
    rw [hzero] at hvalue
    exact absurd hvalue (Nat.succ_ne_zero _).symm
  · rw [UInt32.lt_iff_toNat_lt, hvalue]
    omega

/-- **The next counter**: one after the limit, one more before it. -/
theorem cycleValue_succ (hlimit : limit ≠ 0) (n : Nat) :
    (if limit ≤ cycleValue limit n then 1 else cycleValue limit n + 1) =
      cycleValue limit (n + 1) := by
  have hvalue := cycleValue_toNat hlimit n
  have hnext := cycleValue_toNat hlimit (n + 1)
  have hpos : 0 < limit.toNat := Nat.pos_of_ne_zero fun h => hlimit (UInt32.toNat_inj.1 h)
  have hmod := Nat.mod_lt n hpos
  have hlt := limit.toNat_lt
  have hstep : (n + 1) % limit.toNat = (n % limit.toNat + 1) % limit.toNat :=
    (Nat.mod_add_mod n limit.toNat 1).symm
  apply UInt32.toNat_inj.1
  rw [hnext, hstep]
  split
  · next hlast =>
    rw [UInt32.le_iff_toNat_le, hvalue] at hlast
    have hwrap : n % limit.toNat + 1 = limit.toNat := by omega
    rw [hwrap, Nat.mod_self]
    rfl
  · next hbefore =>
    rw [UInt32.le_iff_toNat_le, hvalue] at hbefore
    have hone : (1 : UInt32).toNat = 1 := rfl
    rw [Nat.mod_eq_of_lt (by omega), UInt32.toNat_add, hvalue, hone]
    omega

end Cycle

/-- In the order of their acceptance. -/
theorem cycle_reverse (limit : UInt32) (count : Nat) :
    (cycle limit count).reverse = (List.range count).map (cycleValue limit) := by
  induction count with
  | zero => rfl
  | succ count ih =>
    rw [cycle, List.reverse_cons, ih, List.range_succ, List.map_append]
    rfl

/-! ## A slot -/

/-- A slot, what the policy has of it and what became of it agree. -/
structure Slot.Sound (slot : Slot) (requested : Bool) (history : History) : Prop where
  requested : slot.requestedRunning = requested
  counting : ∀ limit, history.started = some limit → slot.counterLimit = limit ∧ limit ≠ 0 ∧
    slot.counterValue = cycleValue limit history.accepted.length ∧
    history.accepted = cycle limit history.accepted.length

namespace Slot

variable {slot : Slot} {requested : Bool} {history : History}

theorem Sound.applyPolicy (h : slot.Sound requested history) (effectiveRunning : Bool)
    (tick : UInt32) : (slot.applyPolicy effectiveRunning tick).Sound requested history :=
  ⟨h.requested, h.counting⟩

/-- **What runs after the policy was applied** is configured, active, asked
for, has a limit and is let by the policy. -/
theorem applyPolicy_running {effectiveRunning : Bool} {tick : UInt32}
    (h : (slot.applyPolicy effectiveRunning tick).running = true) :
    slot.configured = true ∧ slot.active = true ∧ slot.requestedRunning = true ∧
      slot.counterLimit ≠ 0 ∧ effectiveRunning = true := by
  change (effectiveRunning && slot.requestedRunning && slot.configured && slot.active &&
    slot.counterLimit != 0) = true at h
  simp only [Bool.and_eq_true, bne_iff_ne] at h
  obtain ⟨⟨⟨⟨heffective, hrequested⟩, hconfigured⟩, hactive⟩, hlimit⟩ := h
  exact ⟨hconfigured, hactive, hrequested, hlimit, heffective⟩

/-- A slot the policy does not let hands nothing over. -/
theorem processTx_none {tick now : UInt32} {result : Transport.Result} :
    ((slot.applyPolicy false tick).processTx now result).1 = none := by
  have hstopped : (slot.applyPolicy false tick).running = false := rfl
  unfold processTx
  rw [if_pos hstopped]

theorem normalize_eq (hzero : slot.counterValue ≠ 0)
    (hlimit : ¬slot.counterLimit < slot.counterValue) : slot.normalize = slot := by
  unfold normalize
  rw [if_neg hzero]
  exact if_neg hlimit

theorem normalize_requestedRunning :
    slot.normalize.requestedRunning = slot.requestedRunning := by
  unfold normalize
  dsimp only
  split <;> split <;> rfl

/-- A counter that counts needs no bringing back. -/
theorem Sound.normalize (h : slot.Sound requested history) :
    slot.normalize.Sound requested history := by
  refine ⟨normalize_requestedRunning.trans h.requested, fun limit hstarted => ?_⟩
  obtain ⟨hlimit, hne, hvalue, hcycle⟩ := h.counting limit hstarted
  have hbounds := cycleValue_bounds hne history.accepted.length
  rw [← hvalue] at hbounds
  rw [normalize_eq hbounds.1 (hlimit ▸ hbounds.2)]
  exact ⟨hlimit, hne, hvalue, hcycle⟩

/-- A frame was accepted: the next counter is due. -/
theorem Sound.advance (h : slot.Sound requested history) : slot.advance.Sound requested
    { history with accepted := slot.counterValue :: history.accepted } := by
  refine ⟨h.requested, fun limit hstarted => ?_⟩
  obtain ⟨hlimit, hne, hvalue, hcycle⟩ := h.counting limit hstarted
  refine ⟨hlimit, hne, ?_, ?_⟩
  · change (if slot.counterLimit ≤ slot.counterValue then 1 else slot.counterValue + 1) = _
    rw [hlimit, hvalue]
    exact cycleValue_succ hne _
  · change slot.counterValue :: history.accepted =
      cycleValue limit history.accepted.length :: cycle limit history.accepted.length
    rw [hvalue, ← hcycle]

/-- **Sending keeps the count**, whether the transport takes the frame or
not. -/
theorem Sound.processTx (h : slot.Sound requested history) (now : UInt32)
    (result : Transport.Result) :
    (slot.processTx now result).2.Sound requested (history.note (slot.processTx now result).1) := by
  unfold Slot.processTx
  split
  · exact h
  · split
    · next hzero =>
      refine ⟨h.requested, fun limit hstarted => ?_⟩
      obtain ⟨hlimit, hne, -⟩ := h.counting limit hstarted
      exact absurd (hlimit.symm.trans hzero) hne
    · dsimp only
      have hnormal := h.normalize
      generalize slot.normalize = slot at hnormal
      split
      · exact hnormal
      · have hsent : ({ slot with lastTxTime := now } : Slot).Sound requested history :=
          ⟨hnormal.requested, hnormal.counting⟩
        generalize ({ slot with lastTxTime := now } : Slot) = slot at hsent
        dsimp only [History.note]
        split
        · exact hsent.advance
        · exact hsent

/-! ### Commands -/

/-- A configuration stops the slot. -/
theorem setConfig_sound (data : Bytes) : (slot.setConfig data).Sound false {} := by
  refine ⟨?_, nofun⟩
  unfold setConfig
  dsimp only
  split <;> rfl

/-- A start begins the count at one. -/
theorem startCounter_sound (data : Bytes) (tick : UInt32) :
    (slot.startCounter data tick).2.Sound (slot.startCounter data tick).1
      { started :=
          if (slot.startCounter data tick).1 then some (commandedLimit data) else none } := by
  unfold startCounter
  dsimp only
  split
  · exact ⟨rfl, nofun⟩
  · split
    · exact ⟨rfl, nofun⟩
    · next hlimit =>
      refine ⟨rfl, fun limit hstarted => ?_⟩
      obtain rfl := Option.some.inj hstarted
      refine ⟨rfl, hlimit, ?_, rfl⟩
      change 1 = UInt32.ofNat (0 % (commandedLimit data).toNat + 1)
      rw [Nat.zero_mod]
      rfl

end Slot

/-! ## What leaves the slots alone -/

/-- The slots and what is asked of them are the same. -/
structure SameSlots (parts parts' : Parts) : Prop where
  slot1 : parts'.slot1 = parts.slot1
  slot2 : parts'.slot2 = parts.slot2
  requested1 : parts'.policy.slot1Requested = parts.policy.slot1Requested
  requested2 : parts'.policy.slot2Requested = parts.policy.slot2Requested

theorem SameSlots.refl (parts : Parts) : SameSlots parts parts := ⟨rfl, rfl, rfl, rfl⟩

theorem SameSlots.trans {a b c : Parts} (h : SameSlots a b) (h' : SameSlots b c) : SameSlots a c :=
  ⟨h'.slot1.trans h.slot1, h'.slot2.trans h.slot2, h'.requested1.trans h.requested1,
    h'.requested2.trans h.requested2⟩

theorem SameSlots.of_sameParts {parts parts' : Parts}
    (h : Command.State.SameParts parts parts') : SameSlots parts parts' :=
  ⟨h.slot1, h.slot2, congrArg Policy.slot1Requested h.policy,
    congrArg Policy.slot2Requested h.policy⟩

theorem logAll_sameSlots (entries : List Log.Entry) (parts : Parts) (uptime : Nat → UInt32) :
    SameSlots parts (parts.logAll entries uptime) :=
  .of_sameParts (Command.State.logAll_sameParts entries parts uptime)

section Commands

variable {parts : Parts} {answers : Answers}

theorem cancelSelfTest_sameSlots : SameSlots parts (parts.cancelSelfTest answers) := by
  unfold Parts.cancelSelfTest
  split
  · exact .refl _
  · have hlogged := logAll_sameSlots [Parts.terminalEntry (parts.selfTest.cancel parts.pwm
      answers.timer).1] { parts with
        selfTest := (parts.selfTest.cancel parts.pwm answers.timer).1
        pwm := (parts.selfTest.cancel parts.pwm answers.timer).2 } answers.uptime
    exact ⟨hlogged.slot1, hlogged.slot2, hlogged.requested1, hlogged.requested2⟩

theorem setPwmRequest_sameSlots (requestedOn : Bool) :
    SameSlots parts { parts with policy := parts.policy.setPwmRequest requestedOn } := by
  obtain ⟨h1, h2⟩ := Policy.slotRequested_setPwmRequest parts.policy requestedOn
  exact ⟨rfl, rfl, h1, h2⟩

theorem pwmSetOutput_sameSlots (frequencyHz : UInt32) (dutyPercent : UInt8) :
    SameSlots parts (parts.pwmSetOutput frequencyHz dutyPercent).parts := by
  obtain ⟨h1, h2⟩ := Policy.slotRequested_setPwmRequest parts.policy true
  unfold Parts.pwmSetOutput
  dsimp only
  split
  · exact ⟨rfl, rfl, h1, h2⟩
  · exact ⟨rfl, rfl, rfl, rfl⟩

theorem pwmSet_sameSlots (payload : Bytes) :
    SameSlots parts (parts.pwmSet payload answers).parts := by
  unfold Parts.pwmSet
  dsimp only
  have hcancelled : SameSlots parts (if parts.selfTest.isRunning then parts.cancelSelfTest answers
      else parts) := by
    split
    · exact cancelSelfTest_sameSlots
    · exact .refl _
  generalize (if parts.selfTest.isRunning then parts.cancelSelfTest answers else parts) = prepared
    at hcancelled
  split
  · exact hcancelled.trans (setPwmRequest_sameSlots false)
  · exact hcancelled.trans (pwmSetOutput_sameSlots _ _)

theorem pwmSelfTest_sameSlots (payload : Bytes) :
    SameSlots parts (parts.pwmSelfTest payload answers).parts := by
  unfold Parts.pwmSelfTest
  split
  · exact cancelSelfTest_sameSlots
  · split
    · exact ⟨rfl, rfl, rfl, rfl⟩
    · exact .refl _

theorem rtcDone_sameSlots (outcome : Rtc.Outcome) :
    SameSlots parts (parts.rtcDone outcome answers) := by
  have hlogged := logAll_sameSlots outcome.logged { parts with rtc := outcome.state } answers.uptime
  exact ⟨hlogged.slot1, hlogged.slot2, hlogged.requested1, hlogged.requested2⟩

theorem handleRtcSetAlarm_sameSlots (payload : Bytes) :
    SameSlots parts (parts.handleRtcSetAlarm payload answers).parts := by
  unfold Parts.handleRtcSetAlarm
  split
  · exact .refl _
  · exact rtcDone_sameSlots _

theorem tic12400SetPolarity_sameSlots (payload : Bytes) :
    SameSlots parts (parts.tic12400SetPolarity payload answers).parts := by
  unfold Parts.tic12400SetPolarity
  split
  · exact .refl _
  · exact ⟨rfl, rfl, rfl, rfl⟩

theorem handleLedCommand_sameSlots (payload : Bytes) :
    SameSlots parts (parts.handleLedCommand payload) := by
  obtain ⟨h1, h2⟩ := Policy.slotRequested_setLedRequest parts.policy (payload.at' 1)
    (payload.at' 2 != 0)
  exact ⟨rfl, rfl, h1, h2⟩

end Commands

/-! ## The machine -/

/-- Both slots agree with the policy and with what became of them. -/
structure Machine.SlotsSound (machine : Machine) : Prop where
  slot1 : machine.parts.slot1.Sound machine.parts.policy.slot1Requested machine.history1
  slot2 : machine.parts.slot2.Sound machine.parts.policy.slot2Requested machine.history2

namespace Machine

variable {machine : Machine}

theorem SlotsSound.of_sameSlots {machine' : Machine} (h : machine.SlotsSound)
    (hparts : SameSlots machine.parts machine'.parts) (h1 : machine'.history1 = machine.history1)
    (h2 : machine'.history2 = machine.history2) : machine'.SlotsSound := by
  constructor
  · rw [hparts.slot1, hparts.requested1, h1]
    exact h.slot1
  · rw [hparts.slot2, hparts.requested2, h2]
    exact h.slot2

theorem command_slotsSound (h : machine.SlotsSound) (payload : Bytes) (answers : Answers)
    (code : Code) : (machine.command payload answers code).SlotsSound := by
  cases code with
  | setSlot1 =>
    have hrequested := Policy.slot1Requested_setSlotRequest machine.parts.policy false
    -- the request of the other slot is untouched
    have hother := Policy.slot2Requested_setSlotRequest_one machine.parts.policy false
    constructor
    · change Slot.Sound _ (machine.parts.policy.setSlotRequest 1 false).slot1Requested _
      rw [hrequested]
      exact Slot.setConfig_sound payload
    · change Slot.Sound _ (machine.parts.policy.setSlotRequest 1 false).slot2Requested _
      rw [hother]
      exact h.slot2
  | setSlot2 =>
    have hrequested := Policy.slot2Requested_setSlotRequest machine.parts.policy false
    have hother := Policy.slot1Requested_setSlotRequest_two machine.parts.policy false
    constructor
    · change Slot.Sound _ (machine.parts.policy.setSlotRequest 2 false).slot1Requested _
      rw [hother]
      exact h.slot1
    · change Slot.Sound _ (machine.parts.policy.setSlotRequest 2 false).slot2Requested _
      rw [hrequested]
      exact Slot.setConfig_sound payload
  | startSlot1Counter =>
    have hrequested := Policy.slot1Requested_setSlotRequest machine.parts.policy
      (machine.parts.slot1.startCounter payload answers.tick).1
    have hother := Policy.slot2Requested_setSlotRequest_one machine.parts.policy
      (machine.parts.slot1.startCounter payload answers.tick).1
    constructor
    · change Slot.Sound _ (machine.parts.policy.setSlotRequest 1
        (machine.parts.slot1.startCounter payload answers.tick).1).slot1Requested _
      rw [hrequested]
      exact Slot.startCounter_sound payload answers.tick
    · change Slot.Sound _ (machine.parts.policy.setSlotRequest 1
        (machine.parts.slot1.startCounter payload answers.tick).1).slot2Requested _
      rw [hother]
      exact h.slot2
  | startSlot2Counter =>
    have hrequested := Policy.slot2Requested_setSlotRequest machine.parts.policy
      (machine.parts.slot2.startCounter payload answers.tick).1
    have hother := Policy.slot1Requested_setSlotRequest_two machine.parts.policy
      (machine.parts.slot2.startCounter payload answers.tick).1
    constructor
    · change Slot.Sound _ (machine.parts.policy.setSlotRequest 2
        (machine.parts.slot2.startCounter payload answers.tick).1).slot1Requested _
      rw [hother]
      exact h.slot1
    · change Slot.Sound _ (machine.parts.policy.setSlotRequest 2
        (machine.parts.slot2.startCounter payload answers.tick).1).slot2Requested _
      rw [hrequested]
      exact Slot.startCounter_sound payload answers.tick
  | ledControl => exact h.of_sameSlots (handleLedCommand_sameSlots payload) rfl rfl
  | rtcSetTime => exact h.of_sameSlots (rtcDone_sameSlots _) rfl rfl
  | rtcSetDateTime => exact h.of_sameSlots (rtcDone_sameSlots _) rfl rfl
  | rtcSetAlarm => exact h.of_sameSlots (handleRtcSetAlarm_sameSlots payload) rfl rfl
  | pwmSet => exact h.of_sameSlots (pwmSet_sameSlots payload) rfl rfl
  | pwmSelfTest => exact h.of_sameSlots (pwmSelfTest_sameSlots payload) rfl rfl
  | logGetInfo => exact h.of_sameSlots ⟨rfl, rfl, rfl, rfl⟩ rfl rfl
  | logReadSequence => exact h.of_sameSlots ⟨rfl, rfl, rfl, rfl⟩ rfl rfl
  | tic12400SetPolarity => exact h.of_sameSlots (tic12400SetPolarity_sameSlots payload) rfl rfl

/-! ### The other events -/

theorem interrupt_sameSlots (answers : ApplyAnswers) :
    SameSlots machine.parts (machine.interrupt answers).parts := by
  have hcancelled := @cancelSelfTest_sameSlots machine.parts
    { timer := answers.cancel, uptime := answers.uptime }
  exact ⟨hcancelled.slot1, hcancelled.slot2, hcancelled.requested1, hcancelled.requested2⟩

theorem applyPwm_sameSlots (answers : ApplyAnswers) :
    SameSlots machine.parts (machine.applyPwm answers).parts := by
  unfold applyPwm report
  dsimp only
  split
  · split
    · exact interrupt_sameSlots answers
    · exact .refl _
  · split
    · exact ⟨rfl, rfl, rfl, rfl⟩
    · exact ⟨rfl, rfl, rfl, rfl⟩

theorem processSelfTest_sameSlots (capture : SelfTest.Capture) (now : UInt32)
    (answers : SelfTest.StepAnswers) (uptime : Nat → UInt32) :
    SameSlots machine.parts (machine.processSelfTest capture now answers uptime).parts := by
  unfold processSelfTest
  dsimp only
  split
  · have hlogged := logAll_sameSlots [Parts.terminalEntry
      (machine.parts.selfTest.process machine.parts.pwm capture now answers).1] { machine.parts with
        selfTest := (machine.parts.selfTest.process machine.parts.pwm capture now answers).1
        pwm := (machine.parts.selfTest.process machine.parts.pwm capture now answers).2 } uptime
    exact ⟨hlogged.slot1, hlogged.slot2, hlogged.requested1, hlogged.requested2⟩
  · exact ⟨rfl, rfl, rfl, rfl⟩

theorem takeSwitches_sameSlots (dataValid : Bool) (closedSwitchMask : UInt32) :
    SameSlots machine.parts (machine.takeSwitches dataValid closedSwitchMask).parts := by
  have hrequests : ∀ policy : Policy,
      (policy.updateSwitches dataValid closedSwitchMask).requests = policy.requests := by
    intro policy
    unfold Policy.updateSwitches
    dsimp only
    rw [Policy.requests_recalculate]
    split
    · split <;> rfl
    · split <;> rfl
  have hsame := hrequests machine.parts.policy
  exact ⟨rfl, rfl, congrArg Policy.Requests.slot1 hsame, congrArg Policy.Requests.slot2 hsame⟩

theorem process_sameSlots (answers : ProcessAnswers) :
    SameSlots machine.parts (machine.process answers).parts :=
  (takeSwitches_sameSlots answers.dataValid answers.closedSwitchMask).trans
    ((applyPwm_sameSlots answers.first).trans
      ((processSelfTest_sameSlots answers.capture answers.now answers.step answers.uptime).trans
        (applyPwm_sameSlots answers.second)))

theorem applyPwm_histories (answers : ApplyAnswers) :
    (machine.applyPwm answers).history1 = machine.history1 ∧
      (machine.applyPwm answers).history2 = machine.history2 := by
  unfold applyPwm report
  dsimp only
  split
  · split <;> exact ⟨rfl, rfl⟩
  · split <;> exact ⟨rfl, rfl⟩

theorem process_histories (answers : ProcessAnswers) :
    (machine.process answers).history1 = machine.history1 ∧
      (machine.process answers).history2 = machine.history2 := by
  have hfirst := @applyPwm_histories (machine.takeSwitches answers.dataValid
    answers.closedSwitchMask) answers.first
  have hsecond := @applyPwm_histories (((machine.takeSwitches answers.dataValid
    answers.closedSwitchMask).applyPwm answers.first).processSelfTest answers.capture answers.now
      answers.step answers.uptime) answers.second
  exact ⟨hsecond.1.trans hfirst.1, hsecond.2.trans hfirst.2⟩

theorem transmit_slotsSound (h : machine.SlotsSound) (answers : TransmitAnswers) :
    (machine.transmit answers).SlotsSound where
  slot1 := (h.slot1.applyPolicy _ _).processTx _ _
  slot2 := (h.slot2.applyPolicy _ _).processTx _ _

end Machine

theorem step_slotsSound (machine : Machine) (event : Event) (h : machine.SlotsSound) :
    (step machine event).SlotsSound := by
  cases event with
  | process answers =>
    obtain ⟨h1, h2⟩ := Machine.process_histories answers
    exact h.of_sameSlots (Machine.process_sameSlots answers) h1 h2
  | command payload answers code => exact Machine.command_slotsSound h payload answers code
  | transmit answers => exact Machine.transmit_slotsSound h answers
  | others rtc tic log sender => exact ⟨h.slot1, h.slot2⟩

/-- **The transmission of the slots.** In every run, a slot is asked for
exactly when the policy has its request; once the policy is applied it runs
only configured, active, asked for, with a limit and effective; a slot that
is not effective hands nothing over; and the counters accepted since a
start run from one to its limit, again and again. -/
theorem slots_transmit (counterClockHz : Option UInt32) (captureInitialized : Bool)
    (events : List Event) :
    let machine := run step (boot counterClockHz captureInitialized) events
    (machine.parts.slot1.requestedRunning = machine.parts.policy.slot1Requested ∧
      machine.parts.slot2.requestedRunning = machine.parts.policy.slot2Requested) ∧
    (∀ answers, ((machine.applySlotPolicy answers).parts.slot1.running = true →
        machine.parts.slot1.configured = true ∧ machine.parts.slot1.active = true ∧
          machine.parts.slot1.requestedRunning = true ∧ machine.parts.slot1.counterLimit ≠ 0 ∧
          machine.parts.policy.slot1Effective = true) ∧
      ((machine.applySlotPolicy answers).parts.slot2.running = true →
        machine.parts.slot2.configured = true ∧ machine.parts.slot2.active = true ∧
          machine.parts.slot2.requestedRunning = true ∧ machine.parts.slot2.counterLimit ≠ 0 ∧
          machine.parts.policy.slot2Effective = true)) ∧
    (∀ answers, (machine.parts.policy.slot1Effective = false →
        ((machine.applySlotPolicy answers).parts.slot1.processTx answers.now1
          answers.result1).1 = none) ∧
      (machine.parts.policy.slot2Effective = false →
        ((machine.applySlotPolicy answers).parts.slot2.processTx answers.now2
          answers.result2).1 = none)) ∧
    (∀ limit, machine.history1.started = some limit →
      machine.history1.accepted.reverse =
        (List.range machine.history1.accepted.length).map (cycleValue limit)) ∧
    ∀ limit, machine.history2.started = some limit →
      machine.history2.accepted.reverse =
        (List.range machine.history2.accepted.length).map (cycleValue limit) := by
  intro machine
  -- the invariant of the run; the rest reads one state
  have hsound : machine.SlotsSound := run_invariant (I := Machine.SlotsSound) step_slotsSound
    events _ ⟨⟨rfl, nofun⟩, ⟨rfl, nofun⟩⟩
  refine ⟨⟨hsound.slot1.requested, hsound.slot2.requested⟩, fun answers => ⟨?_, ?_⟩,
    fun answers => ⟨?_, ?_⟩, fun limit hstarted => ?_, fun limit hstarted => ?_⟩
  · exact Slot.applyPolicy_running
  · exact Slot.applyPolicy_running
  · intro hblocked
    unfold Machine.applySlotPolicy
    dsimp only
    rw [hblocked]
    exact Slot.processTx_none
  · intro hblocked
    unfold Machine.applySlotPolicy
    dsimp only
    rw [hblocked]
    exact Slot.processTx_none
  · obtain ⟨-, -, -, hcycle⟩ := hsound.slot1.counting limit hstarted
    exact (congrArg List.reverse hcycle).trans (cycle_reverse limit _)
  · obtain ⟨-, -, -, hcycle⟩ := hsound.slot2.counting limit hstarted
    exact (congrArg List.reverse hcycle).trans (cycle_reverse limit _)

/-- Slot 1 is configured and started on a limit of two; the second of its
frames is refused at first. -/
def slotEvents : List Event :=
  [.process { dataValid := true, closedSwitchMask := 0 },
    .command [0x01, 1, 0x23, 1, 0, 0, 10, 0] {} .setSlot1,
    .command [0x11, 0, 2, 0, 0, 0, 0, 0] { tick := 5 } .startSlot1Counter,
    .transmit { applied1 := 6, now1 := 6 }, .transmit { now1 := 16, result1 := .queueFull },
    .transmit { now1 := 26, result1 := .queued }, .transmit { now1 := 36 }]

theorem slots_transmit_slotEvents :
    (run step (boot none false) slotEvents).history1.accepted.length = 3 ∧
      (run step (boot none false) slotEvents).history1.accepted.reverse =
        (List.range (run step (boot none false) slotEvents).history1.accepted.length).map
          (cycleValue 2) :=
  ⟨by decide +kernel, (slots_transmit none false slotEvents).2.2.2.1 2 (by decide +kernel)⟩

end Control

end CanGui
