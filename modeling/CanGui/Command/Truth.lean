import CanGui.Command.Authorization
/-!
# GUI commands — what the executed flag is worth

The dispatch sets the flag before it runs a handler, and only the handler
of the battery mask takes it back. The handlers decline more than that:
what each of them takes is said here, and the flag tells the truth
exactly then.
-/

namespace CanGui

namespace Log

variable {results : Nat → Transport.Result}

/-- The transport takes so many frames. -/
def TakesAll (results : Nat → Transport.Result) (count : Nat) : Prop :=
  ∀ i < count, isTaken (results i) = true

theorem sendFrom_done_iff {fragmentBase : UInt8} {bytes : Bytes} (left : Nat) :
    ∀ (index : Nat) (sender : Sender), (sender.sendFrom fragmentBase bytes results left index).1 =
      true ↔ ∀ i < left, isTaken (results (index + i)) = true := by
  induction left with
  | zero => exact fun _ _ => ⟨fun _ _ hi => absurd hi (Nat.not_lt_zero _), fun _ => rfl⟩
  | succ left ih =>
    intro index sender
    unfold Sender.sendFrom
    split
    · next htaken =>
      rw [ih]
      constructor
      · intro h i hi
        cases i with
        | zero => exact htaken
        | succ i =>
          have hshift : index + (i + 1) = index + 1 + i := by omega
          rw [hshift]
          exact h i (Nat.lt_of_succ_lt_succ hi)
      · intro h i hi
        have hshift : index + 1 + i = index + (i + 1) := by omega
        rw [hshift]
        exact h (i + 1) (Nat.succ_lt_succ hi)
    · next hrefused =>
      refine ⟨fun h => absurd h Bool.false_ne_true, fun h => absurd (h 0 (Nat.succ_pos _)) ?_⟩
      exact hrefused

theorem sendFragments_done_iff {sender : Sender} {fragmentBase : UInt8} {bytes : Bytes}
    {fragmentCount : Nat} : (sender.sendFragments fragmentBase bytes fragmentCount results).1 =
      true ↔ TakesAll results fragmentCount := by
  unfold Sender.sendFragments TakesAll
  rw [sendFrom_done_iff]
  simp only [Nat.zero_add]

theorem sendInfo_done_iff (sender : Sender) (log : Machine) :
    (sender.sendInfo log results).1 = true ↔ TakesAll results logInfoFragmentCount := by
  unfold Sender.sendInfo
  exact sendFragments_done_iff

/-- **An answer is whole when the transport takes every frame of it**, be
it the record or the frame that says it is not there. -/
theorem sendRecord_done_iff (sender : Sender) (log : Machine) (sequence : UInt32) :
    (sender.sendRecord log sequence results).1 = true ↔ TakesAll results
      (if (log.readBySequence sequence).isNone then 1 else logRecordFragmentCount) := by
  unfold Sender.sendRecord
  cases log.readBySequence sequence with
  | none =>
    refine ⟨fun h i hi => ?_, fun h => h 0 Nat.one_pos⟩
    obtain rfl : i = 0 := Nat.lt_one_iff.1 hi
    exact h
  | some record => exact sendFragments_done_iff

end Log

namespace Command

open Control (Slot)

/-! ## What an operation comes to -/

/-- A start or a stop of a counter took effect on the slot and on what is
asked of the policy. -/
def CounterDone (slot : Slot) (requested : Bool) (payload : Bytes) : Prop :=
  if Slot.commandedLimit payload = 0 then slot.Stopped ∧ requested = false
  else slot.Started payload ∧ requested = true

/-- What is asked of an LED. -/
def ledRequested (policy : Control.Policy) (ledNumber : UInt8) : Bool :=
  if ledNumber = 1 then policy.led1Requested else policy.led2Requested

/-- The commanded operation took effect. -/
def Dispatched.TookEffect (dispatched : Dispatched) : Prop :=
  let payload := dispatched.payload
  let after := dispatched.handled.parts
  let calls := dispatched.handled.calls
  match dispatched.code with
  | .setSlot1 => after.slot1.Configured payload
  | .setSlot2 => after.slot2.Configured payload
  | .startSlot1Counter => CounterDone after.slot1 after.policy.slot1Requested payload
  | .startSlot2Counter => CounterDone after.slot2 after.policy.slot2Requested payload
  | .ledControl => ledRequested after.policy (payload.at' 1) = (payload.at' 2 != 0)
  | .rtcSetTime =>
    .rtcSetDateTime (dispatched.before.rtc.timeOfDay (payload.at' 1) (payload.at' 2)
      (payload.at' 3)) true ∈ calls
  | .rtcSetDateTime => .rtcSetDateTime (dateTimeOf payload) true ∈ calls
  | .rtcSetAlarm => ∃ command, decodeRtcAlarmCommand payload = some command ∧
    .rtcSetAlarm command.config true ∈ calls
  | .pwmSet =>
    if readLe32 (payload.drop 1) = 0 then after.policy.pwmRequested = false
    else .pwmSet (readLe32 (payload.drop 1)) (payload.at' 5) .ok ∈ calls ∧
      after.policy.pwmRequested = true
  | .pwmSelfTest =>
    if payload.at' 1 = 0 then after.selfTest.isRunning = false ∧
      (dispatched.before.selfTest.isRunning = true → after.selfTest.code = .cancelled)
    else .selfTestStart .ok ∈ calls ∧ after.selfTest.isRunning = true
  | .logGetInfo => .logSendInfo true ∈ calls
  | .logReadSequence => .logSendRecord (readLe32 (payload.drop 1)) true ∈ calls
  | .tic12400SetPolarity => ∃ mask, decodeTic12400PolarityCommand payload = some mask ∧
    .ticSetMask mask true ∈ calls

/-- What the parts have to meet for the flag to tell the truth. -/
def Parts.Takes (parts : Parts) (payload : Bytes) (answers : Answers) : Code → Prop
  | .setSlot1 | .setSlot2 | .ledControl | .tic12400SetPolarity => True
  | .startSlot1Counter =>
    Slot.commandedLimit payload = 0 ∨ parts.slot1.configured = true ∧ parts.slot1.active = true
  | .startSlot2Counter =>
    Slot.commandedLimit payload = 0 ∨ parts.slot2.configured = true ∧ parts.slot2.active = true
  | .rtcSetTime => parts.rtc.TakesDateTime
    (parts.rtc.timeOfDay (payload.at' 1) (payload.at' 2) (payload.at' 3))
  | .rtcSetDateTime => parts.rtc.TakesDateTime (dateTimeOf payload)
  | .rtcSetAlarm => ∀ command, decodeRtcAlarmCommand payload = some command →
    parts.rtc.TakesAlarm command.config
  | .pwmSet => readLe32 (payload.drop 1) = 0 ∨
    parts.pwm.accepts (readLe32 (payload.drop 1)) (payload.at' 5) = true
  | .pwmSelfTest =>
    if payload.at' 1 = 0 then parts.selfTest.isRunning = true →
      parts.selfTest.restores parts.pwm answers.timer = true
    else parts.policy.pwmPermitted = true ∧ parts.selfTest.isRunning = false ∧
      parts.pwm.initialized = true ∧ parts.captureInitialized = true
  | .logGetInfo => Log.TakesAll answers.results Log.logInfoFragmentCount
  | .logReadSequence => Log.TakesAll answers.results
    (if (parts.log.readBySequence (readLe32 (payload.drop 1))).isNone then 1
      else Log.logRecordFragmentCount)

/-! ## Handler by handler -/

namespace Parts

variable {parts : Parts} {payload : Bytes} {answers : Answers}

theorem configured_of_valid {slot : Slot} {code : Code} (hcode : code = .setSlot1 ∨ code = .setSlot2)
    (hvalid : validPayload payload code = true) : (slot.setConfig payload).Configured payload := by
  have hchecks : validPayload payload .setSlot1 = true := by
    rcases hcode with rfl | rfl <;> exact hvalid
  simp only [validPayload, Bool.and_eq_true, bne_iff_ne] at hchecks
  exact Slot.setConfig_configured hchecks.1.2 hchecks.2

/-- A counter starts where the slot is configured and active, and stops
everywhere. -/
theorem counterDone_iff {slot : Slot} {tick : UInt32} :
    CounterDone (slot.startCounter payload tick).2 (slot.startCounter payload tick).1 payload ↔
      Slot.commandedLimit payload = 0 ∨ slot.configured = true ∧ slot.active = true := by
  unfold CounterDone
  split
  · next hzero => exact ⟨fun _ => .inl hzero, fun _ => Slot.startCounter_stopped hzero⟩
  · next hlimit =>
    rw [Slot.startCounter_started_iff hlimit]
    exact ⟨.inr, fun h => h.resolve_left hlimit⟩

theorem ledDone {policy : Control.Policy} {led value : UInt8} (hled : led = 1 ∨ led = 2) :
    ledRequested (policy.setLedRequest led (value != 0)) led = (value != 0) := by
  have hrequests := Control.Policy.requests_setLedRequest policy led (value != 0)
  unfold ledRequested
  rcases hled with rfl | rfl
  · exact congrArg Control.Policy.Requests.led1 hrequests
  · exact congrArg Control.Policy.Requests.led2 hrequests

/-- The calls of a date and time that is handed over. -/
theorem rtcSet_iff {dateTime : Rtc.DateTime} :
    Call.rtcSetDateTime dateTime true ∈ (parts.rtcSet dateTime answers).calls ↔
      parts.rtc.TakesDateTime dateTime := by
  unfold rtcSet
  rw [← Rtc.State.setDateTime_accepted_iff]
  constructor
  · intro h
    injection List.mem_singleton.1 h with _ haccepted
    exact haccepted.symm
  · intro h
    exact List.mem_singleton.2 (by rw [h])

theorem rtcAlarm_iff {command : RtcAlarmCommand}
    (hcommand : decodeRtcAlarmCommand payload = some command) :
    (∃ command', decodeRtcAlarmCommand payload = some command' ∧
        Call.rtcSetAlarm command'.config true ∈ (parts.handleRtcSetAlarm payload answers).calls) ↔
      parts.rtc.TakesAlarm command.config := by
  unfold handleRtcSetAlarm
  rw [hcommand, ← Rtc.State.setAlarm_accepted_iff]
  constructor
  · rintro ⟨command', hsame, h⟩
    injection List.mem_singleton.1 h with _ haccepted
    exact haccepted.symm
  · intro h
    exact ⟨command, rfl, List.mem_singleton.2 (by rw [h])⟩

/-- What is set does not depend on the self-test that is given up. -/
theorem cancelSelfTest_accepts {frequencyHz : UInt32} {dutyPercent : UInt8} :
    (parts.cancelSelfTest answers).pwm.accepts frequencyHz dutyPercent =
      parts.pwm.accepts frequencyHz dutyPercent := by
  obtain ⟨hinitialized, hclock⟩ :=
    Control.SelfTest.State.cancel_initialized
  unfold cancelSelfTest
  split
  · rfl
  · have hpwm := (State.logAll_sameParts [terminalEntry (parts.selfTest.cancel parts.pwm
      answers.timer).1] { parts with
        selfTest := (parts.selfTest.cancel parts.pwm answers.timer).1
        pwm := (parts.selfTest.cancel parts.pwm answers.timer).2 } answers.uptime).pwm
    dsimp only
    rw [hpwm]
    exact Control.Pwm.accepts_congr hinitialized hclock

/-- The second part of the command sets the output where it is accepted. -/
theorem pwmSetOutput_iff {frequencyHz : UInt32} {dutyPercent : UInt8} :
    (Call.pwmSet frequencyHz dutyPercent .ok ∈
          (parts.pwmSetOutput frequencyHz dutyPercent).calls ∧
        (parts.pwmSetOutput frequencyHz dutyPercent).parts.policy.pwmRequested = true) ↔
      parts.pwm.accepts frequencyHz dutyPercent = true := by
  have hset : (parts.pwm.set frequencyHz dutyPercent).1 = .ok ↔ _ := Control.Pwm.set_ok_iff
  rw [← hset]
  unfold pwmSetOutput
  dsimp only
  constructor
  · rintro ⟨hcall, -⟩
    injection List.mem_singleton.1 hcall with _ _ hok
    exact hok.symm
  · intro hok
    rw [if_pos hok]
    refine ⟨List.mem_singleton.2 (by rw [hok]), ?_⟩
    exact Control.Policy.pwmRequested_setPwmRequest _ true

theorem pwmSet_iff : (if readLe32 (payload.drop 1) = 0
      then (parts.pwmSet payload answers).parts.policy.pwmRequested = false
      else .pwmSet (readLe32 (payload.drop 1)) (payload.at' 5) .ok ∈
          (parts.pwmSet payload answers).calls ∧
        (parts.pwmSet payload answers).parts.policy.pwmRequested = true) ↔
    readLe32 (payload.drop 1) = 0 ∨
      parts.pwm.accepts (readLe32 (payload.drop 1)) (payload.at' 5) = true := by
  unfold pwmSet
  dsimp only
  generalize readLe32 (payload.drop 1) = frequencyHz
  by_cases hzero : frequencyHz = 0
  · rw [if_pos hzero, if_pos hzero]
    refine ⟨fun _ => .inl hzero, fun _ => ?_⟩
    exact Control.Policy.pwmRequested_setPwmRequest _ false
  · rw [if_neg hzero, if_neg hzero, or_iff_right hzero]
    cases parts.selfTest.isRunning with
    | false => exact pwmSetOutput_iff
    | true =>
      rw [← cancelSelfTest_accepts, ← pwmSetOutput_iff]
      refine and_congr_left fun _ => ⟨fun h => ?_, List.mem_append_right _⟩
      rcases List.mem_append.1 h with hcancelled | hset
      · exact absurd (List.mem_singleton.1 hcancelled) nofun
      · exact hset

/-- A self-test that is given up. -/
theorem cancelSelfTest_iff : ((parts.cancelSelfTest answers).selfTest.isRunning = false ∧
      (parts.selfTest.isRunning = true →
        (parts.cancelSelfTest answers).selfTest.code = .cancelled)) ↔
    (parts.selfTest.isRunning = true →
      parts.selfTest.restores parts.pwm answers.timer = true) := by
  rw [← Control.SelfTest.State.restoreOutput_ok_iff]
  unfold cancelSelfTest
  split
  · next hidle => exact ⟨fun _ hrunning => absurd (hidle.symm.trans hrunning) nofun,
      fun _ => ⟨hidle, fun hrunning => absurd (hidle.symm.trans hrunning) nofun⟩⟩
  · next hrunning =>
    have hsame := (State.logAll_sameParts [terminalEntry (parts.selfTest.cancel parts.pwm
      answers.timer).1] { parts with
        selfTest := (parts.selfTest.cancel parts.pwm answers.timer).1
        pwm := (parts.selfTest.cancel parts.pwm answers.timer).2 } answers.uptime).selfTest
    dsimp only
    rw [hsame]
    dsimp only
    unfold Control.SelfTest.State.cancel
    rw [if_neg hrunning]
    by_cases hok : (parts.selfTest.restoreOutput parts.pwm answers.timer).1 = .ok
    · simp [hok, Control.SelfTest.State.isRunning]
    · simp [hok, Control.SelfTest.State.isRunning]

theorem pwmSelfTest_iff : (if payload.at' 1 = 0
      then (parts.pwmSelfTest payload answers).parts.selfTest.isRunning = false ∧
        (parts.selfTest.isRunning = true →
          (parts.pwmSelfTest payload answers).parts.selfTest.code = .cancelled)
      else .selfTestStart .ok ∈ (parts.pwmSelfTest payload answers).calls ∧
        (parts.pwmSelfTest payload answers).parts.selfTest.isRunning = true) ↔
    if payload.at' 1 = 0 then parts.selfTest.isRunning = true →
      parts.selfTest.restores parts.pwm answers.timer = true
    else parts.policy.pwmPermitted = true ∧ parts.selfTest.isRunning = false ∧
      parts.pwm.initialized = true ∧ parts.captureInitialized = true := by
  unfold pwmSelfTest
  split
  · exact cancelSelfTest_iff
  · dsimp only
    cases parts.policy.pwmPermitted with
    | false => simp
    | true =>
      simp only [reduceIte, true_and]
      unfold Control.SelfTest.State.start
      cases hrunning : parts.selfTest.isRunning with
      | true => simp
      | false =>
        cases parts.pwm.initialized <;> cases parts.captureInitialized <;>
          simp [Control.SelfTest.State.isRunning]

end Parts

/-! ## The flag -/

/-- What the record of a command that ran says. -/
structure Dispatched.Checked (dispatched : Dispatched) (record : FrameRecord) : Prop where
  valid : validPayload dispatched.payload dispatched.code = true
  payload : dispatched.payload = record.frame.payload
  handled : dispatched.handled =
    dispatched.before.handle dispatched.payload dispatched.answers dispatched.code
  acked : ∃ ack, record.acks = [ack] ∧ ack.bytes.at' 3 = State.AckStatus.accepted.value ∧
    (ack.bytes.at' 4 &&& State.ackFlagExecuted ≠ 0 ↔ dispatched.handled.executed = true)

/-- **The flag of a command tells the truth exactly when its handler takes
it.** -/
theorem executed_iff {dispatched : Dispatched} {record : FrameRecord}
    (h : dispatched.Checked record) :
    (dispatched.handled.executed = true ↔ dispatched.TookEffect) ↔
      dispatched.before.Takes dispatched.payload dispatched.answers dispatched.code := by
  obtain ⟨code, payload, answers, time, openings, before, handled⟩ := dispatched
  obtain ⟨hvalid, -, hhandled, -⟩ := h
  dsimp only at hvalid hhandled ⊢
  subst hhandled
  unfold Dispatched.TookEffect
  cases code with
  | setSlot1 =>
    have hconfigured := (@Parts.configured_of_valid _ before.slot1) (.inl rfl) hvalid
    exact iff_of_true (iff_of_true rfl hconfigured) trivial
  | setSlot2 =>
    have hconfigured := (@Parts.configured_of_valid _ before.slot2) (.inr rfl) hvalid
    exact iff_of_true (iff_of_true rfl hconfigured) trivial
  | startSlot1Counter =>
    have hrequested : (before.startSlot1Counter payload answers).policy.slot1Requested =
        (before.slot1.startCounter payload answers.tick).1 :=
      Control.Policy.slot1Requested_setSlotRequest before.policy _
    -- the flag is always set here, so the truth is whether the counter is done
    refine (iff_true_left rfl).trans ?_
    change CounterDone _ (before.startSlot1Counter payload answers).policy.slot1Requested _ ↔ _
    rw [hrequested]
    exact Parts.counterDone_iff
  | startSlot2Counter =>
    have hrequested : (before.startSlot2Counter payload answers).policy.slot2Requested =
        (before.slot2.startCounter payload answers.tick).1 :=
      Control.Policy.slot2Requested_setSlotRequest before.policy _
    refine (iff_true_left rfl).trans ?_
    change CounterDone _ (before.startSlot2Counter payload answers).policy.slot2Requested _ ↔ _
    rw [hrequested]
    exact Parts.counterDone_iff
  | ledControl =>
    -- the validation has let only the two LEDs through
    have hled : payload.at' 1 = 1 ∨ payload.at' 1 = 2 := by
      simp only [validPayload, Bool.and_eq_true, decide_eq_true_eq, UInt8.le_iff_toNat_le] at hvalid
      obtain ⟨⟨⟨hlow, hhigh⟩, -⟩, -⟩ := hvalid
      change 1 ≤ (payload.at' 1).toNat at hlow
      change (payload.at' 1).toNat ≤ 2 at hhigh
      rcases (by omega : (payload.at' 1).toNat = 1 ∨ (payload.at' 1).toNat = 2) with hone | htwo
      · exact .inl (UInt8.toNat_inj.1 hone)
      · exact .inr (UInt8.toNat_inj.1 htwo)
    exact iff_of_true (iff_of_true rfl (Parts.ledDone hled)) trivial
  | rtcSetTime => exact (iff_true_left rfl).trans Parts.rtcSet_iff
  | rtcSetDateTime => exact (iff_true_left rfl).trans Parts.rtcSet_iff
  | rtcSetAlarm =>
    obtain ⟨command, hcommand⟩ := Option.isSome_iff_exists.1 hvalid
    have hexecuted : (before.handle payload answers .rtcSetAlarm).executed = true := by
      change (before.handleRtcSetAlarm payload answers).executed = true
      unfold Parts.handleRtcSetAlarm
      rw [hcommand]
    refine (iff_true_left hexecuted).trans ((Parts.rtcAlarm_iff hcommand).trans ?_)
    refine ⟨fun h command' hcommand' => ?_, fun h => h command hcommand⟩
    rwa [← Option.some.inj (hcommand.symm.trans hcommand')]
  | pwmSet =>
    have hexecuted : (before.handle payload answers .pwmSet).executed = true := by
      change (before.pwmSet payload answers).executed = true
      unfold Parts.pwmSet
      dsimp only
      split <;> rfl
    exact (iff_true_left hexecuted).trans Parts.pwmSet_iff
  | pwmSelfTest =>
    have hexecuted : (before.handle payload answers .pwmSelfTest).executed = true := by
      change (before.pwmSelfTest payload answers).executed = true
      unfold Parts.pwmSelfTest
      split
      · rfl
      · split <;> rfl
    exact (iff_true_left hexecuted).trans Parts.pwmSelfTest_iff
  | logGetInfo =>
    -- the flag does not wait for the frames, which the sender may lose
    refine (iff_true_left rfl).trans (Iff.trans ?_ (Log.sendInfo_done_iff before.sender before.log))
    exact ⟨fun h => (Call.logSendInfo.inj (List.mem_singleton.1 h)).symm,
      fun h => List.mem_singleton.2 (congrArg Call.logSendInfo h.symm)⟩
  | logReadSequence =>
    refine (iff_true_left rfl).trans (Iff.trans ?_
      (Log.sendRecord_done_iff before.sender before.log _))
    exact ⟨fun h => (Call.logSendRecord.inj (List.mem_singleton.1 h)).2.symm,
      fun h => List.mem_singleton.2 (congrArg (Call.logSendRecord _) h.symm)⟩
  | tic12400SetPolarity =>
    obtain ⟨mask, hmask⟩ := Option.isSome_iff_exists.1 hvalid
    -- the flag is the answer of the driver, and the call is recorded with it
    refine iff_of_true ?_ trivial
    change (before.tic12400SetPolarity payload answers).executed = true ↔
      ∃ mask', decodeTic12400PolarityCommand payload = some mask' ∧
        Call.ticSetMask mask' true ∈ (before.tic12400SetPolarity payload answers).calls
    unfold Parts.tic12400SetPolarity
    rw [hmask]
    constructor
    · intro haccepted
      exact ⟨mask, rfl, List.mem_singleton.2 (congrArg (Call.ticSetMask mask) haccepted.symm)⟩
    · rintro ⟨mask', -, hcall⟩
      exact (Call.ticSetMask.inj (List.mem_singleton.1 hcall)).2.symm

/-! ## Runs -/

/-- The seconds left of the window do not touch the flag. -/
theorem executed_flag (executed : Bool) (remainingMs : UInt32) :
    (if remainingMs = 0 then (if executed then State.ackFlagExecuted else 0)
      else (if executed then State.ackFlagExecuted else 0) ||| State.ackFlagAccessOpen) &&&
        State.ackFlagExecuted ≠ 0 ↔ executed = true := by
  split <;> cases executed <;> decide

theorem Ran.checked {state state' : State} {frame : Frame} {turn : Turn} {record : FrameRecord}
    {dispatched : Dispatched} (h : State.Ran state frame turn state' record dispatched) :
    dispatched.Checked record := by
  obtain ⟨ack, hacks, hack⟩ := h.acked
  constructor
  case valid =>
    rw [h.payload]
    exact h.valid
  case payload => rw [h.payload, h.ofFrame]
  case handled => exact h.handled
  case acked =>
    refine ⟨ack, hacks, by rw [Ack.bytes, hack]; rfl, ?_⟩
    rw [Ack.bytes, hack]
    exact executed_flag _ _

/-- The records of the commands that ran. -/
def AllChecked (state : State) : Prop :=
  ∀ record ∈ state.frames, ∀ dispatched, record.dispatched = some dispatched →
    dispatched.Checked record

theorem processFrame_checked {state : State} {frame : Frame} {turn : Turn} (h : AllChecked state) :
    AllChecked (state.processFrame frame turn) := by
  obtain ⟨record, hframes, hnew⟩ :=
    State.processFrame_frames
  intro record' hrecord' dispatched' hdispatched'
  rw [hframes] at hrecord'
  rcases List.mem_cons.1 hrecord' with rfl | hearlier
  · rcases hnew with hidle | ⟨dispatched, hran⟩
    · exact absurd (hidle.recorded.symm.trans hdispatched') nofun
    · obtain rfl := Option.some.inj (hran.recorded.symm.trans hdispatched')
      exact Ran.checked hran
  · exact h record' hearlier dispatched' hdispatched'

theorem step_checked (state : State) (event : Event) (h : AllChecked state) :
    AllChecked (step state event) := by
  refine step_invariant (I := AllChecked) ?_ ?_ ?_ ?_ ?_ ?_ state event h
  · intro state reading uptime h
    have hframes := (State.updateControlAccess_updated state reading uptime).frames
    unfold AllChecked
    rw [hframes]
    exact h
  · intro state errorCode uptime h
    have hframes := (State.recordRxReject_rejected state .halError 0 errorCode uptime).frames
    unfold AllChecked
    rw [hframes]
    exact h
  · intro state frame turn h
    exact processFrame_checked h
  · intro state h
    exact h
  · intro state h
    exact h
  · intro state parts h
    exact h

/-- **The flag is true to the command exactly when the handler takes it**,
of every command in every run. -/
theorem truthful_iff (events : List Event) : ∀ record ∈ (run step {} events).frames,
    ∀ dispatched, record.dispatched = some dispatched →
      ∃ ack, record.acks = [ack] ∧ ack.bytes.at' 3 = State.AckStatus.accepted.value ∧
        ((ack.bytes.at' 4 &&& State.ackFlagExecuted ≠ 0 ↔ dispatched.TookEffect) ↔
          dispatched.before.Takes dispatched.payload dispatched.answers dispatched.code) := by
  intro record hrecord dispatched hdispatched
  have hchecked := run_invariant (I := AllChecked) step_checked events {} (List.forall_mem_nil _)
    record hrecord dispatched hdispatched
  obtain ⟨ack, hacks, hstatus, hflag⟩ := hchecked.acked
  refine ⟨ack, hacks, hstatus, ?_⟩
  rw [hflag]
  exact executed_iff hchecked

/-- The counter of slot 1 is started on a limit of five, on a slot that
was never configured. -/
def counterRun : List Event :=
  [.press, .process { now := 1000 } 0
    [{ reading := .frame (.ofCommand #v[0x11, 0, 5, 0, 0, 0, 0, 0]), access := { now := 1001 } }]]

theorem truthful_iff_counterRun : ∃ record ∈ (run step {} counterRun).frames, ∃ dispatched,
    record.dispatched = some dispatched ∧
      ∃ ack, record.acks = [ack] ∧ ack.bytes.at' 3 = State.AckStatus.accepted.value ∧
        ((ack.bytes.at' 4 &&& State.ackFlagExecuted ≠ 0 ↔ dispatched.TookEffect) ↔
          dispatched.before.Takes dispatched.payload dispatched.answers dispatched.code) := by
  have hran : (run step {} counterRun).frames.map (fun record => record.dispatched.map fun d =>
      d.code) = [some .startSlot1Counter] := by decide +kernel
  obtain ⟨record, hframes, hsome⟩ := List.map_eq_singleton_iff.1 hran
  obtain ⟨dispatched, hdispatched, -⟩ := Option.map_eq_some_iff.1 hsome
  have hmem : record ∈ (run step {} counterRun).frames := by
    rw [hframes]
    exact List.mem_singleton_self _
  exact ⟨record, hmem, dispatched, hdispatched,
    truthful_iff counterRun record hmem dispatched hdispatched⟩

/-- **The flag is set and the counter did not start.** -/
theorem counterRun_executed : ∃ record dispatched ack,
    (run step {} counterRun).frames = [record] ∧ record.dispatched = some dispatched ∧
      record.acks = [ack] ∧ ack.bytes.at' 3 = State.AckStatus.accepted.value ∧
      ack.bytes.at' 4 &&& State.ackFlagExecuted ≠ 0 ∧ ¬dispatched.TookEffect := by
  have hacks : (run step {} counterRun).frames.map (fun record => record.acks.map fun ack =>
      (ack.bytes.at' 3, ack.bytes.at' 4 &&& State.ackFlagExecuted)) = [[(0, 1)]] := by decide +kernel
  have hslot : (run step {} counterRun).frames.map (fun record => record.dispatched.map fun d =>
      (d.code, Slot.commandedLimit d.payload, d.handled.parts.slot1.requestedRunning)) =
        [some (.startSlot1Counter, 5, false)] := by decide +kernel
  obtain ⟨record, hframes, hack⟩ := List.map_eq_singleton_iff.1 hacks
  rw [hframes] at hslot
  obtain ⟨ack, hack, hfields⟩ := List.map_eq_singleton_iff.1 hack
  obtain ⟨dispatched, hdispatched, hdeclined⟩ :=
    Option.map_eq_some_iff.1 (List.singleton_inj.1 hslot)
  obtain ⟨hstatus, hflag⟩ := Prod.mk.inj hfields
  obtain ⟨hcode, hrest⟩ := Prod.mk.inj hdeclined
  obtain ⟨hlimit, hrunning⟩ := Prod.mk.inj hrest
  refine ⟨record, dispatched, ack, hframes, hdispatched, hack, hstatus, by rw [hflag]; decide, ?_⟩
  unfold Dispatched.TookEffect
  dsimp only
  rw [hcode]
  intro hdone
  unfold CounterDone at hdone
  rw [hlimit, if_neg (by decide)] at hdone
  exact absurd (hrunning.symm.trans hdone.1.2.2) nofun

end Command

end CanGui
