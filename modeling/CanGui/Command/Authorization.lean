import CanGui.Command.Exits
/-!
# GUI commands — the operator's authorization

A handler switches something on, or sets the clock or the battery mask,
only within four minutes of an update that consumed a press of the button;
what switches off or only reads needs no button.
-/

namespace CanGui

namespace Command

open Control (Policy)

/-- A call that sets something in motion. -/
def Call.engages : Call → Bool
  | .pwmSet .. | .selfTestStart .. | .rtcSetDateTime .. | .rtcSetAlarm .. | .ticSetMask .. => true
  | .selfTestCancel | .logSendInfo .. | .logSendRecord .. => false

/-- The handler raised a request. -/
def Dispatched.Raises (dispatched : Dispatched) : Prop :=
  dispatched.before.policy.requests.rises dispatched.handled.parts.policy.requests = true

/-- The handler raised a request or made a call that engages. -/
def Dispatched.Engages (dispatched : Dispatched) : Prop :=
  dispatched.Raises ∨ ∃ call ∈ dispatched.handled.calls, call.engages = true

/-- Less than the window's length has passed since an update consumed a
press. -/
def Dispatched.InWindow (dispatched : Dispatched) : Prop :=
  ∃ opening ∈ dispatched.openings, opening.time ≤ dispatched.time ∧
    dispatched.time < opening.time + controlAccessWindowMs ∧ 0 < opening.requests

/-- What switches a slot, an LED, the output or the self-test off, and
what only reads. -/
def switchesOff (payload : Bytes) : Code → Bool
  | .setSlot1 | .setSlot2 => Control.Slot.commandedEnable payload == false
  | .startSlot1Counter | .startSlot2Counter => Control.Slot.commandedLimit payload == 0
  | .ledControl => payload.at' 2 == 0
  | .pwmSet => readLe32 (payload.drop 1) == 0
  | .pwmSelfTest => payload.at' 1 == 0
  | .logGetInfo | .logReadSequence => true
  | .rtcSetTime | .rtcSetDateTime | .rtcSetAlarm | .tic12400SetPolarity => false

/-! ## The handlers -/

namespace Parts

variable {parts : Parts} {payload : Bytes} {answers : Answers}

/-- What is switched off raises no request. -/
theorem rises_setSlot (number : Nat) (hnumber : number = 1 ∨ number = 2) (policy : Policy) :
    policy.requests.rises (policy.setSlotRequest number false).requests = false := by
  rcases hnumber with rfl | rfl
  · rw [Policy.requests_setSlotRequest_one]
    simp [Policy.Requests.rises]
  · rw [Policy.requests_setSlotRequest_two]
    simp [Policy.Requests.rises]

theorem rises_setLed (led : UInt8) (policy : Policy) :
    policy.requests.rises (policy.setLedRequest led false).requests = false := by
  rw [Policy.requests_setLedRequest]
  by_cases hone : led = 1 <;> by_cases htwo : led = 2 <;> simp [Policy.Requests.rises, hone, htwo]

theorem rises_setPwm (policy : Policy) :
    policy.requests.rises (policy.setPwmRequest false).requests = false := by
  rw [Policy.requests_setPwmRequest]
  simp [Policy.Requests.rises]

theorem cancelSelfTest_policy : (parts.cancelSelfTest answers).policy = parts.policy := by
  unfold cancelSelfTest
  split
  · rfl
  · exact (State.logAll_sameParts _ _ _).policy

/-- **A command without privilege switches off or reads**, and its handler
raises nothing and engages nothing. -/
theorem handle_unprivileged {code : Code} (hcode : codeOf payload = some code)
    (h : isPrivileged payload = false) :
    parts.policy.requests.rises (parts.handle payload answers code).parts.policy.requests = false ∧
      ∀ call ∈ (parts.handle payload answers code).calls, call.engages = false := by
  unfold isPrivileged at h
  rw [hcode] at h
  cases code with
  | setSlot1 => exact ⟨rises_setSlot 1 (.inl rfl) _, List.forall_mem_nil _⟩
  | setSlot2 => exact ⟨rises_setSlot 2 (.inr rfl) _, List.forall_mem_nil _⟩
  | startSlot1Counter =>
    -- starting a counter without privilege is starting it at zero, which stops the slot
    have hlimit : Control.Slot.commandedLimit payload = 0 := bne_eq_false_iff_eq.1 h
    obtain ⟨-, hrequested⟩ :=
      Control.Slot.startCounter_stopped hlimit
    refine ⟨?_, List.forall_mem_nil _⟩
    change parts.policy.requests.rises
      (parts.policy.setSlotRequest 1 (parts.slot1.startCounter payload answers.tick).1).requests = _
    rw [hrequested]
    exact rises_setSlot 1 (.inl rfl) _
  | startSlot2Counter =>
    have hlimit : Control.Slot.commandedLimit payload = 0 := bne_eq_false_iff_eq.1 h
    obtain ⟨-, hrequested⟩ :=
      Control.Slot.startCounter_stopped hlimit
    refine ⟨?_, List.forall_mem_nil _⟩
    change parts.policy.requests.rises
      (parts.policy.setSlotRequest 2 (parts.slot2.startCounter payload answers.tick).1).requests = _
    rw [hrequested]
    exact rises_setSlot 2 (.inr rfl) _
  | ledControl =>
    have hoff : (payload.at' 2 != 0) = false := h
    refine ⟨?_, List.forall_mem_nil _⟩
    change parts.policy.requests.rises
      (parts.policy.setLedRequest (payload.at' 1) (payload.at' 2 != 0)).requests = _
    rw [hoff]
    exact rises_setLed _ _
  | pwmSet =>
    have hzero : readLe32 (payload.drop 1) = 0 := by simpa using h
    unfold handle pwmSet
    dsimp only
    rw [if_pos hzero]
    -- switching off is done through the end of a running test
    cases parts.selfTest.isRunning with
    | false => exact ⟨rises_setPwm _, List.forall_mem_nil _⟩
    | true =>
      refine ⟨?_, fun call hcall => ?_⟩
      · change parts.policy.requests.rises
          ((parts.cancelSelfTest answers).policy.setPwmRequest false).requests = _
        rw [cancelSelfTest_policy]
        exact rises_setPwm _
      · rw [List.mem_singleton.1 hcall]
        rfl
  | pwmSelfTest =>
    have hzero : payload.at' 1 = 0 := by simpa using h
    unfold handle pwmSelfTest
    rw [if_pos hzero]
    refine ⟨?_, fun call hcall => ?_⟩
    · change parts.policy.requests.rises (parts.cancelSelfTest answers).policy.requests = _
      rw [cancelSelfTest_policy]
      exact Policy.Requests.rises_self _
    · rw [List.mem_singleton.1 hcall]
      rfl
  | logGetInfo =>
    refine ⟨Policy.Requests.rises_self _, fun call hcall => ?_⟩
    rw [List.mem_singleton.1 hcall]
    rfl
  | logReadSequence =>
    refine ⟨Policy.Requests.rises_self _, fun call hcall => ?_⟩
    rw [List.mem_singleton.1 hcall]
    rfl
  -- these are privileged whatever they carry
  | rtcSetTime => cases h
  | rtcSetDateTime => cases h
  | rtcSetAlarm => cases h
  | tic12400SetPolarity => cases h

end Parts

/-- **What switches off or reads has no privilege.** -/
theorem isPrivileged_eq_false {payload : Bytes} {code : Code} (hcode : codeOf payload = some code)
    (hoff : switchesOff payload code = true) : isPrivileged payload = false := by
  unfold isPrivileged
  rw [hcode]
  cases code with
  | setSlot1 => simpa [switchesOff, Control.Slot.commandedEnable] using hoff
  | setSlot2 => simpa [switchesOff, Control.Slot.commandedEnable] using hoff
  | startSlot1Counter => simpa [switchesOff, Control.Slot.commandedLimit] using hoff
  | startSlot2Counter => simpa [switchesOff, Control.Slot.commandedLimit] using hoff
  | ledControl => simpa [switchesOff] using hoff
  | pwmSet => simpa [switchesOff] using hoff
  | pwmSelfTest => simpa [switchesOff] using hoff
  | logGetInfo => rfl
  | logReadSequence => rfl
  | rtcSetTime => cases hoff
  | rtcSetDateTime => cases hoff
  | rtcSetAlarm => cases hoff
  | tic12400SetPolarity => cases hoff

/-! ## Runs -/

/-- What the records say of the accepted commands, and what the window is
worth. -/
structure Authorized (state : State) : Prop where
  sound : state.access.Sound
  dispatched : ∀ record ∈ state.frames, ∀ dispatched, record.dispatched = some dispatched →
    dispatched.openings <:+ state.access.openings ∧
      (dispatched.Engages → state.access.Timely → dispatched.InWindow)

theorem authorized_init : Authorized {} where
  sound := Access.sound_init
  dispatched := List.forall_mem_nil _

namespace Access

variable {access : Access}

theorem timely_of_update {reading : AccessReading} (h : (access.update reading).2.Timely) :
    access.Timely := by
  unfold Timely at *
  rw [updates_update] at h
  exact h.tail

theorem openings_update (reading : AccessReading) :
    access.openings <:+ (access.update reading).2.openings := by
  unfold update
  dsimp only
  split
  · exact List.suffix_cons _ _
  · split <;> exact List.suffix_refl _

end Access

variable {state state' : State} {frame : Frame} {turn : Turn}

/-- What a step that does not run a command keeps. -/
theorem Authorized.mono (h : Authorized state) (hsound : state'.access.Sound)
    (htimely : state'.access.Timely → state.access.Timely)
    (hopenings : state.access.openings <:+ state'.access.openings)
    (hframes : ∀ record ∈ state'.frames, record.dispatched = none ∨ record ∈ state.frames) :
    Authorized state' where
  sound := hsound
  dispatched := by
    intro record hrecord dispatched hdispatched
    rcases hframes record hrecord with hnone | hearlier
    · exact absurd (hnone.symm.trans hdispatched) nofun
    · obtain ⟨hsuffix, hwindow⟩ := h.dispatched record hearlier dispatched hdispatched
      exact ⟨hsuffix.trans hopenings, fun hengages ht => hwindow hengages (htimely ht)⟩

/-- An update of the window. -/
theorem Authorized.update (h : Authorized state) {reading : AccessReading}
    (haccess : state'.access = (state.access.update reading).2)
    (hframes : ∀ record ∈ state'.frames, record.dispatched = none ∨ record ∈ state.frames) :
    Authorized state' := by
  refine h.mono ?_ ?_ ?_ hframes
  · rw [haccess]
    exact h.sound.update reading
  · rw [haccess]
    exact Access.timely_of_update
  · rw [haccess]
    exact Access.openings_update reading

/-- **A command that engages something runs in an open window.** -/
theorem Ran.inWindow {record : FrameRecord} {dispatched : Dispatched}
    (h : State.Ran state frame turn state' record dispatched) (hsound : state'.access.Sound)
    (hengages : dispatched.Engages) (htimely : state'.access.Timely) : dispatched.InWindow := by
  have hprivileged : isPrivileged frame.payload = true := by
    by_contra hnot
    obtain ⟨hraises, hcalls⟩ := Parts.handle_unprivileged h.codeOf (eq_false_of_ne_true hnot)
    rw [← h.payload, ← h.handled] at hraises hcalls
    rcases hengages with hraised | ⟨call, hcall, hengaging⟩
    · exact absurd (hraised.symm.trans hraises) nofun
    · exact absurd (hengaging.symm.trans (hcalls call hcall)) nofun
  have hnow : state'.access.updates.head? = some dispatched.time := by
    rw [h.access, Access.updates_update, h.time]
    rfl
  obtain ⟨opening, hopening, hafter, hbefore, hpressed⟩ :=
    hsound.isOpen htimely hnow (h.allowed hprivileged)
  refine ⟨opening, ?_, hafter, hbefore, hpressed⟩
  rw [h.openings]
  exact hopening

theorem processFrame_authorized (h : Authorized state) :
    Authorized (state.processFrame frame turn) := by
  obtain ⟨record, hframes, hidle | ⟨dispatched, hran⟩⟩ :=
    State.processFrame_frames
  · have hnew : ∀ record' ∈ (state.processFrame frame turn).frames,
        record'.dispatched = none ∨ record' ∈ state.frames := by
      intro record' hrecord'
      rw [hframes] at hrecord'
      exact (List.mem_cons.1 hrecord').imp
        (fun heq => (congrArg FrameRecord.dispatched heq).trans hidle.recorded) id
    rcases hidle.access with hsame | hupdated
    · refine h.mono (hsame ▸ h.sound) ?_ ?_ hnew
      · rw [hsame]
        exact id
      · simp only [hsame, List.suffix_refl]
    · exact h.update hupdated hnew
  · have hsound : (state.processFrame frame turn).access.Sound := by
      rw [hran.access]
      exact h.sound.update _
    have hsuffix : state.access.openings <:+ (state.processFrame frame turn).access.openings := by
      rw [hran.access]
      exact Access.openings_update _
    refine ⟨hsound, fun record' hrecord' dispatched' hdispatched' => ?_⟩
    rw [hframes] at hrecord'
    rcases List.mem_cons.1 hrecord' with rfl | hearlier
    · obtain rfl := Option.some.inj (hran.recorded.symm.trans hdispatched')
      refine ⟨?_, fun hengages htimely => Ran.inWindow hran hsound hengages htimely⟩
      simp only [hran.openings, List.suffix_refl]
    · obtain ⟨hopenings, hwindow⟩ := h.dispatched record' hearlier dispatched' hdispatched'
      refine ⟨hopenings.trans hsuffix, fun hengages htimely => hwindow hengages ?_⟩
      rw [hran.access] at htimely
      exact Access.timely_of_update htimely

theorem step_authorized (state : State) (event : Event) (h : Authorized state) :
    Authorized (step state event) := by
  refine step_invariant ?_ ?_ ?_ ?_ ?_ ?_ state event h
  · intro state reading uptime h
    have hupdated := State.updateControlAccess_updated state reading uptime
    exact h.update hupdated.access fun record hrecord => .inr (hupdated.frames ▸ hrecord)
  · intro state errorCode uptime h
    have hrejected := State.recordRxReject_rejected state .halError 0 errorCode uptime
    refine h.mono (hrejected.access ▸ h.sound) ?_ ?_ fun record hrecord =>
      .inr (hrejected.frames ▸ hrecord)
    · rw [hrejected.access]
      exact id
    · simp only [hrejected.access, List.suffix_refl]
  · intro state frame turn h
    exact processFrame_authorized h
  · intro state h
    exact ⟨h.sound, h.dispatched⟩
  · intro state h
    exact ⟨h.sound.request 1, h.dispatched⟩
  · intro state parts h
    exact ⟨h.sound, h.dispatched⟩

/-! ## Where requests rise -/

/-- The frames read between two states; one of them ran a command that
raised a request if a request rose. -/
def RaisedByFrames (before after : State) : Prop :=
  ∃ new, after.frames = new ++ before.frames ∧
    (before.parts.policy.requests.rises after.parts.policy.requests = true →
      ∃ record ∈ new, ∃ dispatched, record.dispatched = some dispatched ∧ dispatched.Raises)

theorem RaisedByFrames.of_same (hframes : state'.frames = state.frames)
    (hparts : State.SameParts state.parts state'.parts) : RaisedByFrames state state' := by
  refine ⟨[], hframes, fun hrises => ?_⟩
  rw [hparts.policy, Policy.Requests.rises_self] at hrises
  exact absurd hrises nofun

theorem RaisedByFrames.trans {before between after : State} (h : RaisedByFrames before between)
    (h' : RaisedByFrames between after) : RaisedByFrames before after := by
  obtain ⟨new, hframes, hraised⟩ := h
  obtain ⟨new', hframes', hraised'⟩ := h'
  refine ⟨new' ++ new, by rw [hframes', hframes, List.append_assoc], fun hrises => ?_⟩
  rcases Policy.Requests.rises_trans hrises with
    hfirst | hsecond
  · obtain ⟨record, hrecord, hdispatched⟩ := hraised hfirst
    exact ⟨record, List.mem_append_right new' hrecord, hdispatched⟩
  · obtain ⟨record, hrecord, hdispatched⟩ := hraised' hsecond
    exact ⟨record, List.mem_append_left new hrecord, hdispatched⟩

theorem processFrame_raised : RaisedByFrames state (state.processFrame frame turn) := by
  obtain ⟨record, hframes, hidle | ⟨dispatched, hran⟩⟩ :=
    State.processFrame_frames
  · refine ⟨[record], hframes, fun hrises => ?_⟩
    rw [hidle.parts.policy, Policy.Requests.rises_self] at hrises
    exact absurd hrises nofun
  · refine ⟨[record], hframes, fun hrises => ?_⟩
    refine ⟨record, List.mem_singleton_self record, dispatched, hran.recorded, ?_⟩
    rw [Dispatched.Raises, hran.before.policy, ← hran.parts]
    exact hrises

theorem halError_raised (errorCode uptime : UInt32) :
    RaisedByFrames state (state.recordRxReject .halError 0 errorCode uptime) := by
  have hrejected := State.recordRxReject_rejected state .halError 0 errorCode uptime
  exact .of_same hrejected.frames hrejected.parts

theorem processRxCommand_raised (access : AccessReading) (openedAt : UInt32) (turns : List Turn) :
    RaisedByFrames state (state.processRxCommand access openedAt turns) := by
  have hupdated := State.updateControlAccess_updated state access openedAt
  have hstart : RaisedByFrames state (state.updateControlAccess access openedAt) :=
    .of_same hupdated.frames hupdated.parts
  have hframes := State.processFrames_invariant (I := RaisedByFrames state)
    (fun s errorCode uptime h => h.trans (halError_raised errorCode uptime))
    (fun s frame turn h => h.trans processFrame_raised) rxFrameBudgetPerProcess turns _ hstart
  unfold State.processRxCommand
  dsimp only
  split
  · exact hframes
  · exact hframes

/-! ## What needs no button -/

/-- **What switches off or only reads is accepted in every state.** -/
theorem accepted_of_switchesOff {code : Code} (hframe : frame.isCommand = true)
    (hcode : codeOf frame.payload = some code) (hvalid : validPayload frame.payload code = true)
    (hoff : switchesOff frame.payload code = true) :
    ∃ record dispatched ack, (state.processFrame frame turn).frames = record :: state.frames ∧
      record.dispatched = some dispatched ∧ dispatched.code = code ∧ record.acks = [ack] ∧
      ack.bytes.at' 3 = State.AckStatus.accepted.value := by
  have hunprivileged := isPrivileged_eq_false hcode hoff
  have hvalidation : validate frame.payload = .valid := validate_valid_iff.2 ⟨code, hcode, hvalid⟩
  obtain ⟨record, hframes, hidle | ⟨dispatched, hran⟩⟩ :=
    @State.processFrame_frames state frame turn
  · have hprivileged := hidle.unprivileged hframe hvalidation
    exact absurd (hunprivileged.symm.trans hprivileged) nofun
  · obtain ⟨ack, hacks, hack⟩ := hran.acked
    refine ⟨record, dispatched, ack, hframes, hran.recorded, ?_, hacks, ?_⟩
    · exact Option.some.inj (hran.codeOf.symm.trans hcode)
    · rw [Ack.bytes, hack]
      rfl

/-! ## The authorization -/

/-- A command of the GUI, as a frame. -/
def Frame.ofCommand (data : Payload) : Frame where
  header := { idType := .extended, identifier := guiCommandIdExt, dataLength := dlcBytes8 }
  data := data

/-- The button is pressed, and an LED switched on. -/
def ledOnRun : List Event :=
  [.press, .process { now := 1000 } 0
    [{ reading := .frame (.ofCommand #v[0x10, 1, 1, 0, 0, 0, 0, 0]), access := { now := 1001 } }]]

/-- An alarm on nothing: the command that disables the alarm. -/
def alarmOff : Frame := .ofCommand #v[0x22, 0, 0, 0, 0, 0, 0, 0]

end Command

end CanGui
