import CanGui.Command.Dispatch
/-!
# GUI commands — the exits of the loop

What a turn of the loop can come to, said once: a frame that is no command
is rejected or goes to the ISO-TP channel, a command is refused or
accepted. And what each step on the way leaves alone.
-/

namespace CanGui

namespace Command

/-- A classic data frame of eight bytes with the GUI's identifier. -/
def Frame.isCommand (frame : Frame) : Bool :=
  frame.header.isClassicData && frame.header.isGui && frame.header.dataLength == dlcBytes8

namespace State

variable {state : State} {frame : Frame} {turn : Turn}

/-! ## What the steps leave alone -/

/-- The log aside, the parts are the same. -/
structure SameParts (parts parts' : Parts) : Prop where
  policy : parts'.policy = parts.policy
  slot1 : parts'.slot1 = parts.slot1
  slot2 : parts'.slot2 = parts.slot2
  pwm : parts'.pwm = parts.pwm
  selfTest : parts'.selfTest = parts.selfTest
  captureInitialized : parts'.captureInitialized = parts.captureInitialized
  rtc : parts'.rtc = parts.rtc
  tic : parts'.tic = parts.tic
  sender : parts'.sender = parts.sender

theorem SameParts.refl (parts : Parts) : SameParts parts parts :=
  ⟨rfl, rfl, rfl, rfl, rfl, rfl, rfl, rfl, rfl⟩

theorem logAll_sameParts (entries : List Log.Entry) (parts : Parts) (uptime : Nat → UInt32) :
    SameParts parts (parts.logAll entries uptime) := by
  induction entries generalizing parts uptime with
  | nil => exact .refl parts
  | cons entry entries ih =>
    obtain ⟨h1, h2, h3, h4, h5, h6, h7, h8, h9⟩ :=
      ih { parts with log := (parts.log.push entry (uptime 0)).2 } fun k => uptime (k + 1)
    exact ⟨h1, h2, h3, h4, h5, h6, h7, h8, h9⟩

/-- What a rejection changes: its counters and the log. -/
structure Rejected (state : State) (reason : RejectReason) (command : UInt8) (state' : State) :
    Prop where
  stats : state'.stats = { state.stats with
    lastRejectReason := reason, lastRejectedCommand := command }.count reason
  access : state'.access = state.access
  rxData : state'.rxData = state.rxData
  frames : state'.frames = state.frames
  parts : SameParts state.parts state'.parts

theorem recordRxReject_rejected (state : State) (reason : RejectReason) (command : UInt8)
    (errorCode uptime : UInt32) :
    Rejected state reason command (state.recordRxReject reason command errorCode uptime) := by
  unfold recordRxReject
  dsimp only
  split
  · next hnone =>
    subst hnone
    exact ⟨rfl, rfl, rfl, rfl, .refl _⟩
  · exact ⟨rfl, rfl, rfl, rfl, logAll_sameParts _ _ _⟩

/-- What an update of the window changes: the window and the log. -/
structure Updated (state : State) (reading : AccessReading) (state' : State) : Prop where
  access : state'.access = (state.access.update reading).2
  stats : state'.stats = state.stats
  rxData : state'.rxData = state.rxData
  frames : state'.frames = state.frames
  parts : SameParts state.parts state'.parts

theorem updateControlAccess_updated (state : State) (reading : AccessReading) (uptime : UInt32) :
    Updated state reading (state.updateControlAccess reading uptime) := by
  unfold updateControlAccess
  dsimp only
  split
  · exact ⟨rfl, rfl, rfl, rfl, logAll_sameParts _ _ _⟩
  · exact ⟨rfl, rfl, rfl, rfl, .refl _⟩

/-! ## The exits -/

/-- What a turn can come to. -/
inductive Exit (state : State) (frame : Frame) (turn : Turn) : State → Prop where
  | rejected (reason : RejectReason)
      (hreason : reason = .frameFormat ∨ reason = .wrongId ∨ reason = .dlc)
      (hframe : frame.isCommand = false) :
      Exit state frame turn ((state.receive frame).recordRxReject reason 0 0 turn.rejectedAt)
  | forwarded (dlc : Nat) (hframe : frame.isCommand = false) :
      Exit state frame turn
        ((state.receive frame).note fun record => { record with forwarded := some dlc })
  | invalid (reason : RejectReason) (status : AckStatus)
      (hreason : reason = .unknownCommand ∨ reason = .invalidPayload)
      (hframe : frame.isCommand = true) (hinvalid : validate frame.payload ≠ .valid) :
      Exit state frame turn ((state.receive frame).refuse reason status turn)
  | denied (hframe : frame.isCommand = true) (hvalid : validate frame.payload = .valid)
      (hprivileged : isPrivileged frame.payload = true)
      (hclosed : (state.access.update turn.access).2.isOpen = false) :
      Exit state frame turn
        (((state.receive frame).updateControlAccess turn.access turn.openedAt).refuse .accessDenied
          .accessDenied turn)
  | accepted (code : Code) (hframe : frame.isCommand = true)
      (hcode : codeOf frame.payload = some code) (hvalid : validPayload frame.payload code = true)
      (hallowed : isPrivileged frame.payload = true →
        (state.access.update turn.access).2.isOpen = true) :
      Exit state frame turn
        (((state.receive frame).updateControlAccess turn.access turn.openedAt).accept code turn)

theorem command_exit (hframe : frame.isCommand = true) :
    Exit state frame turn ((state.receive frame).command turn) := by
  have hupdated := updateControlAccess_updated (state.receive frame) turn.access turn.openedAt
  have haccess : (state.receive frame).access = state.access := rfl
  have hdata : ((state.receive frame).updateControlAccess turn.access turn.openedAt).payload =
      frame.payload := congrArg Vector.toList hupdated.rxData
  have hread : (state.receive frame).payload = frame.payload := rfl
  unfold command
  rw [hread]
  cases hvalidation : validate frame.payload with
  | unknown =>
    exact .invalid _ _ (.inl rfl) hframe (by simp [hvalidation])
  | invalidPayload =>
    exact .invalid _ _ (.inr rfl) hframe (by simp [hvalidation])
  | valid =>
    obtain ⟨code, hcode, hvalid⟩ := validate_valid_iff.1 hvalidation
    rw [hcode]
    dsimp only
    rw [hdata, hupdated.access, haccess]
    split
    · next hdenied => exact .denied hframe hvalidation hdenied.1 hdenied.2
    · next hallowed =>
      refine .accepted code hframe hcode hvalid fun hprivileged => ?_
      exact eq_true_of_ne_false fun hclosed => hallowed ⟨hprivileged, hclosed⟩

/-- **Every turn comes to one of these.** -/
theorem processFrame_exit : Exit state frame turn (state.processFrame frame turn) := by
  unfold processFrame
  change Exit state frame turn (if frame.header.isClassicData = false then _
    else if frame.header.isDiagnostic = true then _ else if frame.header.isGui = false then _
    else if frame.header.dataLength ≠ dlcBytes8 then _ else _)
  split
  · next hformat => exact .rejected _ (.inl rfl) (by simp [Frame.isCommand, hformat])
  · next hclassic =>
    split
    · next hdiagnostic =>
      have hframe : frame.isCommand = false := by
        rw [Header.isDiagnostic, Bool.and_eq_true, beq_iff_eq] at hdiagnostic
        simp [Frame.isCommand, Header.isGui, hdiagnostic.1]
      unfold forward
      split
      · exact .rejected _ (.inr (.inr rfl)) hframe
      · exact .forwarded _ hframe
    · split
      · next hid => exact .rejected _ (.inr (.inl rfl)) (by simp [Frame.isCommand, hid])
      · next hgui =>
        split
        · next hlength => exact .rejected _ (.inr (.inr rfl)) (by simp [Frame.isCommand, hlength])
        · next hlength =>
          refine command_exit ?_
          simp [Frame.isCommand, eq_true_of_ne_false hclassic, eq_true_of_ne_false hgui,
            not_not.1 hlength]

/-! ## What a frame leaves behind -/

/-- A command that was run: what it was checked on, what its handler met,
and how it was acknowledged. -/
structure Ran (state : State) (frame : Frame) (turn : Turn) (state' : State)
    (record : FrameRecord) (dispatched : Dispatched) : Prop where
  recorded : record.dispatched = some dispatched
  ofFrame : record.frame = frame
  command : frame.isCommand = true
  codeOf : codeOf frame.payload = some dispatched.code
  valid : validPayload frame.payload dispatched.code = true
  allowed : isPrivileged frame.payload = true → state'.access.isOpen = true
  payload : dispatched.payload = frame.payload
  answers : dispatched.answers = turn.answers
  time : dispatched.time = turn.access.now
  openings : dispatched.openings = state'.access.openings
  before : SameParts state.parts dispatched.before
  handled : dispatched.handled =
    dispatched.before.handle dispatched.payload dispatched.answers dispatched.code
  parts : state'.parts = dispatched.handled.parts
  access : state'.access = (state.access.update turn.access).2
  acked : ∃ ack, record.acks = [ack] ∧ ack.payload = state'.ackPayload (frame.payload.at' 0)
    .accepted (if dispatched.handled.executed then ackFlagExecuted else 0) turn.ackAt

/-- A frame that ran nothing: a command only for want of privilege, if it
was valid. -/
structure Idle (state : State) (frame : Frame) (turn : Turn) (state' : State)
    (record : FrameRecord) : Prop where
  unprivileged : frame.isCommand = true → validate frame.payload = .valid →
    isPrivileged frame.payload = true
  recorded : record.dispatched = none
  access : state'.access = state.access ∨ state'.access = (state.access.update turn.access).2
  parts : SameParts state.parts state'.parts

theorem SameParts.trans {a b c : Parts} (h : SameParts a b) (h' : SameParts b c) : SameParts a c :=
  ⟨h'.policy.trans h.policy, h'.slot1.trans h.slot1, h'.slot2.trans h.slot2, h'.pwm.trans h.pwm,
    h'.selfTest.trans h.selfTest, h'.captureInitialized.trans h.captureInitialized,
    h'.rtc.trans h.rtc, h'.tic.trans h.tic, h'.sender.trans h.sender⟩

theorem sendCommandAck_frames {record : FrameRecord} {earlier : List FrameRecord}
    (h : state.frames = record :: earlier) (command : UInt8) (status : AckStatus) (flags : UInt8) :
    (state.sendCommandAck command status flags turn).frames = { record with
      acks := record.acks ++ [⟨state.ackPayload command status flags turn.ackAt, turn.ackResult⟩] }
        :: earlier :=
  congrArg (List.modifyHead _) h

/-- A command that is refused leaves its record, and nothing of it runs. -/
theorem refuse_frames {record : FrameRecord} {earlier : List FrameRecord}
    (h : state.frames = record :: earlier) (reason : RejectReason) (status : AckStatus) :
    ∃ acks, (state.refuse reason status turn).frames = { record with acks := acks } :: earlier ∧
      (state.refuse reason status turn).access = state.access ∧
      SameParts state.parts (state.refuse reason status turn).parts := by
  have hrejected := recordRxReject_rejected state reason (state.payload.at' 0) 0 turn.rejectedAt
  exact ⟨_, sendCommandAck_frames (hrejected.frames.trans h) _ _ _, hrejected.access,
    hrejected.parts⟩

/-- **A frame leaves one record, and at most one handler has run.** -/
theorem processFrame_frames : ∃ record,
    (state.processFrame frame turn).frames = record :: state.frames ∧
      (Idle state frame turn (state.processFrame frame turn) record ∨
        ∃ dispatched, Ran state frame turn (state.processFrame frame turn) record dispatched) := by
  have hexit := @processFrame_exit state frame turn
  generalize state.processFrame frame turn = after at hexit
  cases hexit with
  | rejected reason hreason hframe =>
    have hrejected := recordRxReject_rejected (state.receive frame) reason 0 0 turn.rejectedAt
    exact ⟨_, hrejected.frames, .inl ⟨fun hcommand => absurd (hframe.symm.trans hcommand) nofun, rfl,
      .inl hrejected.access, hrejected.parts⟩⟩
  | forwarded dlc hframe =>
    exact ⟨_, rfl, .inl ⟨fun hcommand => absurd (hframe.symm.trans hcommand) nofun, rfl, .inl rfl,
      .refl _⟩⟩
  | invalid reason status hreason hframe hinvalid =>
    have hreceived : (state.receive frame).frames = { frame := frame } :: state.frames := rfl
    obtain ⟨acks, hframes, haccess, hparts⟩ := refuse_frames hreceived reason status
    exact ⟨_, hframes, .inl ⟨fun _ hvalid => absurd hvalid hinvalid, rfl, .inl haccess, hparts⟩⟩
  | denied hframe hvalid hprivileged hclosed =>
    have hupdated := updateControlAccess_updated (state.receive frame) turn.access turn.openedAt
    obtain ⟨acks, hframes, haccess, hparts⟩ :=
      (@State.refuse_frames _ turn) hupdated.frames .accessDenied .accessDenied
    exact ⟨_, hframes, .inl ⟨fun _ _ => hprivileged, rfl, .inr (haccess.trans hupdated.access),
      hupdated.parts.trans hparts⟩⟩
  | accepted code hframe hcode hvalid hallowed =>
    have hupdated := updateControlAccess_updated (state.receive frame) turn.access turn.openedAt
    generalize (state.receive frame).updateControlAccess turn.access turn.openedAt = open' at *
    have hdata : open'.payload = frame.payload := congrArg Vector.toList hupdated.rxData
    have haccess : open'.access = (state.access.update turn.access).2 := hupdated.access
    have hexecuted : (open'.execute (open'.dispatch code turn)).frames =
        { frame := frame, dispatched := some (open'.dispatch code turn) } :: state.frames :=
      congrArg (List.modifyHead _) hupdated.frames
    have hframes := (@State.sendCommandAck_frames _ turn) hexecuted (open'.payload.at' 0) .accepted
      (if (open'.dispatch code turn).handled.executed then ackFlagExecuted else 0)
    refine ⟨_, hframes, .inr ⟨open'.dispatch code turn, ?_⟩⟩
    constructor
    case recorded => rfl
    case ofFrame => rfl
    case command => exact hframe
    case codeOf => exact hcode
    case valid => exact hvalid
    case allowed =>
      intro hprivileged
      exact (congrArg Access.isOpen haccess).trans (hallowed hprivileged)
    case payload => exact hdata
    case answers => rfl
    case time => rfl
    case openings => rfl
    case before => exact hupdated.parts
    case handled => rfl
    case parts => rfl
    case access => exact haccess
    case acked => exact ⟨_, rfl, by rw [← hdata]; rfl⟩

/-- The record a frame leaves is its own. -/
theorem processFrame_latest : ∃ record,
    (state.processFrame frame turn).frames = record :: state.frames ∧ record.frame = frame := by
  have hexit := @processFrame_exit state frame turn
  generalize state.processFrame frame turn = after at hexit
  have hreceived : (state.receive frame).frames = { frame := frame } :: state.frames := rfl
  cases hexit with
  | rejected reason hreason hframe =>
    exact ⟨_, (recordRxReject_rejected (state.receive frame) reason 0 0 turn.rejectedAt).frames, rfl⟩
  | forwarded dlc hframe => exact ⟨_, rfl, rfl⟩
  | invalid reason status hreason hframe hinvalid =>
    obtain ⟨acks, hframes, -⟩ := refuse_frames hreceived reason status
    exact ⟨_, hframes, rfl⟩
  | denied hframe hvalid hprivileged hclosed =>
    have hupdated := updateControlAccess_updated (state.receive frame) turn.access turn.openedAt
    obtain ⟨acks, hframes, -⟩ :=
      refuse_frames hupdated.frames .accessDenied .accessDenied
    exact ⟨_, hframes, rfl⟩
  | accepted code hframe hcode hvalid hallowed =>
    have hupdated := updateControlAccess_updated (state.receive frame) turn.access turn.openedAt
    generalize (state.receive frame).updateControlAccess turn.access turn.openedAt = open' at *
    have hexecuted : (open'.execute (open'.dispatch code turn)).frames =
        { frame := frame, dispatched := some (open'.dispatch code turn) } :: state.frames :=
      congrArg (List.modifyHead _) hupdated.frames
    exact ⟨_, sendCommandAck_frames hexecuted (open'.payload.at' 0) .accepted _, rfl⟩

/-! ## Runs -/

theorem processFrames_invariant {I : State → Prop}
    (herror : ∀ s errorCode uptime, I s → I (s.recordRxReject .halError 0 errorCode uptime))
    (hframe : ∀ s frame turn, I s → I (s.processFrame frame turn)) (budget : Nat) :
    ∀ (turns : List Turn) (s : State), I s → I (s.processFrames budget turns).2 := by
  induction budget with
  | zero => exact fun _ _ h => h
  | succ budget ih =>
    intro turns s h
    cases turns with
    | nil => exact h
    | cons turn turns =>
      unfold processFrames
      cases turn.reading with
      | error errorCode => exact herror _ _ _ h
      | frame frame => exact ih turns _ (hframe _ _ _ h)

end State

/-- **The invariant rule of the dispatch.** What its parts keep, every
event keeps. -/
theorem step_invariant {I : State → Prop}
    (hupdate : ∀ s reading uptime, I s → I (s.updateControlAccess reading uptime))
    (herror : ∀ s errorCode uptime, I s → I (s.recordRxReject .halError 0 errorCode uptime))
    (hframe : ∀ s frame turn, I s → I (s.processFrame frame turn))
    (hbudget : ∀ s : State, I s →
      I { s with stats := { s.stats with rxBudgetHits := s.stats.rxBudgetHits + 1 } })
    (hpress : ∀ s : State, I s → I { s with access := s.access.request 1 })
    (hothers : ∀ (s : State) parts, I s → I { s with parts := parts }) (s : State) (e : Event)
    (h : I s) : I (step s e) := by
  cases e with
  | press => exact hpress s h
  | others parts => exact hothers s parts h
  | process access openedAt turns =>
    change I (s.processRxCommand access openedAt turns)
    have hframes := State.processFrames_invariant herror hframe rxFrameBudgetPerProcess turns
      (s.updateControlAccess access openedAt) (hupdate s _ _ h)
    unfold State.processRxCommand
    dsimp only
    split
    · exact hbudget _ hframes
    · exact hframes

end Command

end CanGui
