import CanGui.Command.Exits
/-!
# GUI commands — the counters and the acknowledgements

Every frame that is read is counted once more, under what became of it,
and every command is acknowledged once, with its own byte and token.
-/

namespace CanGui

namespace Command

namespace RxStats

/-- What became of the frames that were not forwarded. -/
def accounted (stats : RxStats) : UInt32 :=
  stats.rejectedWrongId + stats.rejectedFrameFormat + stats.rejectedDlc +
    stats.rejectedUnknownCommand + stats.rejectedInvalidPayload + stats.rejectedAccessDenied +
    stats.commandsAccepted

/-- The commands. -/
def commands (stats : RxStats) : UInt32 :=
  stats.rejectedUnknownCommand + stats.rejectedInvalidPayload + stats.rejectedAccessDenied +
    stats.commandsAccepted

/-- The attempts to acknowledge. -/
def acks (stats : RxStats) : UInt32 := stats.commandAcksSent + stats.commandAckTxFailures

end RxStats

/-- The frames handed to the ISO-TP channel. -/
def forwardedCount (frames : List FrameRecord) : Nat :=
  frames.countP fun record => record.forwarded.isSome

/-- A command is acknowledged once, with its byte and its token, and what
is no command is not acknowledged. -/
structure FrameRecord.Acknowledged (record : FrameRecord) : Prop where
  once : record.frame.isCommand = true → ∃ ack, record.acks = [ack] ∧
    ack.bytes.at' 1 = record.frame.payload.at' 0 ∧
    ack.bytes.at' 2 = calculateCommandToken record.frame.payload
  never : record.frame.isCommand = false → record.acks = []

/-- Every frame is counted under what became of it. -/
def Counted (stats : RxStats) (frames : List FrameRecord) : Prop :=
  stats.framesReceived = stats.accounted + UInt32.ofNat (forwardedCount frames)

/-- The counters agree with the frames. -/
structure Accounted (stats : RxStats) (frames : List FrameRecord) : Prop where
  counted : Counted stats frames
  acks : stats.acks = stats.commands
  acknowledged : ∀ record ∈ frames, record.Acknowledged

theorem accounted_init : Accounted {} [] where
  counted := rfl
  acks := rfl
  acknowledged := List.forall_mem_nil _

theorem forwardedCount_cons_none {record : FrameRecord} (h : record.forwarded = none)
    (frames : List FrameRecord) : forwardedCount (record :: frames) = forwardedCount frames := by
  simp [forwardedCount, h]

theorem forwardedCount_cons_some {record : FrameRecord} {dlc : Nat}
    (h : record.forwarded = some dlc) (frames : List FrameRecord) :
    forwardedCount (record :: frames) = forwardedCount frames + 1 := by
  simp [forwardedCount, h]

namespace State

variable {state : State} {frame : Frame} {turn : Turn}

/-! ## Acknowledging -/

theorem sendCommandAck_stats (command : UInt8) (status : AckStatus) (flags : UInt8) :
    (state.sendCommandAck command status flags turn).stats.framesReceived =
        state.stats.framesReceived ∧
      (state.sendCommandAck command status flags turn).stats.accounted = state.stats.accounted ∧
      (state.sendCommandAck command status flags turn).stats.commands = state.stats.commands ∧
      (state.sendCommandAck command status flags turn).stats.acks = state.stats.acks + 1 := by
  unfold sendCommandAck note
  dsimp only
  split
  · refine ⟨rfl, rfl, rfl, ?_⟩
    simp only [RxStats.acks]
    grind
  · refine ⟨rfl, rfl, rfl, ?_⟩
    simp only [RxStats.acks]
    grind

/-- A frame that was read, counted and not yet acknowledged. -/
structure Pending (state : State) (frame : Frame) (record : FrameRecord)
    (earlier : List FrameRecord) : Prop where
  frames : state.frames = record :: earlier
  recorded : record.frame = frame
  command : frame.isCommand = true
  data : state.payload = frame.payload
  unacknowledged : record.acks = []
  notForwarded : record.forwarded = none
  counted : Counted state.stats earlier
  acks : state.stats.acks + 1 = state.stats.commands
  earlier : ∀ record ∈ earlier, record.Acknowledged

/-- **The acknowledgement settles the account.** -/
theorem Pending.sendCommandAck {record : FrameRecord} {earlier : List FrameRecord}
    (h : state.Pending frame record earlier) (status : AckStatus) (flags : UInt8) :
    Accounted (state.sendCommandAck (frame.payload.at' 0) status flags turn).stats
      (state.sendCommandAck (frame.payload.at' 0) status flags turn).frames := by
  obtain ⟨hreceived, haccounted, hcommands, hacks⟩ :=
    sendCommandAck_stats (frame.payload.at' 0) status flags
  let ack : Ack := ⟨state.ackPayload (frame.payload.at' 0) status flags turn.ackAt, turn.ackResult⟩
  have hframes : (state.sendCommandAck (frame.payload.at' 0) status flags turn).frames =
      { record with acks := record.acks ++ [ack] } :: earlier :=
    congrArg (List.modifyHead _) h.frames
  have hforwarded : { record with acks := record.acks ++ [ack] }.forwarded = none := h.notForwarded
  constructor
  case counted =>
    unfold Counted
    rw [hreceived, haccounted, hframes, forwardedCount_cons_none hforwarded]
    exact h.counted
  case acks =>
    rw [hacks, hcommands]
    exact h.acks
  case acknowledged =>
    intro record' hrecord'
    rw [hframes] at hrecord'
    rcases List.mem_cons.1 hrecord' with rfl | hearlier
    · refine ⟨fun _ => ⟨_, congrArg (· ++ [_]) h.unacknowledged, ?_, ?_⟩, fun hcontra => ?_⟩
      · exact (congrArg (fun frame : Frame => frame.payload.at' 0) h.recorded).symm
      · -- the buffer still holds the frame
        exact congrArg calculateCommandToken (h.data.trans (congrArg Frame.payload h.recorded).symm)
      · change record.frame.isCommand = false at hcontra
        rw [h.recorded, h.command] at hcontra
        exact absurd hcontra nofun
    · exact h.earlier record' hearlier

/-! ## The exits -/

/-- A frame that is no command is counted, and not acknowledged. -/
theorem recordRxReject_accounted (h : Accounted state.stats state.frames) {reason : RejectReason}
    (hreason : reason = .frameFormat ∨ reason = .wrongId ∨ reason = .dlc)
    (hframe : frame.isCommand = false) :
    Accounted ((state.receive frame).recordRxReject reason 0 0 turn.rejectedAt).stats
      ((state.receive frame).recordRxReject reason 0 0 turn.rejectedAt).frames := by
  have hrejected := recordRxReject_rejected (state.receive frame) reason 0 0 turn.rejectedAt
  have hframes : (state.receive frame).frames = { frame := frame } :: state.frames := rfl
  have hstats : (state.receive frame).stats =
      { state.stats with framesReceived := state.stats.framesReceived + 1 } := rfl
  have hcounted := h.counted
  have hacks := h.acks
  rw [hrejected.stats, hrejected.frames, hframes, hstats]
  constructor
  case counted =>
    unfold Counted at *
    rw [forwardedCount_cons_none rfl]
    rcases hreason with rfl | rfl | rfl <;>
      simp only [RxStats.count, RxStats.accounted] at * <;> grind
  case acks => rcases hreason with rfl | rfl | rfl <;> exact hacks
  case acknowledged =>
    intro record hrecord
    rcases List.mem_cons.1 hrecord with rfl | hearlier
    · exact ⟨fun hcommand => absurd (hframe.symm.trans hcommand) nofun, fun _ => rfl⟩
    · exact h.acknowledged record hearlier

/-- A frame for the ISO-TP channel is counted as forwarded. -/
theorem forwarded_accounted (h : Accounted state.stats state.frames) (dlc : Nat)
    (hframe : frame.isCommand = false) :
    Accounted ((state.receive frame).note fun record => { record with forwarded := some dlc }).stats
      ((state.receive frame).note fun record => { record with forwarded := some dlc }).frames := by
  have hframes : ((state.receive frame).note fun record =>
      { record with forwarded := some dlc }).frames =
        { frame := frame, forwarded := some dlc } :: state.frames := rfl
  have hstats : ((state.receive frame).note fun record =>
      { record with forwarded := some dlc }).stats =
        { state.stats with framesReceived := state.stats.framesReceived + 1 } := rfl
  have hcounted := h.counted
  rw [hstats, hframes]
  constructor
  case counted =>
    unfold Counted at *
    rw [forwardedCount_cons_some rfl, UInt32.ofNat_add]
    simp only [RxStats.accounted] at *
    grind
  case acks => exact h.acks
  case acknowledged =>
    intro record hrecord
    rcases List.mem_cons.1 hrecord with rfl | hearlier
    · exact ⟨fun hcommand => absurd (hframe.symm.trans hcommand) nofun, fun _ => rfl⟩
    · exact h.acknowledged record hearlier

/-- A command that was read and is not decided yet. -/
structure Undecided (state : State) (frame : Frame) (earlier : List FrameRecord) : Prop where
  frames : state.frames = { frame := frame } :: earlier
  command : frame.isCommand = true
  data : state.payload = frame.payload
  received : state.stats.framesReceived =
    state.stats.accounted + UInt32.ofNat (forwardedCount earlier) + 1
  acks : state.stats.acks = state.stats.commands
  earlier : ∀ record ∈ earlier, record.Acknowledged

theorem receive_undecided (h : Accounted state.stats state.frames) (hframe : frame.isCommand = true) :
    (state.receive frame).Undecided frame state.frames := by
  refine ⟨rfl, hframe, rfl, ?_, h.acks, h.acknowledged⟩
  exact congrArg (· + 1) h.counted

theorem Undecided.updated {reading : AccessReading} {uptime : UInt32} {earlier : List FrameRecord}
    (h : state.Undecided frame earlier) :
    (state.updateControlAccess reading uptime).Undecided frame earlier := by
  have hupdated := updateControlAccess_updated state reading uptime
  constructor
  case frames => exact hupdated.frames.trans h.frames
  case command => exact h.command
  case data => exact (congrArg Vector.toList hupdated.rxData).trans h.data
  case received =>
    rw [hupdated.stats]
    exact h.received
  case acks =>
    rw [hupdated.stats]
    exact h.acks
  case earlier => exact h.earlier

/-- A command that is refused is counted once, and acknowledged. -/
theorem Undecided.refuse {reason : RejectReason} {status : AckStatus} {earlier : List FrameRecord}
    (h : state.Undecided frame earlier)
    (hreason : reason = .unknownCommand ∨ reason = .invalidPayload ∨ reason = .accessDenied) :
    Accounted (state.refuse reason status turn).stats (state.refuse reason status turn).frames := by
  have hrejected :=
    recordRxReject_rejected state reason (state.payload.at' 0) 0 turn.rejectedAt
  have hreceived := h.received
  have hacks := h.acks
  unfold State.refuse
  dsimp only
  rw [h.data] at *
  refine @Pending.sendCommandAck _ _ _ { frame := frame } earlier ?_ status 0
  constructor
  case frames => exact hrejected.frames.trans h.frames
  case recorded => rfl
  case command => exact h.command
  case data => exact (congrArg Vector.toList hrejected.rxData).trans h.data
  case unacknowledged => rfl
  case notForwarded => rfl
  case counted =>
    unfold Counted
    rw [hrejected.stats]
    rcases hreason with rfl | rfl | rfl <;>
      simp only [RxStats.count, RxStats.accounted] at * <;> grind
  case acks =>
    rw [hrejected.stats]
    rcases hreason with rfl | rfl | rfl <;>
      simp only [RxStats.count, RxStats.acks, RxStats.commands] at * <;> grind
  case earlier => exact h.earlier

/-- A command that is accepted is counted once, and acknowledged. -/
theorem Undecided.accept {code : Code} {earlier : List FrameRecord}
    (h : state.Undecided frame earlier) :
    Accounted (state.accept code turn).stats (state.accept code turn).frames := by
  have hreceived := h.received
  have hacks := h.acks
  have hstats : (state.execute (state.dispatch code turn)).stats =
      { state.stats with commandsAccepted := state.stats.commandsAccepted + 1 } := rfl
  unfold State.accept
  dsimp only
  rw [h.data]
  refine @Pending.sendCommandAck _ _ _
    { frame := frame, dispatched := some (state.dispatch code turn) } earlier ?_ _ _
  constructor
  case frames => exact congrArg (List.modifyHead _) h.frames
  case recorded => rfl
  case command => exact h.command
  case data => exact h.data
  case unacknowledged => rfl
  case notForwarded => rfl
  case counted =>
    unfold Counted
    rw [hstats]
    simp only [RxStats.accounted] at *
    grind
  case acks =>
    rw [hstats]
    simp only [RxStats.acks, RxStats.commands] at *
    grind
  case earlier => exact h.earlier

theorem processFrame_accounted (h : Accounted state.stats state.frames) :
    Accounted (state.processFrame frame turn).stats (state.processFrame frame turn).frames := by
  have hexit := @processFrame_exit state frame turn
  generalize state.processFrame frame turn = after at hexit
  cases hexit with
  | rejected reason hreason hframe => exact recordRxReject_accounted h hreason hframe
  | forwarded dlc hframe => exact forwarded_accounted h dlc hframe
  | invalid reason status hreason hframe hinvalid =>
    exact (receive_undecided h hframe).refuse (hreason.imp_right .inl)
  | denied hframe hvalid hprivileged hclosed =>
    exact (receive_undecided h hframe).updated.refuse (.inr (.inr rfl))
  | accepted code hframe hcode hvalid hallowed =>
    exact (receive_undecided h hframe).updated.accept

/-- A read that failed counts as no frame. -/
theorem halError_accounted (h : Accounted state.stats state.frames) (errorCode uptime : UInt32) :
    Accounted (state.recordRxReject .halError 0 errorCode uptime).stats
      (state.recordRxReject .halError 0 errorCode uptime).frames := by
  have hrejected := recordRxReject_rejected state .halError 0 errorCode uptime
  rw [hrejected.stats, hrejected.frames]
  exact ⟨h.counted, h.acks, h.acknowledged⟩

end State

/-! ## Runs -/

theorem step_accounted (state : State) (event : Event) (h : Accounted state.stats state.frames) :
    Accounted (step state event).stats (step state event).frames := by
  refine step_invariant (I := fun state => Accounted state.stats state.frames) ?_ ?_ ?_ ?_ ?_ ?_ state
    event h
  · intro state reading uptime h
    have hupdated := State.updateControlAccess_updated state reading uptime
    rw [hupdated.stats, hupdated.frames]
    exact h
  · intro state errorCode uptime h
    exact State.halError_accounted h errorCode uptime
  · intro state frame turn h
    exact State.processFrame_accounted h
  · intro state h
    exact ⟨h.counted, h.acks, h.acknowledged⟩
  · intro state h
    exact h
  · intro state parts h
    exact h

end Command

end CanGui
