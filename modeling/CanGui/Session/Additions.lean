import CanGui.Session.Window
/-!
# CAN session — what a call adds to the history

Every call adds to the history in a few ways only. A transmission is of a
new command or of the outstanding one; an outcome without an
acknowledgement is of a command that never went out, or was sent twice.
-/

namespace CanGui

namespace CanSession

/-- The commands `bus.send` was called with, the latest first. -/
def attempts : List Entry → List Command
  | [] => []
  | .transmitted command _ :: earlier => command :: attempts earlier
  | .accepted _ :: earlier => attempts earlier
  | .recorded _ _ _ :: earlier => attempts earlier

/-- The commands that went out, the latest first. -/
def outbox : List Entry → List Command
  | [] => []
  | .transmitted command sent :: earlier =>
    if sent then command :: outbox earlier else outbox earlier
  | .accepted _ :: earlier => outbox earlier
  | .recorded _ _ _ :: earlier => outbox earlier

/-- What a call adds without an acknowledgement. -/
inductive Adds (history : List Entry) : List Entry → Prop where
  | refl : Adds history history
  | accepted {after : List Entry} (h : Adds history after) (command : Command) :
      Adds history (.accepted command :: after)
  | event {after : List Entry} (h : Adds history after) (event : EventCode)
      (hevent : event.isOutcome = false) (payload : Bytes) (subject : Option Nat) :
      Adds history (.recorded event payload subject :: after)
  | transmitted {after : List Entry} {command : Command} (h : Adds history after)
      (hknown : command.number ∉ sends after ∨ command ∈ attempts after) (sent : Bool) :
      Adds history (.transmitted command sent :: after)
  | txFailed {after : List Entry} {number : Nat} (h : Adds history after)
      (hnever : ∀ command ∈ outbox after, command.number ≠ number) (payload : Bytes) :
      Adds history (.recorded .txFailed payload (some number) :: after)
  | ackTimeout {after : List Entry} {number : Nat} (h : Adds history after)
      (htwice : 2 ≤ (sends after).count number) (payload : Bytes) :
      Adds history (.recorded .ackTimeout payload (some number) :: after)

variable {session : Session} {history history' : List Entry} {command : Command} {pending : Pending}
variable {data : Bytes} {now : Int} {sent : Bool}

theorem sends_eq (history : List Entry) : sends history = (attempts history).map Command.number := by
  induction history with
  | nil => rfl
  | cons entry earlier ih =>
    cases entry with
    | accepted _ => exact ih
    | recorded _ _ _ => exact ih
    | transmitted command _ => exact congrArg (command.number :: ·) ih

theorem mem_attempts_of_outbox (h : command ∈ outbox history) : command ∈ attempts history := by
  induction history with
  | nil => cases h
  | cons entry earlier ih =>
    cases entry with
    | accepted _ => exact ih h
    | recorded _ _ _ => exact ih h
    | transmitted command' sent =>
      refine List.mem_cons.2 ?_
      cases sent with
      | true => exact (List.mem_cons.1 h).imp_right ih
      | false => exact .inr (ih h)

theorem mem_sends_of_attempts (h : command ∈ attempts history) : command.number ∈ sends history := by
  rw [sends_eq]
  exact List.mem_map_of_mem h

/-- A command that went out, and was not sent again, went out when it was
last sent. -/
theorem lastSend_of_outbox (h : command ∈ outbox history)
    (honce : (sends history).count command.number ≤ 1) :
    lastSend command.number history = some true := by
  induction history with
  | nil => cases h
  | cons entry earlier ih =>
    cases entry with
    | accepted _ => exact ih h honce
    | recorded _ _ _ => exact ih h honce
    | transmitted command' sent =>
      by_cases hnumber : command'.number = command.number
      · -- the only transmission is this one
        rw [sends, hnumber, List.count_cons_self] at honce
        have hnot : command ∉ outbox earlier := fun hmem => by
          have hpos := List.count_pos_iff.2 (mem_sends_of_attempts (mem_attempts_of_outbox hmem))
          omega
        cases sent with
        | true => rw [lastSend, if_pos hnumber]
        | false => exact absurd h hnot
      · rw [sends, List.count_cons_of_ne hnumber] at honce
        rw [lastSend, if_neg hnumber]
        refine ih ?_ honce
        cases sent with
        | true => exact (List.mem_cons.1 h).resolve_left fun heq => hnumber (heq ▸ rfl)
        | false => exact h

/-! ## Additions -/

theorem Adds.trans {a b c : List Entry} (hab : Adds a b) (hbc : Adds b c) : Adds a c := by
  induction hbc with
  | refl => exact hab
  | accepted _ command ih => exact .accepted ih command
  | event _ event hevent payload subject ih => exact .event ih event hevent payload subject
  | transmitted _ hknown sent ih => exact .transmitted ih hknown sent
  | txFailed _ hnever payload ih => exact .txFailed ih hnever payload
  | ackTimeout _ htwice payload ih => exact .ackTimeout ih htwice payload

theorem Adds.attempts_subset (h : Adds history history') :
    ∀ command ∈ attempts history, command ∈ attempts history' := by
  induction h with
  | refl => exact fun _ hmem => hmem
  | accepted _ _ ih => exact ih
  | event _ _ _ _ _ ih => exact ih
  | transmitted _ _ _ ih => exact fun command hmem => List.mem_cons_of_mem _ (ih command hmem)
  | txFailed _ _ _ ih => exact ih
  | ackTimeout _ _ _ ih => exact ih

theorem Adds.count_le (h : Adds history history') (number : Nat) :
    (sends history).count number ≤ (sends history').count number := by
  induction h with
  | refl => exact Nat.le_refl _
  | accepted _ _ ih => exact ih
  | event _ _ _ _ _ ih => exact ih
  | transmitted _ _ _ ih => exact Nat.le_trans ih (List.count_le_count_cons ..)
  | txFailed _ _ _ ih => exact ih
  | ackTimeout _ _ _ ih => exact ih

/-- The outstanding command was sent, with the token of its bytes. -/
structure Labelled (pendingCommand : Option Pending) (history : List Entry) : Prop where
  sent : ∀ pending, pendingCommand = some pending → pending.command ∈ attempts history
  token : ∀ pending, pendingCommand = some pending →
    pending.token = commandToken pending.command.bytes

theorem Labelled.adds {pendingCommand : Option Pending} (h : Labelled pendingCommand history)
    (hadds : Adds history history') : Labelled pendingCommand history' :=
  ⟨fun pending hpending => hadds.attempts_subset _ (h.sent pending hpending), h.token⟩

/-- Every number is that of one command. -/
def Named (history : List Entry) : Prop :=
  ∀ a ∈ attempts history, ∀ b ∈ attempts history, a.number = b.number → a = b

theorem Named.adds (h : Named history) (hadds : Adds history history') : Named history' := by
  induction hadds with
  | refl => exact h
  | accepted _ _ ih => exact ih
  | event _ _ _ _ _ ih => exact ih
  | @transmitted history' command _ hknown _ ih =>
    -- the command is the one of its number, whether it is new or sent again
    have hown : ∀ other ∈ attempts history', other.number = command.number → other = command := by
      intro other hother hnumber
      rcases hknown with hnew | hmem
      · exact absurd (hnumber ▸ mem_sends_of_attempts hother) hnew
      · exact ih other hother command hmem hnumber
    intro a ha b hb hnumber
    rcases List.mem_cons.1 ha with rfl | ha' <;> rcases List.mem_cons.1 hb with rfl | hb'
    · rfl
    · exact (hown b hb' hnumber.symm).symm
    · exact hown a ha' hnumber
    · exact ih a ha' b hb' hnumber
  | txFailed _ _ _ ih => exact ih
  | ackTimeout _ _ _ ih => exact ih

/-! ## The calls -/

/-- A command that goes out for the first time. -/
theorem Untouched.adds (h : Untouched history command) (sent : Bool) :
    Adds history (.transmitted command sent :: history) :=
  .transmitted .refl (.inl fun hmem => absurd (h.later _ hmem) (Nat.lt_irrefl _)) sent

/-- A command that does not, when it should for the first time. -/
theorem Untouched.adds_failed (h : Untouched history command) (payload : Bytes) :
    Adds history (.recorded .txFailed payload (some command.number) ::
      .transmitted command false :: history) := by
  refine .txFailed (h.adds false) (fun other hmem heq => ?_) payload
  have hlater := h.later _ (mem_sends_of_attempts (mem_attempts_of_outbox hmem))
  omega

namespace Session

theorem transmitCommand_adds (session : Session) (h : Untouched session.history command)
    (now : Int) (sent : Bool) :
    Adds session.history (session.transmitCommand command now sent).2.history := by
  cases sent with
  | true => exact .event (h.adds true) .command rfl _ _
  | false => exact h.adds_failed _

theorem transmitCommand_labelled (session : Session)
    (h : Labelled session.pendingCommand session.history)
    (huntouched : Untouched session.history command) (now : Int) (sent : Bool) :
    Labelled (session.transmitCommand command now sent).2.pendingCommand
      (session.transmitCommand command now sent).2.history := by
  cases sent with
  | true =>
    refine ⟨fun pending hpending => ?_, fun pending hpending => ?_⟩
    · cases hpending
      exact List.mem_cons_self
    · cases hpending
      rfl
  | false => exact h.adds (huntouched.adds_failed _)

theorem sendNextQueued_adds (h : session.Sound)
    (hlabelled : Labelled session.pendingCommand session.history) (now : Int) (sent : Bool) :
    Adds session.history (session.sendNextQueued now sent).history ∧
      Labelled (session.sendNextQueued now sent).pendingCommand
        (session.sendNextQueued now sent).history := by
  unfold sendNextQueued
  split
  next command rest hpending hqueue =>
    rw [Sound, hqueue] at h
    have huntouched : Untouched { session with commandQueue := rest }.history command :=
      (h.queued command List.mem_cons_self).2
    have hadds := transmitCommand_adds { session with commandQueue := rest } huntouched now sent
    have hlabels :=
      transmitCommand_labelled { session with commandQueue := rest } hlabelled huntouched now sent
    split
    next heq =>
      rw [heq] at hadds hlabels
      exact ⟨hadds, hlabels⟩
    next heq =>
      rw [heq] at hadds hlabels
      exact ⟨hadds, hlabels⟩
  · exact ⟨.refl, hlabelled⟩

theorem resendPending_adds (hpending : session.pendingCommand = some pending)
    (hlabelled : Labelled session.pendingCommand session.history) :
    Adds session.history (session.resendPending pending now sent).history ∧
      Labelled (session.resendPending pending now sent).pendingCommand
        (session.resendPending pending now sent).history := by
  have hsent : Adds session.history (.transmitted pending.command sent :: session.history) :=
    .transmitted .refl (.inr (hlabelled.sent pending hpending)) sent
  cases sent with
  | true =>
    refine ⟨.event hsent .ackRetry rfl _ _, fun pending' hpending' => ?_, fun pending' hpending' => ?_⟩
    · cases hpending'
      exact List.mem_cons_self
    · cases hpending'
      exact hlabelled.token pending hpending
  | false => exact ⟨hsent, nofun, nofun⟩

theorem processCommandTimeout_adds (h : session.Sound)
    (hlabelled : Labelled session.pendingCommand session.history) :
    Adds session.history (session.processCommandTimeout now sent).history ∧
      Labelled (session.processCommandTimeout now sent).pendingCommand
        (session.processCommandTimeout now sent).history := by
  unfold processCommandTimeout
  split
  · exact ⟨.refl, hlabelled⟩
  next pending hpending =>
  split
  · exact ⟨.refl, hlabelled⟩
  split
  · exact resendPending_adds hpending hlabelled
  next hretries =>
    -- the command was sent, and sent again
    have houtstanding := h.outstanding pending hpending
    have htwice : 2 ≤ (sends session.history).count pending.command.number := by
      rw [commandAckMaxRetries] at hretries
      rw [houtstanding.count]
      omega
    let counted := { session with commandAckTimeoutCount := session.commandAckTimeoutCount + 1 }
    have hfinished : (counted.finish pending .ackTimeout pending.command.bytes).Sound :=
      finish_sound h hpending .ackTimeout rfl _
    obtain ⟨hadds, hlabels⟩ := sendNextQueued_adds hfinished ⟨nofun, nofun⟩ now sent
    exact ⟨(Adds.ackTimeout .refl htwice pending.command.bytes).trans hadds, hlabels⟩

theorem sendCommand_adds (h : session.Sound)
    (hlabelled : Labelled session.pendingCommand session.history) (data : Bytes) (now : Int)
    (sent : Bool) :
    Adds session.history (session.sendCommand data now sent).2.history ∧
      Labelled (session.sendCommand data now sent).2.pendingCommand
        (session.sendCommand data now sent).2.history := by
  unfold sendCommand
  cases payloadOf data with
  | none =>
    have hadds : Adds session.history (.recorded .invalidDlc data none :: session.history) :=
      .event .refl .invalidDlc rfl data none
    exact ⟨hadds, hlabelled.adds hadds⟩
  | some payload =>
  dsimp only
  split
  · split
    · exact ⟨.refl, hlabelled⟩
    · have hadds : Adds session.history
          (.recorded .commandQueued payload.toList (some session.next) :: session.history) :=
        .event .refl .commandQueued rfl payload.toList (some session.next)
      exact ⟨hadds, hlabelled.adds hadds⟩
  · have huntouched : Untouched (session.number payload).2.history (session.number payload).1 :=
      h.untouched payload
    exact ⟨transmitCommand_adds _ huntouched now sent,
      transmitCommand_labelled (session.number payload).2 hlabelled huntouched now sent⟩

theorem submit_adds (h : session.Sound)
    (hlabelled : Labelled session.pendingCommand session.history) :
    Adds session.history (session.submit data now sent).history ∧
      Labelled (session.submit data now sent).pendingCommand
        (session.submit data now sent).history := by
  obtain ⟨hadds, hlabels⟩ := sendCommand_adds h hlabelled data now sent
  unfold submit
  split
  next heq _ =>
    rw [heq] at hadds hlabels
    exact ⟨.accepted hadds _, hlabels.sent, hlabels.token⟩
  next heq _ =>
    rw [heq] at hadds hlabels
    exact ⟨hadds, hlabels⟩

/-- **What an acknowledgement adds**: only what it ends is an outcome, and
that is of the outstanding command it matches. -/
theorem handleCommandAck_adds (h : session.Sound)
    (hlabelled : Labelled session.pendingCommand session.history) :
    Labelled (session.handleCommandAck data now sent).pendingCommand
        (session.handleCommandAck data now sent).history ∧
      (Adds session.history (session.handleCommandAck data now sent).history ∨
        ∃ pending event, session.matched data = some pending ∧
          (event = .ackAccepted ∨ event = .ackStatus (data.at' 3)) ∧
          Adds (.recorded event data (some pending.command.number) :: session.history)
            (session.handleCommandAck data now sent).history) := by
  unfold handleCommandAck
  split
  · have hadds : Adds session.history (.recorded .invalidAck data none :: session.history) :=
      .event .refl .invalidAck rfl data none
    exact ⟨hlabelled.adds hadds, .inl hadds⟩
  split
  · have hadds : Adds session.history (.recorded .unmatchedAck data none :: session.history) :=
      .event .refl .unmatchedAck rfl data none
    exact ⟨hlabelled.adds hadds, .inl hadds⟩
  next pending hmatched =>
    have hsound : (session.acknowledge pending data).Sound :=
      acknowledge_sound h (matched_pending hmatched)
    have hnone : (session.acknowledge pending data).pendingCommand = none := by
      unfold acknowledge
      split
      · rfl
      · split <;> rfl
    have hhistory : ∃ event, (event = .ackAccepted ∨ event = .ackStatus (data.at' 3)) ∧
        (session.acknowledge pending data).history =
          .recorded event data (some pending.command.number) :: session.history := by
      unfold acknowledge
      split
      · exact ⟨_, .inl rfl, rfl⟩
      · split <;> exact ⟨_, .inr rfl, rfl⟩
    obtain ⟨event, hevent, hhistory⟩ := hhistory
    obtain ⟨hadds, hlabels⟩ := sendNextQueued_adds hsound
      (by rw [hnone]; exact ⟨nofun, nofun⟩) now sent
    rw [hhistory] at hadds
    exact ⟨hlabels, .inr ⟨pending, event, hmatched, hevent, hadds⟩⟩

end Session

end CanSession

end CanGui
