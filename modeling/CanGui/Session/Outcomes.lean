import CanGui.Session.Window
/-!
# CAN session — the outcomes of the commands

A command that `send_command` accepted is outstanding, waits, or has had
the one event that ends it. When `bus.send` raises, the session drops
what waits, and in a retry the outstanding command too, without an event.
-/

namespace CanGui

namespace CanSession

variable {session : Session} {history earlier : List Entry} {command : Command} {pending : Pending}
variable {pendingCommand : Option Pending} {queue rest : List Command} {next : Nat}
variable {data payload : Bytes} {now : Int} {event : EventCode}

/-! ## Accounting for a command -/

/-- The command is outstanding or waits. -/
def Live (pendingCommand : Option Pending) (queue : List Command) (command : Command) : Prop :=
  (∃ pending, pendingCommand = some pending ∧ pending.command = command) ∨ command ∈ queue

/-- The command has had exactly one outcome, a transmit failure with its
own bytes. -/
def Told (history : List Entry) (command : Command) : Prop :=
  ∃ event payload, outcomes command.number history = [(event, payload)] ∧
    (event = .txFailed → payload = command.bytes)

/-- No accepted command has vanished. -/
def AllAccounted (session : Session) : Prop :=
  ∀ command ∈ acceptances session.history,
    ¬Live session.pendingCommand session.commandQueue command → Told session.history command

/-- What is live was accepted, and what was accepted is live or told of. -/
structure Ledger (pendingCommand : Option Pending) (queue : List Command) (history : List Entry) :
    Prop where
  entered : ∀ command, Live pendingCommand queue command → command ∈ acceptances history
  accounted : ∀ command ∈ acceptances history, Live pendingCommand queue command ∨ Told history command

theorem Told.congr (h : Told history command)
    (hsame : outcomes command.number earlier = outcomes command.number history) :
    Told earlier command := by
  obtain ⟨event, payload, houtcomes, htx⟩ := h
  exact ⟨event, payload, hsame.trans houtcomes, htx⟩

/-- A command that was told of has the number of none without an outcome. -/
theorem Told.number_ne (h : Told history command) {number : Nat}
    (hsilent : outcomes number history = []) : number ≠ command.number := by
  rintro rfl
  obtain ⟨event, payload, houtcomes, -⟩ := h
  rw [hsilent] at houtcomes
  cases houtcomes

theorem not_told (hsilent : outcomes command.number history = []) : ¬Told history command :=
  fun h => h.number_ne hsilent rfl

/-- An event that ends no command changes no account. -/
theorem Ledger.recorded (h : Ledger pendingCommand queue history) (event : EventCode)
    (hevent : event.isOutcome = false) (payload : Bytes) (subject : Option Nat) :
    Ledger pendingCommand queue (.recorded event payload subject :: history) := by
  refine ⟨h.entered, fun command hmem => (h.accounted command hmem).imp_right fun htold => ?_⟩
  exact htold.congr (outcomes_recorded_of_ne (by rw [hevent]; nofun))

theorem Ledger.transmitted (h : Ledger pendingCommand queue history) (command : Command)
    (sent : Bool) : Ledger pendingCommand queue (.transmitted command sent :: history) :=
  ⟨h.entered, h.accounted⟩

/-- A new command is live and entered as accepted. -/
theorem Ledger.accept {pendingCommand' : Option Pending} {queue' : List Command}
    (h : Ledger pendingCommand queue history)
    (hlive : ∀ other, Live pendingCommand' queue' other ↔
      Live pendingCommand queue other ∨ other = command) :
    Ledger pendingCommand' queue' (.accepted command :: history) := by
  constructor
  · intro other hother
    rcases (hlive other).1 hother with hbefore | rfl
    · exact List.mem_cons_of_mem _ (h.entered other hbefore)
    · exact List.mem_cons_self
  · intro other hmem
    rcases List.mem_cons.1 hmem with rfl | hmem
    · exact .inl ((hlive _).2 (.inr rfl))
    · exact (h.accounted other hmem).imp_left fun hbefore => (hlive other).2 (.inl hbefore)

/-- The same commands are live. -/
theorem Ledger.relive {pendingCommand' : Option Pending} {queue' : List Command}
    (h : Ledger pendingCommand queue history)
    (hlive : ∀ other, Live pendingCommand' queue' other ↔ Live pendingCommand queue other) :
    Ledger pendingCommand' queue' history :=
  ⟨fun other hother => h.entered other ((hlive other).1 hother),
    fun other hmem => (h.accounted other hmem).imp_left (hlive other).2⟩

/-- The transmit failure of a command is no outcome of another. -/
theorem Told.transmitFailed (h : Told history command) {failed : Command}
    (huntouched : Untouched history failed) :
    Told (.recorded .txFailed failed.bytes (some failed.number) ::
      .transmitted failed false :: history) command := by
  have hne := h.number_ne huntouched.silent
  have hsame : outcomes command.number (.recorded .txFailed failed.bytes (some failed.number) ::
      .transmitted failed false :: history) = outcomes command.number history :=
    outcomes_recorded_of_ne (by simp [hne])
  exact h.congr hsame

/-- **The outcome of the outstanding command** is its own, and its only
one. -/
theorem Ledger.finish (h : Ledger (some pending) queue history)
    (hkept : Kept (some pending) queue next history) (event : EventCode)
    (hevent : event.isOutcome = true) (hne : event ≠ .txFailed) (payload : Bytes) :
    Ledger none queue (.recorded event payload (some pending.command.number) :: history) := by
  have hsilent := (hkept.outstanding pending rfl).silent
  constructor
  · intro other hother
    refine h.entered other (.inr ?_)
    exact hother.resolve_left fun ⟨_, hnone, _⟩ => by cases hnone
  · intro other hmem
    rcases h.accounted other hmem with (⟨pending', hpending, rfl⟩ | hqueued) | htold
    · cases hpending
      refine .inr ⟨event, payload, ?_, fun heq => absurd heq hne⟩
      rw [outcomes_recorded_self hevent, hsilent]
    · exact .inl (.inr hqueued)
    · have hother := htold.number_ne hsilent
      exact .inr (htold.congr (outcomes_recorded_of_ne (by simp [hother])))

/-- The queue's only command does not go out, and its event says so. -/
theorem Ledger.transmitFailed (h : Ledger none [command] history)
    (huntouched : Untouched history command) :
    Ledger none [] (.recorded .txFailed command.bytes (some command.number) ::
      .transmitted command false :: history) := by
  constructor
  · intro other hother
    refine h.entered other (hother.imp_right fun hmem => ?_)
    cases hmem
  · intro other hmem
    rcases h.accounted other hmem with (⟨_, hnone, _⟩ | hqueued) | htold
    · cases hnone
    · rw [List.mem_singleton.1 hqueued]
      refine .inr ⟨.txFailed, command.bytes, ?_, fun _ => rfl⟩
      rw [outcomes_recorded_self rfl]
      exact congrArg _ huntouched.silent
    · exact .inr (htold.transmitFailed huntouched)

/-! ## The condition -/

/-- The timeout sends the outstanding command again. -/
def Session.retries (session : Session) : Event → Bool
  | .commandTimeout now _ => session.pendingCommand.any fun pending =>
      commandAckTimeout ≤ now - pending.sentAt && pending.retryCount < commandAckMaxRetries
  | _ => false

/-- The acknowledgement or the timeout ends the outstanding command. -/
def Session.ends (session : Session) : Event → Bool
  | .commandAck data _ _ => ackValid data && (session.matched data).isSome
  | .commandTimeout now _ => session.pendingCommand.any fun pending =>
      commandAckTimeout ≤ now - pending.sentAt && commandAckMaxRetries ≤ pending.retryCount
  | .sendCommand _ _ _ => false

/-- `bus.send` would return in this call. -/
def Event.sent : Event → Bool
  | .sendCommand _ _ sent => sent
  | .commandAck _ _ sent => sent
  | .commandTimeout _ sent => sent

/-- `bus.send` does not raise in a retry, nor with the next queued command
while others wait behind it. -/
def Lossless (session : Session) (event : Event) : Prop :=
  event.sent = true ∨
    session.retries event = false ∧ (session.ends event = true → session.commandQueue.length ≤ 1)

instance (session : Session) (event : Event) : Decidable (Lossless session event) :=
  inferInstanceAs (Decidable (_ ∨ _ ∧ (_ → _)))

/-! ## A call that loses nothing -/

theorem not_live_nil (other : Command) : ¬Live none [] other := by
  rintro (⟨_, hnone, _⟩ | hmem)
  · cases hnone
  · cases hmem

/-- The queue's first command becomes the outstanding one. -/
theorem live_start {queue : List Command} (hstarted : pending.command = command) (other : Command) :
    Live (some pending) queue other ↔ Live none (command :: queue) other := by
  constructor
  · rintro (⟨pending', hpending, rfl⟩ | hmem)
    · cases hpending
      exact .inr (List.mem_cons.2 (.inl hstarted))
    · exact .inr (List.mem_cons_of_mem _ hmem)
  · rintro (⟨_, hnone, _⟩ | hmem)
    · cases hnone
    · rcases List.mem_cons.1 hmem with rfl | hmem
      · exact .inl ⟨pending, rfl, hstarted⟩
      · exact .inr hmem

/-- A command waits behind the others. -/
theorem live_append (other : Command) : Live pendingCommand (queue ++ [command]) other ↔
    Live pendingCommand queue other ∨ other = command := by
  unfold Live
  rw [List.mem_append, List.mem_singleton, or_assoc]

/-- The only command goes out at once. -/
theorem live_only (other : Command) : Live (some pending) [] other ↔
    Live none [] other ∨ other = pending.command := by
  rw [live_start rfl, ← List.nil_append [pending.command]]
  exact live_append other

namespace Session

/-- The accounts of a session. -/
def Balanced (session : Session) : Prop :=
  Ledger session.pendingCommand session.commandQueue session.history

theorem sendNextQueued_balanced (h : session.Balanced) (hsound : session.Sound) {sent : Bool}
    (hlossless : sent = true ∨ session.commandQueue.length ≤ 1) :
    (session.sendNextQueued now sent).Balanced := by
  unfold sendNextQueued
  split
  next command rest hpending hqueue =>
    rw [Balanced, hpending, hqueue] at h
    rw [Sound, hpending, hqueue] at hsound
    rw [hqueue] at hlossless
    cases sent with
    | true =>
      have hsent := (h.transmitted command true).recorded .command rfl command.bytes
        (some command.number)
      exact hsent.relive (live_start rfl)
    | false =>
      -- nothing waits behind the command that fails
      have hrest : rest = [] := by
        have hlength : (command :: rest).length ≤ 1 := hlossless.resolve_left Bool.false_ne_true
        rw [List.length_cons] at hlength
        exact List.eq_nil_of_length_eq_zero (by omega)
      rw [hrest] at h
      have hfailed := h.transmitFailed (hsound.queued command List.mem_cons_self).2
      rw [← hpending] at hfailed
      exact hfailed
  · exact h

theorem finish_balanced (h : session.Balanced) (hsound : session.Sound)
    (hpending : session.pendingCommand = some pending) (event : EventCode)
    (hevent : event.isOutcome = true) (hne : event ≠ .txFailed) (payload : Bytes) :
    (session.finish pending event payload).Balanced := by
  rw [Balanced, hpending] at h
  rw [Sound, hpending] at hsound
  exact h.finish hsound event hevent hne payload

theorem acknowledge_balanced (h : session.Balanced) (hsound : session.Sound)
    (hpending : session.pendingCommand = some pending) :
    (session.acknowledge pending data).Balanced := by
  unfold acknowledge
  split
  · exact finish_balanced h hsound hpending .ackAccepted rfl nofun data
  · split
    · exact finish_balanced h hsound hpending (.ackStatus (data.at' 3)) rfl nofun data
    · exact finish_balanced h hsound hpending (.ackStatus (data.at' 3)) rfl nofun data

theorem acknowledge_queue : (session.acknowledge pending data).commandQueue =
    session.commandQueue := by
  unfold acknowledge
  split
  · rfl
  · split <;> rfl

theorem handleCommandAck_balanced (h : session.Balanced) (hsound : session.Sound) {sent : Bool}
    (hlossless : Lossless session (.commandAck data now sent)) :
    (session.handleCommandAck data now sent).Balanced := by
  unfold handleCommandAck
  split
  · exact Ledger.recorded h _ rfl _ _
  next hvalid =>
  split
  · exact Ledger.recorded h _ rfl _ _
  next pending hmatched =>
    have hpending := matched_pending hmatched
    refine sendNextQueued_balanced (acknowledge_balanced h hsound hpending)
      (acknowledge_sound hsound hpending) (hlossless.imp_right fun hends => ?_)
    rw [acknowledge_queue]
    refine hends.2 ?_
    rw [ends, hmatched]
    simpa using hvalid

theorem processCommandTimeout_balanced (h : session.Balanced) (hsound : session.Sound) {sent : Bool}
    (hlossless : Lossless session (.commandTimeout now sent)) :
    (session.processCommandTimeout now sent).Balanced := by
  unfold processCommandTimeout
  split
  · exact h
  next pending hpending =>
  split
  · exact h
  next helapsed =>
  split
  next hretries =>
    -- a retry that is lossless goes out
    have hsent : sent = true := by
      refine hlossless.resolve_right fun hnot => ?_
      have hretried : session.retries (.commandTimeout now sent) = true := by
        rw [retries, hpending]
        simp only [Option.any_some, Bool.and_eq_true, decide_eq_true_eq]
        exact ⟨Int.not_lt.1 helapsed, hretries⟩
      rw [hnot.1] at hretried
      cases hretried
    subst hsent
    have hresent := (Ledger.transmitted h pending.command true).recorded .ackRetry rfl
      pending.command.bytes (some pending.command.number)
    refine hresent.relive fun other => or_congr_left ?_
    rw [hpending]
    constructor
    · rintro ⟨pending', hpending', rfl⟩
      cases hpending'
      exact ⟨pending, rfl, rfl⟩
    · rintro ⟨pending', hpending', rfl⟩
      cases hpending'
      exact ⟨_, rfl, rfl⟩
  next hretries =>
    have hends : session.ends (.commandTimeout now sent) = true := by
      rw [ends, hpending]
      simp only [Option.any_some, Bool.and_eq_true, decide_eq_true_eq]
      exact ⟨Int.not_lt.1 helapsed, Nat.not_lt.1 hretries⟩
    let counted := { session with commandAckTimeoutCount := session.commandAckTimeoutCount + 1 }
    have hbalanced : (counted.finish pending .ackTimeout pending.command.bytes).Balanced :=
      finish_balanced h hsound hpending .ackTimeout rfl nofun _
    have hfinished : (counted.finish pending .ackTimeout pending.command.bytes).Sound :=
      finish_sound hsound hpending .ackTimeout rfl _
    have hroom : sent = true ∨ session.commandQueue.length ≤ 1 :=
      hlossless.imp_right fun hcond => hcond.2 hends
    exact sendNextQueued_balanced hbalanced hfinished hroom

theorem submit_balanced (h : session.Balanced) (hsettled : session.Settled) (sent : Bool) :
    (session.submit data now sent).Balanced := by
  unfold submit sendCommand
  cases payloadOf data with
  | none => exact Ledger.recorded h _ rfl _ _
  | some payload =>
  dsimp only
  cases hpending : session.pendingCommand with
  | some pending =>
    rw [if_pos (by rfl)]
    by_cases hfull : session.commandQueue.length ≥ commandQueueCapacity
    · rw [if_pos hfull]
      exact h
    · rw [if_neg hfull]
      exact (Ledger.recorded h .commandQueued rfl payload.toList (some session.next)).accept
        live_append
  | none =>
    rw [if_neg (by nofun)]
    have hqueue := hsettled.behind hpending
    have hsound := hsettled.sound
    rw [Sound, hpending, hqueue] at hsound
    rw [Balanced, hpending, hqueue] at h
    let command : Command := { number := session.next, data := payload }
    cases sent with
    | true =>
      have hsent := (h.transmitted command true).recorded .command rfl command.bytes
        (some command.number)
      let started : Pending := {
        command
        token := commandToken command.bytes
        sentAt := now
        retryCount := 0 }
      have haccepted : Ledger (some started) [] _ := hsent.accept live_only
      rw [← hqueue] at haccepted
      exact haccepted
    | false =>
      -- the command was not accepted: its failure is no outcome of another
      have hfailed : Ledger none [] (.recorded .txFailed command.bytes (some command.number) ::
          .transmitted command false :: session.history) :=
        ⟨h.entered, fun other hmem => (h.accounted other hmem).imp_right fun htold =>
          htold.transmitFailed (hsound.untouched payload)⟩
      rw [← hpending, ← hqueue] at hfailed
      exact hfailed

/-! ## A call that loses a command -/

/-- An accepted command is gone, and no event ended it. -/
theorem not_allAccounted (hmem : command ∈ acceptances session.history)
    (hpending : session.pendingCommand = none) (hqueue : session.commandQueue = [])
    (hsilent : outcomes command.number session.history = []) : ¬AllAccounted session := by
  intro hall
  refine not_told hsilent (hall command hmem ?_)
  rw [hpending, hqueue]
  exact not_live_nil command

/-- A retry that raises loses the outstanding command. -/
theorem resendPending_loses (h : session.Balanced) (hsound : session.Sound)
    (hpending : session.pendingCommand = some pending) :
    ¬AllAccounted (session.resendPending pending now false) := by
  have hmem : pending.command ∈ acceptances session.history :=
    h.entered _ (.inl ⟨pending, hpending, rfl⟩)
  have hsilent := (hsound.outstanding pending hpending).silent
  exact not_allAccounted hmem rfl rfl hsilent

/-- A transmission that raises loses what waits behind it. -/
theorem sendNextQueued_loses (h : session.Balanced) (hsound : session.Sound)
    (hpending : session.pendingCommand = none) (hqueue : 2 ≤ session.commandQueue.length) :
    ¬AllAccounted (session.sendNextQueued now false) := by
  match hcommands : session.commandQueue with
  | [] => rw [hcommands] at hqueue; cases hqueue
  | [_] => rw [hcommands] at hqueue; exact absurd hqueue (Nat.lt_irrefl 1)
  | first :: lost :: rest =>
    rw [Balanced, hcommands] at h
    rw [Sound, hcommands] at hsound
    have hmem : lost ∈ acceptances session.history :=
      h.entered _ (.inr (List.mem_cons_of_mem _ List.mem_cons_self))
    have hsilent := (hsound.queued lost (List.mem_cons_of_mem _ List.mem_cons_self)).2.silent
    have hne : first.number ≠ lost.number :=
      Nat.ne_of_lt (hsound.pop.2 lost List.mem_cons_self)
    have hsame : outcomes lost.number (.recorded .txFailed first.bytes (some first.number) ::
        .transmitted first false :: session.history) = [] :=
      (outcomes_recorded_of_ne (by simp [hne])).trans hsilent
    have hafter : session.sendNextQueued now false =
        { session with
          commandQueue := []
          history := .recorded .txFailed first.bytes (some first.number) ::
            .transmitted first false :: session.history
          health := .txException :: session.health } := by
      unfold sendNextQueued
      rw [hpending, hcommands]
      rfl
    rw [hafter]
    exact not_allAccounted hmem hpending rfl hsame

theorem not_lossless_iff {event : Event} : ¬Lossless session event ↔ event.sent = false ∧
    (session.retries event = true ∨ session.ends event = true ∧ 2 ≤ session.commandQueue.length) := by
  unfold Lossless
  rw [not_or, Bool.not_eq_true, not_and_or, Bool.not_eq_false, Classical.not_imp, Nat.not_le,
    Nat.lt_iff_add_one_le]

theorem step_loses (event : Event) (hsettled : session.Settled) (h : session.Balanced)
    (hlossy : ¬Lossless session event) : ¬AllAccounted (step session event) := by
  obtain ⟨hsent, hlost⟩ := not_lossless_iff.1 hlossy
  cases event with
  -- a first send neither retries a command nor ends one
  | sendCommand data now sent => rcases hlost with hretries | ⟨hends, -⟩ <;> contradiction
  | commandAck data now sent =>
    obtain ⟨hends, hqueue⟩ := hlost.resolve_left Bool.false_ne_true
    rw [Event.sent] at hsent
    subst hsent
    rw [ends, Bool.and_eq_true] at hends
    obtain ⟨hvalid, hmatched⟩ := hends
    obtain ⟨pending, hmatched⟩ := Option.isSome_iff_exists.1 hmatched
    have hpending := matched_pending hmatched
    have hstep : step session (.commandAck data now false) =
        (session.acknowledge pending data).sendNextQueued now false := by
      rw [step, handleCommandAck, hvalid, hmatched]
      rfl
    rw [hstep]
    refine sendNextQueued_loses (acknowledge_balanced h hsettled.sound hpending)
      (acknowledge_sound hsettled.sound hpending) ?_ ?_
    · unfold acknowledge
      split
      · rfl
      · split <;> rfl
    · rw [acknowledge_queue]
      exact hqueue
  | commandTimeout now sent =>
    rw [Event.sent] at hsent
    subst hsent
    cases hpending : session.pendingCommand with
    | none =>
      rw [retries, ends, hpending] at hlost
      rcases hlost with hretries | ⟨hends, -⟩ <;> contradiction
    | some pending =>
      rw [retries, ends, hpending] at hlost
      simp only [Option.any_some, Bool.and_eq_true, decide_eq_true_eq] at hlost
      rw [step, processCommandTimeout, hpending]
      dsimp only
      rcases hlost with ⟨helapsed, hretries⟩ | ⟨⟨helapsed, hretries⟩, hqueue⟩
      -- the retry is refused
      · rw [if_neg (Int.not_lt.2 helapsed), if_pos hretries]
        exact resendPending_loses h hsettled.sound hpending
      -- out of retries: the command ends, and the next one queued is refused
      · rw [if_neg (Int.not_lt.2 helapsed), if_neg (Nat.not_lt.2 hretries)]
        let counted := { session with commandAckTimeoutCount := session.commandAckTimeoutCount + 1 }
        have hbalanced : (counted.finish pending .ackTimeout pending.command.bytes).Balanced :=
          finish_balanced h hsettled.sound hpending .ackTimeout rfl (by simp) _
        have hfinished : (counted.finish pending .ackTimeout pending.command.bytes).Sound :=
          finish_sound hsettled.sound hpending .ackTimeout rfl _
        exact sendNextQueued_loses hbalanced hfinished rfl hqueue

end Session

/-! ## Runs -/

theorem step_balanced (session : Session) (event : Event) (hlossless : Lossless session event)
    (h : session.Settled ∧ session.Balanced) :
    (step session event).Settled ∧ (step session event).Balanced := by
  refine ⟨step_settled session event h.1, ?_⟩
  cases event with
  | sendCommand data now sent => exact Session.submit_balanced h.2 h.1 sent
  | commandAck data now sent => exact Session.handleCommandAck_balanced h.2 h.1.sound hlossless
  | commandTimeout now sent => exact Session.processCommandTimeout_balanced h.2 h.1.sound hlossless

theorem balanced_init : Session.Balanced {} :=
  ⟨fun other hlive => absurd hlive (not_live_nil other), List.forall_mem_nil _⟩

/-- **No accepted command vanishes** at any time of a run, exactly if none
of its calls loses one. -/
theorem accounted_iff (events : List Event) :
    (∀ n, AllAccounted (run step {} (events.take n))) ↔ Along step Lossless {} events := by
  refine along_iff_forall_take (I := fun session : Session => session.Settled ∧ session.Balanced)
    step_balanced ?_ ?_ events {} ⟨⟨kept_init, fun _ => rfl⟩, balanced_init⟩
  · intro session h command hmem hlive
    exact (h.2.accounted command hmem).resolve_left hlive
  · intro session event h hlossy
    exact Session.step_loses event h.1 h.2 hlossy

/-- The LED command, a command behind it, and a retry that raises. -/
def lostRetry : List Event :=
  [.sendCommand [0x10, 2, 1, 0, 0, 0, 0, 0] 0 true, .sendCommand [0x11, 0, 0, 0, 0, 0, 0, 0] 1 true,
    .commandTimeout 800000 false]

/-- Both commands have vanished. -/
theorem lostRetry_vanishes : ¬AllAccounted (run step {} lostRetry) := by
  have hafter : (run step {} lostRetry).pendingCommand = none ∧
      (run step {} lostRetry).commandQueue = [] ∧
      { number := 0, data := #v[0x10, 2, 1, 0, 0, 0, 0, 0] } ∈
        acceptances (run step {} lostRetry).history ∧
      outcomes 0 (run step {} lostRetry).history = [] := by
    decide +kernel
  exact Session.not_allAccounted hafter.2.2.1 hafter.1 hafter.2.1 hafter.2.2.2

end CanSession

end CanGui
