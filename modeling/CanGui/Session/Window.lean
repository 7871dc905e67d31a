import CanGui.Session.CanSession
/-!
# CAN session — the command window

One command is outstanding, the later ones wait behind it, and a command
is sent again only while it has no outcome.
-/

namespace CanGui

namespace CanSession

/-! ## What a history says of a command -/

/-- The numbers `bus.send` was called with, the latest first. -/
def sends : List Entry → List Nat
  | [] => []
  | .transmitted command _ :: earlier => command.number :: sends earlier
  | .accepted _ :: earlier => sends earlier
  | .recorded _ _ _ :: earlier => sends earlier

/-- The commands accepted, the latest first. -/
def acceptances : List Entry → List Command
  | [] => []
  | .accepted command :: earlier => command :: acceptances earlier
  | .transmitted _ _ :: earlier => acceptances earlier
  | .recorded _ _ _ :: earlier => acceptances earlier

/-- The events that ended a command, with their payloads. -/
def outcomes (number : Nat) : List Entry → List (EventCode × Bytes)
  | [] => []
  | .recorded event payload subject :: earlier =>
    if subject = some number ∧ event.isOutcome = true then
      (event, payload) :: outcomes number earlier
    else outcomes number earlier
  | .accepted _ :: earlier => outcomes number earlier
  | .transmitted _ _ :: earlier => outcomes number earlier

/-- Whether the command went out when `bus.send` was last called with it. -/
def lastSend (number : Nat) : List Entry → Option Bool
  | [] => none
  | .transmitted command sent :: earlier =>
    if command.number = number then some sent else lastSend number earlier
  | .accepted _ :: earlier => lastSend number earlier
  | .recorded _ _ _ :: earlier => lastSend number earlier

/-- The command went out and has no outcome. -/
def Awaiting (history : List Entry) (number : Nat) : Prop :=
  lastSend number history = some true ∧ outcomes number history = []

/-- Each call of `bus.send` had a command no older than the calls before,
within its retries and without an outcome yet. -/
def Fair : List Entry → Prop
  | [] => True
  | .transmitted command _ :: earlier =>
    ((∀ n ∈ sends earlier, n ≤ command.number) ∧
      (sends earlier).count command.number ≤ commandAckMaxRetries ∧
      outcomes command.number earlier = []) ∧ Fair earlier
  | .accepted _ :: earlier => Fair earlier
  | .recorded _ _ _ :: earlier => Fair earlier

/-- The history names no command from `next` on. -/
structure Before (next : Nat) (history : List Entry) : Prop where
  sends : ∀ n ∈ sends history, n < next
  acceptances : ∀ command ∈ acceptances history, command.number < next
  outcomes : ∀ n, next ≤ n → outcomes n history = []

variable {session : Session} {history earlier : List Entry} {command : Command} {pending : Pending}
variable {data : Bytes} {now : Int} {sent : Bool} {number n : Nat}

theorem outcomes_recorded_of_ne {event : EventCode} {payload : Bytes} {subject : Option Nat}
    (h : ¬(subject = some number ∧ event.isOutcome = true)) :
    outcomes number (.recorded event payload subject :: earlier) = outcomes number earlier := by
  rw [outcomes, if_neg h]

theorem outcomes_recorded_self {event : EventCode} {payload : Bytes} (h : event.isOutcome = true) :
    outcomes number (.recorded event payload (some number) :: earlier) =
      (event, payload) :: outcomes number earlier := by
  rw [outcomes, if_pos ⟨rfl, h⟩]

theorem lastSend_transmitted_self :
    lastSend command.number (.transmitted command sent :: earlier) = some sent := by
  rw [lastSend, if_pos rfl]

theorem lastSend_transmitted_of_ne (h : command.number ≠ n) :
    lastSend n (.transmitted command sent :: earlier) = lastSend n earlier := by
  rw [lastSend, if_neg h]

theorem mem_sends_of_lastSend {b : Bool} (h : lastSend number history = some b) :
    number ∈ sends history := by
  induction history with
  | nil => cases h
  | cons entry earlier ih =>
    cases entry with
    | accepted _ => exact ih h
    | recorded _ _ _ => exact ih h
    | transmitted command sent =>
      by_cases heq : command.number = number
      · exact List.mem_cons.2 (.inl heq.symm)
      · rw [lastSend_transmitted_of_ne heq] at h
        exact List.mem_cons_of_mem _ (ih h)

/-! ## What a fair history says -/

/-- The calls of `bus.send` kept the order of the numbers. -/
theorem Fair.sorted (h : Fair history) : (sends history).Pairwise (· ≥ ·) := by
  induction history with
  | nil => exact .nil
  | cons entry earlier ih =>
    cases entry with
    | accepted _ => exact ih h
    | recorded _ _ _ => exact ih h
    | transmitted command sent => exact .cons h.1.1 (ih h.2)

theorem Fair.count_le (h : Fair history) (number : Nat) :
    (sends history).count number ≤ 1 + commandAckMaxRetries := by
  induction history with
  | nil => exact Nat.zero_le _
  | cons entry earlier ih =>
    cases entry with
    | accepted _ => exact ih h
    | recorded _ _ _ => exact ih h
    | transmitted command sent =>
      rw [sends]
      by_cases heq : command.number = number
      · subst heq
        have := h.1.2.1
        rw [List.count_cons_self]
        omega
      · rw [List.count_cons_of_ne heq]
        exact ih h.2

/-- No command went out once it had an outcome. -/
theorem Fair.silent (h : Fair history) {later : List Entry}
    (hsplit : history = later ++ .transmitted command sent :: earlier) :
    outcomes command.number earlier = [] := by
  subst hsplit
  induction later with
  | nil => exact h.1.2.2
  | cons entry later ih =>
    cases entry with
    | accepted _ => exact ih h
    | recorded _ _ _ => exact ih h
    | transmitted _ _ => exact ih h.2

/-! ## The invariant -/

/-- What is known of the outstanding command. -/
structure Outstanding (history : List Entry) (pending : Pending) : Prop where
  last : lastSend pending.command.number history = some true
  latest : ∀ n ∈ sends history, n ≤ pending.command.number
  count : (sends history).count pending.command.number = pending.retryCount + 1
  retries : pending.retryCount ≤ commandAckMaxRetries
  silent : outcomes pending.command.number history = []

/-- A command that was never sent and has no outcome. -/
structure Untouched (history : List Entry) (command : Command) : Prop where
  later : ∀ n ∈ sends history, n < command.number
  silent : outcomes command.number history = []

/-- The outstanding command, those waiting and the next number agree with
the history. -/
structure Kept (pendingCommand : Option Pending) (queue : List Command) (next : Nat)
    (history : List Entry) : Prop where
  room : queue.length ≤ commandQueueCapacity
  ordered : (queue.map Command.number).Pairwise (· < ·)
  queued : ∀ command ∈ queue, command.number < next ∧ Untouched history command
  outstanding : ∀ pending, pendingCommand = some pending → Outstanding history pending
  awaiting : ∀ n, Awaiting history n →
    ∃ pending, pendingCommand = some pending ∧ pending.command.number = n
  before : Before next history
  fair : Fair history
  accepted : ((acceptances history).map Command.number).Pairwise (· > ·)

variable {pendingCommand : Option Pending} {queue : List Command} {next : Nat}

theorem kept_init : Kept none [] 0 [] where
  room := Nat.zero_le _
  ordered := .nil
  queued := List.forall_mem_nil _
  outstanding := nofun
  awaiting := fun _ h => absurd h.1 nofun
  before := ⟨List.forall_mem_nil _, List.forall_mem_nil _, fun _ _ => rfl⟩
  fair := trivial
  accepted := .nil

/-- An event that ends no command changes nothing. -/
theorem Kept.recorded (h : Kept pendingCommand queue next history) (event : EventCode)
    (hevent : event.isOutcome = false) (payload : Bytes) (subject : Option Nat) :
    Kept pendingCommand queue next (.recorded event payload subject :: history) := by
  have houtcomes : ∀ n, outcomes n (.recorded event payload subject :: history) =
      outcomes n history := fun n => outcomes_recorded_of_ne (by rw [hevent]; nofun)
  refine ⟨h.room, h.ordered, ?_, ?_, ?_, ?_, h.fair, h.accepted⟩
  · intro command hmem
    obtain ⟨hnext, hlater, hsilent⟩ := h.queued command hmem
    exact ⟨hnext, hlater, (houtcomes _).trans hsilent⟩
  · intro pending hpending
    obtain ⟨hlast, hlatest, hcount, hretries, hsilent⟩ := h.outstanding pending hpending
    exact ⟨hlast, hlatest, hcount, hretries, (houtcomes _).trans hsilent⟩
  · intro n hawaiting
    exact h.awaiting n ⟨hawaiting.1, (houtcomes n).symm.trans hawaiting.2⟩
  · exact ⟨h.before.sends, h.before.acceptances, fun n hn => (houtcomes n).trans (h.before.outcomes n hn)⟩

/-- The queue can be dropped. -/
theorem Kept.clear (h : Kept pendingCommand queue next history) :
    Kept pendingCommand [] next history :=
  ⟨Nat.zero_le _, .nil, List.forall_mem_nil _, h.outstanding, h.awaiting, h.before, h.fair, h.accepted⟩

/-- The queue gives up its first command. -/
theorem Kept.pop {rest : List Command} (h : Kept pendingCommand (command :: rest) next history) :
    Kept pendingCommand rest next history ∧ ∀ later ∈ rest, command.number < later.number := by
  obtain ⟨hroom, hordered, hqueued, houtstanding, hawaiting, hbefore, hfair, haccepted⟩ := h
  rw [List.map_cons, List.pairwise_cons] at hordered
  refine ⟨⟨Nat.le_of_succ_le hroom, hordered.2, fun later hmem => ?_, houtstanding, hawaiting, hbefore,
    hfair, haccepted⟩, fun later hmem => ?_⟩
  · exact hqueued later (List.mem_cons_of_mem _ hmem)
  · exact hordered.1 _ (List.mem_map_of_mem hmem)

/-- A number is given out. -/
theorem Kept.advance (h : Kept pendingCommand queue next history) :
    Kept pendingCommand queue (next + 1) history := by
  refine ⟨h.room, h.ordered, fun command hmem => ?_, h.outstanding, h.awaiting, ?_, h.fair, h.accepted⟩
  · exact ⟨Nat.lt_succ_of_lt (h.queued command hmem).1, (h.queued command hmem).2⟩
  · obtain ⟨hsends, hacceptances, houtcomes⟩ := h.before
    exact ⟨fun n hn => Nat.lt_succ_of_lt (hsends n hn),
      fun command hmem => Nat.lt_succ_of_lt (hacceptances command hmem),
      fun n hn => houtcomes n (Nat.le_of_succ_le hn)⟩

/-- A new command is untouched, and behind all that wait. -/
theorem Kept.untouched (h : Kept pendingCommand queue next history) (data : Payload) :
    Untouched history { number := next, data } :=
  ⟨h.before.sends, h.before.outcomes next (Nat.le_refl _)⟩

/-- The command waits behind the others. -/
theorem Kept.enqueue (h : Kept pendingCommand queue next history)
    (hroom : queue.length < commandQueueCapacity) (data : Payload) :
    Kept pendingCommand (queue ++ [{ number := next, data }]) (next + 1) history := by
  have hnumber := h.advance
  refine ⟨?_, ?_, ?_, hnumber.outstanding, hnumber.awaiting, hnumber.before, hnumber.fair,
    hnumber.accepted⟩
  · rw [List.length_append, List.length_singleton]
    omega
  · rw [List.map_append, List.pairwise_append]
    refine ⟨h.ordered, List.pairwise_singleton _ _, fun n hn m hm => ?_⟩
    obtain ⟨command, hmem, rfl⟩ := List.mem_map.1 hn
    rw [List.mem_singleton.1 hm]
    exact (h.queued command hmem).1
  · intro command hmem
    rcases List.mem_append.1 hmem with hmem | hmem
    · exact hnumber.queued command hmem
    · rw [List.mem_singleton.1 hmem]
      exact ⟨Nat.lt_succ_self next, h.untouched data⟩

/-! ## Sending -/

/-- `bus.send` is called with a command within its retries, none later and
without an outcome. -/
theorem Before.transmitted (h : Before next history) (hnumber : command.number < next)
    (sent : Bool) : Before next (.transmitted command sent :: history) :=
  ⟨List.forall_mem_cons.2 ⟨hnumber, h.sends⟩, h.acceptances, h.outcomes⟩

/-- **The first transmission.** Nothing is outstanding, and the command
comes before all that wait. -/
theorem Kept.transmit (h : Kept none queue next history) (hnumber : command.number < next)
    (huntouched : Untouched history command)
    (hfirst : ∀ later ∈ queue, command.number < later.number) (token : Nat) (now : Int) :
    Kept (some { command, token, sentAt := now, retryCount := 0 }) queue next
      (.transmitted command true :: history) := by
  have hnot : command.number ∉ sends history := fun hmem =>
    absurd (huntouched.later _ hmem) (Nat.lt_irrefl _)
  have hcount : (sends history).count command.number = 0 := List.count_eq_zero.2 hnot
  have hle : ∀ n ∈ sends history, n ≤ command.number := fun n hn => Nat.le_of_lt (huntouched.later n hn)
  refine ⟨h.room, h.ordered, ?_, ?_, ?_, h.before.transmitted hnumber true, ?_, h.accepted⟩
  · intro later hmem
    obtain ⟨hnext, hlater, hsilent⟩ := h.queued later hmem
    exact ⟨hnext, List.forall_mem_cons.2 ⟨hfirst later hmem, hlater⟩, hsilent⟩
  · rintro pending ⟨⟩
    refine ⟨lastSend_transmitted_self, ?_, ?_, Nat.zero_le _, huntouched.silent⟩
    · exact List.forall_mem_cons.2 ⟨Nat.le_refl _, hle⟩
    · dsimp only [sends]
      rw [List.count_cons_self, hcount]
  · intro n hawaiting
    refine ⟨_, rfl, ?_⟩
    by_contra hne
    -- another command would have been awaiting before
    obtain ⟨hlast, hsilent⟩ := hawaiting
    rw [lastSend_transmitted_of_ne hne] at hlast
    obtain ⟨pending, hpending, -⟩ := h.awaiting n ⟨hlast, hsilent⟩
    cases hpending
  · exact ⟨⟨hle, by omega, huntouched.silent⟩, h.fair⟩

/-- The first transmission raises: the command has its outcome at once. -/
theorem Kept.transmitFailed (h : Kept none queue next history) (hnumber : command.number < next)
    (huntouched : Untouched history command) :
    Kept none [] next (.recorded .txFailed command.bytes (some command.number) ::
      .transmitted command false :: history) := by
  have hnot : command.number ∉ sends history := fun hmem =>
    absurd (huntouched.later _ hmem) (Nat.lt_irrefl _)
  have hcount : (sends history).count command.number = 0 := List.count_eq_zero.2 hnot
  have hle : ∀ n ∈ sends history, n ≤ command.number := fun n hn => Nat.le_of_lt (huntouched.later n hn)
  have hbefore := h.before.transmitted hnumber false
  refine ⟨Nat.zero_le _, .nil, List.forall_mem_nil _, nofun, ?_, ?_, ?_, h.accepted⟩
  · intro n ⟨hlast, hsilent⟩
    by_cases heq : command.number = n
    · subst heq
      rw [lastSend, lastSend_transmitted_self] at hlast
      cases hlast
    · rw [lastSend, lastSend_transmitted_of_ne heq] at hlast
      rw [outcomes_recorded_of_ne (by simp [heq])] at hsilent
      exact h.awaiting n ⟨hlast, hsilent⟩
  · refine ⟨hbefore.sends, hbefore.acceptances, fun n hn => ?_⟩
    have hne : command.number ≠ n := by omega
    rw [outcomes_recorded_of_ne (by simp [hne])]
    exact hbefore.outcomes n hn
  · exact ⟨⟨hle, by omega, huntouched.silent⟩, h.fair⟩

/-- **A retry that goes out.** -/
theorem Kept.resend (h : Kept (some pending) queue next history)
    (hretries : pending.retryCount < commandAckMaxRetries) (now : Int) :
    Kept (some { pending with retryCount := pending.retryCount + 1, sentAt := now }) queue next
      (.transmitted pending.command true :: history) := by
  obtain ⟨hlast, hlatest, hcount, -, hsilent⟩ := h.outstanding pending rfl
  have hmem := mem_sends_of_lastSend hlast
  refine ⟨h.room, h.ordered, ?_, ?_, ?_, h.before.transmitted (h.before.sends _ hmem) true, ?_,
    h.accepted⟩
  · intro later hlater
    obtain ⟨hnext, hsends, hnone⟩ := h.queued later hlater
    exact ⟨hnext, List.forall_mem_cons.2 ⟨hsends _ hmem, hsends⟩, hnone⟩
  · rintro pending' ⟨⟩
    refine ⟨lastSend_transmitted_self, ?_, ?_, hretries, hsilent⟩
    · exact List.forall_mem_cons.2 ⟨Nat.le_refl _, hlatest⟩
    · dsimp only [sends]
      rw [List.count_cons_self, hcount]
  · intro n hawaiting
    refine ⟨_, rfl, ?_⟩
    by_contra hne
    obtain ⟨hlast', hsilent'⟩ := hawaiting
    rw [lastSend_transmitted_of_ne hne] at hlast'
    obtain ⟨pending', hpending, hnumber⟩ := h.awaiting n ⟨hlast', hsilent'⟩
    cases hpending
    exact hne hnumber
  · exact ⟨⟨hlatest, by omega, hsilent⟩, h.fair⟩

/-- A retry that raises: the command and the queue are dropped. -/
theorem Kept.resendLost (h : Kept (some pending) queue next history)
    (hretries : pending.retryCount < commandAckMaxRetries) :
    Kept none [] next (.transmitted pending.command false :: history) := by
  obtain ⟨hlast, hlatest, hcount, -, hsilent⟩ := h.outstanding pending rfl
  have hmem := mem_sends_of_lastSend hlast
  refine ⟨Nat.zero_le _, .nil, List.forall_mem_nil _, nofun, ?_,
    h.before.transmitted (h.before.sends _ hmem) false, ?_, h.accepted⟩
  · intro n ⟨hlast', hsilent'⟩
    by_cases heq : pending.command.number = n
    · subst heq
      rw [lastSend_transmitted_self] at hlast'
      cases hlast'
    · rw [lastSend_transmitted_of_ne heq] at hlast'
      obtain ⟨pending', hpending, hnumber⟩ := h.awaiting n ⟨hlast', hsilent'⟩
      cases hpending
      exact absurd hnumber heq
  · exact ⟨⟨hlatest, by omega, hsilent⟩, h.fair⟩

/-! ## The end of a command -/

/-- **The outstanding command has its outcome.** -/
theorem Kept.finish (h : Kept (some pending) queue next history) (event : EventCode)
    (hevent : event.isOutcome = true) (payload : Bytes) :
    Kept none queue next
      (.recorded event payload (some pending.command.number) :: history) := by
  obtain ⟨hlast, -⟩ := h.outstanding pending rfl
  have hmem := mem_sends_of_lastSend hlast
  have hother : ∀ n, pending.command.number ≠ n →
      outcomes n (.recorded event payload (some pending.command.number) :: history) =
        outcomes n history := fun n hne => outcomes_recorded_of_ne (by simp [hne])
  refine ⟨h.room, h.ordered, ?_, nofun, ?_, ?_, h.fair, h.accepted⟩
  · intro later hlater
    obtain ⟨hnext, hsends, hnone⟩ := h.queued later hlater
    exact ⟨hnext, hsends, (hother _ (Nat.ne_of_lt (hsends _ hmem))).trans hnone⟩
  · intro n ⟨hlast', hsilent'⟩
    by_cases heq : pending.command.number = n
    · subst heq
      rw [outcomes_recorded_self hevent] at hsilent'
      cases hsilent'
    · rw [hother n heq] at hsilent'
      obtain ⟨pending', hpending, hnumber⟩ := h.awaiting n ⟨hlast', hsilent'⟩
      cases hpending
      exact absurd hnumber heq
  · refine ⟨h.before.sends, h.before.acceptances, fun n hn => ?_⟩
    have hnumber := h.before.sends _ hmem
    exact (hother n (by omega)).trans (h.before.outcomes n hn)

/-- A command is accepted, the latest there is. -/
theorem Kept.accept (h : Kept pendingCommand queue next history) (hnumber : command.number < next)
    (hlatest : ∀ earlier ∈ acceptances history, earlier.number < command.number) :
    Kept pendingCommand queue next (.accepted command :: history) := by
  refine ⟨h.room, h.ordered, ?_, ?_, h.awaiting, ?_, h.fair, ?_⟩
  · exact fun later hmem => ⟨(h.queued later hmem).1, (h.queued later hmem).2.1, (h.queued later hmem).2.2⟩
  · intro pending hpending
    obtain ⟨hlast, hle, hcount, hretries, hsilent⟩ := h.outstanding pending hpending
    exact ⟨hlast, hle, hcount, hretries, hsilent⟩
  · exact ⟨h.before.sends, List.forall_mem_cons.2 ⟨hnumber, h.before.acceptances⟩, h.before.outcomes⟩
  · rw [acceptances, List.map_cons, List.pairwise_cons]
    refine ⟨fun n hn => ?_, h.accepted⟩
    obtain ⟨earlier, hmem, rfl⟩ := List.mem_map.1 hn
    exact hlatest earlier hmem

/-! ## The session -/

namespace Session

/-- The command window, within a call. -/
def Sound (session : Session) : Prop :=
  Kept session.pendingCommand session.commandQueue session.next session.history

/-- The command window, between calls. -/
structure Settled (session : Session) : Prop where
  sound : session.Sound
  behind : session.pendingCommand = none → session.commandQueue = []

theorem Settled.of_pending (h : session.Sound) (hsome : session.pendingCommand.isSome = true) :
    session.Settled := ⟨h, fun hnone => absurd hsome (by rw [hnone]; nofun)⟩

theorem Settled.of_empty (h : session.Sound) (hempty : session.commandQueue = []) :
    session.Settled := ⟨h, fun _ => hempty⟩

/-- The queue's first command goes out, or everything is dropped. -/
theorem sendNextQueued_settled (h : session.Sound) : (session.sendNextQueued now sent).Settled := by
  unfold sendNextQueued
  split
  next command rest hpending hqueue =>
    rw [Sound, hpending, hqueue] at h
    obtain ⟨hnumber, huntouched⟩ := h.queued command List.mem_cons_self
    obtain ⟨hrest, hfirst⟩ := h.pop
    cases sent with
    | true =>
      have hsent := (hrest.transmit hnumber huntouched hfirst (commandToken command.bytes) now).recorded
        .command rfl command.bytes (some command.number)
      exact .of_pending hsent rfl
    | false =>
      have hfailed := hrest.transmitFailed hnumber huntouched
      rw [← hpending] at hfailed
      exact .of_empty hfailed rfl
  next hmore =>
    refine ⟨h, fun hnone => ?_⟩
    cases hqueue : session.commandQueue with
    | nil => rfl
    | cons command rest => exact absurd hqueue (hmore command rest hnone)

theorem resendPending_settled (h : session.Sound) (hpending : session.pendingCommand = some pending)
    (hretries : pending.retryCount < commandAckMaxRetries) :
    (session.resendPending pending now sent).Settled := by
  rw [Sound, hpending] at h
  cases sent with
  | true => exact .of_pending ((h.resend hretries now).recorded _ rfl _ _) rfl
  | false => exact .of_empty (h.resendLost hretries) rfl

theorem finish_sound (h : session.Sound) (hpending : session.pendingCommand = some pending)
    (event : EventCode) (hevent : event.isOutcome = true) (payload : Bytes) :
    (session.finish pending event payload).Sound := by
  rw [Sound, hpending] at h
  exact h.finish event hevent payload

theorem acknowledge_sound (h : session.Sound) (hpending : session.pendingCommand = some pending) :
    (session.acknowledge pending data).Sound := by
  unfold acknowledge
  split
  · exact finish_sound h hpending .ackAccepted rfl data
  · -- the counter and the health report are no part of the window
    split
    · exact finish_sound h hpending (.ackStatus (data.at' 3)) rfl data
    · exact finish_sound h hpending (.ackStatus (data.at' 3)) rfl data

theorem matched_pending (h : session.matched data = some pending) :
    session.pendingCommand = some pending := (Option.filter_eq_some_iff.1 h).1

theorem handleCommandAck_settled (h : session.Settled) :
    (session.handleCommandAck data now sent).Settled := by
  unfold handleCommandAck
  split
  · exact ⟨h.sound.recorded _ rfl _ _, h.behind⟩
  split
  · exact ⟨h.sound.recorded _ rfl _ _, h.behind⟩
  next pending hmatched =>
    exact sendNextQueued_settled (acknowledge_sound h.sound (matched_pending hmatched))

theorem processCommandTimeout_settled (h : session.Settled) :
    (session.processCommandTimeout now sent).Settled := by
  unfold processCommandTimeout
  split
  · exact h
  next pending hpending =>
  split
  · exact h
  split
  next hretries => exact resendPending_settled h.sound hpending hretries
  · exact sendNextQueued_settled (finish_sound h.sound hpending _ rfl pending.command.bytes)

/-- What a command leaves before it is entered as accepted. -/
theorem sendCommand_settled (h : session.Settled) (data : Bytes) (now : Int) (sent : Bool) :
    (session.sendCommand data now sent).2.Settled ∧
      acceptances (session.sendCommand data now sent).2.history = acceptances session.history ∧
      ((session.sendCommand data now sent).1 = none →
        (session.sendCommand data now sent).2.next = session.next + 1) := by
  unfold sendCommand
  cases payloadOf data with
  | none => exact ⟨⟨h.sound.recorded _ rfl _ _, h.behind⟩, rfl, nofun⟩
  | some payload =>
  dsimp only
  split
  next hsome =>
    split
    · exact ⟨h, rfl, nofun⟩
    next hroom =>
      have hqueued := (h.sound.enqueue (Nat.not_le.1 hroom) payload).recorded .commandQueued rfl
        payload.toList (some session.next)
      exact ⟨.of_pending hqueued hsome, rfl, fun _ => rfl⟩
  next hnone =>
    have hpending : session.pendingCommand = none := Option.not_isSome_iff_eq_none.1 hnone
    have hqueue := h.behind hpending
    have hkept := h.sound
    rw [Sound, hpending, hqueue] at hkept
    have huntouched := hkept.untouched payload
    have hlt : session.next < session.next + 1 := Nat.lt_succ_self _
    cases sent with
    | true =>
      have hsent := (hkept.advance.transmit hlt huntouched (List.forall_mem_nil _)
        (commandToken payload.toList) now).recorded .command rfl payload.toList (some session.next)
      rw [← hqueue] at hsent
      exact ⟨.of_pending hsent rfl, rfl, fun _ => rfl⟩
    | false =>
      have hfailed := hkept.advance.transmitFailed hlt huntouched
      rw [← hpending, ← hqueue] at hfailed
      exact ⟨.of_empty hfailed hqueue, rfl, nofun⟩

theorem submit_settled (h : session.Settled) : (session.submit data now sent).Settled := by
  obtain ⟨hsettled, hacceptances, hnext⟩ := sendCommand_settled h data now sent
  unfold submit
  split
  next after payload heq _ =>
    rw [heq] at hsettled hacceptances hnext
    refine ⟨hsettled.sound.accept ?_ ?_, hsettled.behind⟩
    · rw [hnext rfl]
      exact Nat.lt_succ_self _
    · rw [hacceptances]
      exact h.sound.before.acceptances
  next heq _ =>
    rw [heq] at hsettled
    exact hsettled

end Session

/-- **The step rule.** -/
theorem step_settled (session : Session) (event : Event) (h : session.Settled) :
    (step session event).Settled := by
  cases event with
  | sendCommand data now sent => exact Session.submit_settled h
  | commandAck data now sent => exact Session.handleCommandAck_settled h
  | commandTimeout now sent => exact Session.processCommandTimeout_settled h

theorem run_settled (events : List Event) : (run step {} events).Settled :=
  run_invariant step_settled events {} ⟨kept_init, fun _ => rfl⟩

/-! ## The window -/

/-- The command window of the GUI. -/
structure Windowed (session : Session) : Prop where
  /-- At most one command went out and has no outcome: the outstanding one. -/
  outstanding : ∀ n, Awaiting session.history n →
    ∃ pending, session.pendingCommand = some pending ∧ pending.command.number = n
  one : ∀ n m, Awaiting session.history n → Awaiting session.history m → n = m
  room : session.commandQueue.length ≤ commandQueueCapacity
  behind : session.commandQueue ≠ [] → session.pendingCommand ≠ none
  /-- Numbers stand for the order of acceptance. -/
  accepted : ((acceptances session.history).reverse.map Command.number).Pairwise (· < ·)
  /-- The transmissions, retries among them, are in that order. -/
  order : (sends session.history).reverse.Pairwise (· ≤ ·)
  retries : ∀ n, (sends session.history).count n ≤ 1 + commandAckMaxRetries
  /-- No command goes out that has its outcome. -/
  silent : ∀ command sent later earlier,
    session.history = later ++ .transmitted command sent :: earlier →
      outcomes command.number earlier = []

/-- **The command window.** Calls of `bus.send` that raise count as
transmissions too. -/
theorem run_windowed (events : List Event) : Windowed (run step {} events) := by
  obtain ⟨hsound, hbehind⟩ := run_settled events
  refine ⟨hsound.awaiting, ?_, hsound.room, ?_, ?_, ?_, hsound.fair.count_le, ?_⟩
  · intro n m hn hm
    obtain ⟨pending, hpending, rfl⟩ := hsound.awaiting n hn
    obtain ⟨pending', hpending', rfl⟩ := hsound.awaiting m hm
    rw [hpending] at hpending'
    cases hpending'
    rfl
  · exact fun hne hnone => hne (hbehind hnone)
  · rw [List.map_reverse]
    exact List.pairwise_reverse.2 hsound.accepted
  · exact List.pairwise_reverse.2 hsound.fair.sorted
  · exact fun command sent later earlier hsplit => hsound.fair.silent hsplit

end CanSession

end CanGui
