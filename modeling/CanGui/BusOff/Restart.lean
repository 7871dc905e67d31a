import CanGui.BusOff.Recovery
/-!
# Bus-off recovery — what was restarted

A verification may begin only once the peripheral was stopped and started
behind the last bus-off event that the main loop has scheduled. The phases
of an attempt that failed half-way are not repeated, so a bus-off event
that comes in between can be behind all of them.
-/

namespace CanGui

namespace BusOff

/-! ## Behind a bus-off event -/

/-- The history behind its `n`-th bus-off event. -/
def behind : Nat → List Happening → List Happening
  | 0, history => history
  | _ + 1, [] => []
  | n + 1, happening :: history => behind (if happening = .busOff then n else n + 1) history

theorem behind_append {n : Nat} {history more : List Happening} (h : n ≤ busOffs history) :
    behind n (history ++ more) = behind n history ++ more := by
  induction history generalizing n with
  | nil =>
    rw [busOffs, List.count_nil, Nat.le_zero] at h
    subst h
    simp only [behind, List.nil_append]
  | cons happening history ih =>
    cases n with
    | zero => rfl
    | succ n =>
      rw [busOffs, List.count_cons, ← busOffs] at h
      refine ih ?_
      by_cases hbusOff : happening = .busOff
      · rw [if_pos (by rw [hbusOff]; rfl)] at h
        rw [if_pos hbusOff]
        omega
      · rw [if_neg (by simpa using hbusOff)] at h
        rw [if_neg hbusOff]
        exact h

/-- A successful Stop behind the `n`-th bus-off event. -/
def Stopped (n : Nat) (history : List Happening) : Prop := .stopped .ok ∈ behind n history

/-- A successful Stop and a successful Start behind the `n`-th bus-off
event. -/
def Restarted (n : Nat) (history : List Happening) : Prop :=
  Stopped n history ∧ .started .ok ∈ behind n history

/-- What the phase says is done was done behind the `n`-th bus-off
event. -/
def Done (n : Nat) (history : List Happening) : Phase → Prop
  | .stop => True
  | .start => Stopped n history
  | .notification => Restarted n history

instance (n : Nat) (history : List Happening) : Decidable (Stopped n history) :=
  inferInstanceAs (Decidable (_ ∈ _))

instance (n : Nat) (history : List Happening) : Decidable (Restarted n history) :=
  inferInstanceAs (Decidable (_ ∧ _))

instance (n : Nat) (history : List Happening) : (phase : Phase) → Decidable (Done n history phase)
  | .stop => inferInstanceAs (Decidable True)
  | .start => inferInstanceAs (Decidable (Stopped n history))
  | .notification => inferInstanceAs (Decidable (Restarted n history))

section Behind

variable {n : Nat} {history history' more : List Happening} {phase : Phase}

theorem mem_behind (h : n ≤ busOffs history) (hextends : history <+: history') {x : Happening}
    (hx : x ∈ behind n history) : x ∈ behind n history' := by
  obtain ⟨more, rfl⟩ := hextends
  rw [behind_append h]
  exact List.mem_append_left more hx

theorem mem_behind_concat (h : n ≤ busOffs history) (x : Happening) :
    x ∈ behind n (history ++ [x]) := by
  rw [behind_append h]
  exact List.mem_append_right _ List.mem_cons_self

theorem busOffs_le (hextends : history <+: history') : busOffs history ≤ busOffs history' := by
  obtain ⟨more, rfl⟩ := hextends
  rw [busOffs, busOffs, List.count_append]
  exact Nat.le_add_right _ _

theorem Stopped.mono (h : n ≤ busOffs history) (hextends : history <+: history')
    (hstopped : Stopped n history) : Stopped n history' := mem_behind h hextends hstopped

theorem Restarted.mono (h : n ≤ busOffs history) (hextends : history <+: history')
    (hrestarted : Restarted n history) : Restarted n history' :=
  ⟨hrestarted.1.mono h hextends, mem_behind h hextends hrestarted.2⟩

theorem Done.mono (h : n ≤ busOffs history) (hextends : history <+: history')
    (hdone : Done n history phase) : Done n history' phase := by
  cases phase with
  | stop => trivial
  | start => exact Stopped.mono h hextends hdone
  | notification => exact Restarted.mono h hextends hdone

end Behind

/-! ## The invariant -/

variable {machine machine' : Machine} {call : Call}

/-- What the phase and the verification promise. -/
structure Restarts (machine : Machine) : Prop where
  scheduled_le : machine.ledger.scheduled ≤ busOffs machine.ledger.history
  done : Done machine.ledger.scheduled machine.ledger.history machine.main.recoveryPhase
  pending : machine.main.recoveryVerificationPending = true →
    Restarted machine.ledger.scheduled machine.ledger.history

/-- What happened leaves the promises alone. -/
theorem Restarts.mono (h : Restarts machine)
    (hscheduled : machine'.ledger.scheduled = machine.ledger.scheduled)
    (hhistory : machine.ledger.history <+: machine'.ledger.history)
    (hphase : machine'.main.recoveryPhase = machine.main.recoveryPhase)
    (hpending : machine'.main.recoveryVerificationPending = true →
      machine.main.recoveryVerificationPending = true) : Restarts machine' := by
  have hle := h.scheduled_le
  rw [← hscheduled] at hle
  refine ⟨Nat.le_trans hle (busOffs_le hhistory), ?_, fun hverifying => ?_⟩
  · have hdone := h.done
    rw [← hscheduled, ← hphase] at hdone
    exact hdone.mono hle hhistory
  · have hrestarted := h.pending (hpending hverifying)
    rw [← hscheduled] at hrestarted
    exact hrestarted.mono hle hhistory

theorem Grown.scheduled (h : Grown machine machine') :
    machine'.ledger.scheduled = machine.ledger.scheduled := by
  have hsame := congrArg Ledger.scheduled h.ledger
  exact hsame

theorem Grown.restarts (hgrown : Grown machine machine') (h : Restarts machine) :
    Restarts machine' :=
  h.mono hgrown.scheduled hgrown.history (by rw [hgrown.main]) (by rw [hgrown.main]; exact id)

/-! ## The parts of a call -/

/-- What only writes the log leaves alone. -/
structure Logged (machine machine' : Machine) : Prop where
  scheduled : machine'.ledger.scheduled = machine.ledger.scheduled
  history : machine.ledger.history <+: machine'.ledger.history
  phase : machine'.main.recoveryPhase = machine.main.recoveryPhase
  pending : machine'.main.recoveryVerificationPending = machine.main.recoveryVerificationPending
  successes : machine'.main.recoveryStats.recoverySuccesses =
    machine.main.recoveryStats.recoverySuccesses

theorem Grown.logged (h : Grown machine machine') : Logged machine machine' :=
  ⟨h.scheduled, h.history, by rw [h.main], by rw [h.main], by rw [h.main]⟩

theorem Logged.trans {machine'' : Machine} (h : Logged machine machine')
    (h' : Logged machine' machine'') : Logged machine machine'' :=
  ⟨h'.scheduled.trans h.scheduled, h.history.trans h'.history, h'.phase.trans h.phase,
    h'.pending.trans h.pending, h'.successes.trans h.successes⟩

theorem Logged.restarts (hlogged : Logged machine machine') (h : Restarts machine) :
    Restarts machine' :=
  h.mono hlogged.scheduled hlogged.history hlogged.phase (by rw [hlogged.pending]; exact id)

theorem logged_logErrorPassive (call : Call) (machine : Machine) (newEventCount : UInt32) :
    Logged machine (logErrorPassive call machine newEventCount) := by
  unfold logErrorPassive
  split
  · have hgrown := (grown_interrupted call .errorPassivePsr machine).trans
      (grown_interrupted call .errorPassiveEcr _)
    obtain ⟨hscheduled, hhistory, hphase, hpending, hsuccesses⟩ := hgrown.logged
    exact ⟨hscheduled, hhistory, hphase, hpending, hsuccesses⟩
  · exact ⟨rfl, List.prefix_refl _, rfl, rfl, rfl⟩

theorem logged_takeErrorPassive (call : Call) (machine : Machine) :
    Logged machine (takeErrorPassive call machine) := by
  have htest := grown_interrupted call .errorPassiveTest machine
  unfold takeErrorPassive
  dsimp only
  split
  · have hsnapshot := htest.trans (grown_interrupted call .errorPassiveSnapshot _)
    refine hsnapshot.logged.trans ?_
    obtain ⟨h1, h2, h3, h4, h5⟩ := logged_logErrorPassive call
      (interrupted call .errorPassiveSnapshot (interrupted call .errorPassiveTest machine)) _
    exact ⟨h1, h2, h3, h4, h5⟩
  · exact htest.logged

theorem logged_logBusOff (call : Call) (machine : Machine) (newEventCount : UInt32) :
    Logged machine (logBusOff call machine newEventCount) := by
  unfold logBusOff
  split
  · have hgrown := (grown_interrupted call .busOffPsr machine).trans
      (grown_interrupted call .busOffEcr _)
    obtain ⟨hscheduled, hhistory, hphase, hpending, hsuccesses⟩ := hgrown.logged
    exact ⟨hscheduled, hhistory, hphase, hpending, hsuccesses⟩
  · exact ⟨rfl, List.prefix_refl _, rfl, rfl, rfl⟩

/-- What the main loop does with new bus-off events. -/
structure Scheduled (machine machine' : Machine) : Prop where
  scheduled : machine'.ledger.scheduled = busOffs machine.ledger.history
  history : machine.ledger.history <+: machine'.ledger.history
  phase : machine'.main.recoveryPhase = machine.main.recoveryPhase
  pending : machine'.main.recoveryVerificationPending = false
  successes : machine'.main.recoveryStats.recoverySuccesses =
    machine.main.recoveryStats.recoverySuccesses

theorem invalidateVerification_eq (main : Main) :
    (invalidateVerification main).recoveryPhase = main.recoveryPhase ∧
      (invalidateVerification main).recoveryVerificationPending = false ∧
      (invalidateVerification main).recoveryStats.recoverySuccesses =
        main.recoveryStats.recoverySuccesses := by
  unfold invalidateVerification
  split
  · exact ⟨rfl, rfl, rfl⟩
  · next hpending => exact ⟨rfl, Bool.eq_false_of_not_eq_true hpending, rfl⟩

theorem scheduled_scheduleBusOff (call : Call) (machine : Machine) :
    Scheduled machine (scheduleBusOff call machine) := by
  unfold scheduleBusOff
  dsimp only
  split
  · obtain ⟨hphase, hpending, hsuccesses⟩ := invalidateVerification_eq
      { (logBusOff call machine (machine.isr.busOffEventCount -
        machine.main.loggedBusOffEventCount)).main with
        loggedBusOffEventCount := machine.isr.busOffEventCount }
    have hlogged := logged_logBusOff call machine
      (machine.isr.busOffEventCount - machine.main.loggedBusOffEventCount)
    exact ⟨rfl, hlogged.history, hphase.trans hlogged.phase, hpending,
      hsuccesses.trans hlogged.successes⟩
  · obtain ⟨hphase, hpending, hsuccesses⟩ := invalidateVerification_eq machine.main
    exact ⟨rfl, List.prefix_refl _, hphase, hpending, hsuccesses⟩

/-- The machine when a call looks for new bus-off events. -/
def atTest (call : Call) (machine : Machine) : Machine :=
  interrupted call .busOffTest (takeErrorPassive call (machine.enter call))

/-- The machine when it takes their number over. -/
def atSnapshot (call : Call) (machine : Machine) : Machine :=
  interrupted call .busOffSnapshot (atTest call machine)

/-- Whether a call schedules new bus-off events. -/
def Observes (machine : Machine) (call : Call) : Prop :=
  (atTest call machine).isr.busOffEventCount ≠
    (atTest call machine).main.scheduledBusOffEventCount

instance (machine : Machine) (call : Call) : Decidable (Observes machine call) :=
  inferInstanceAs (Decidable (_ ≠ _))

/-- If an event schedules new bus-off events while an attempt is
half-way, what the attempt has done was done behind them. -/
def Fresh (machine : Machine) : Event → Prop
  | .interrupt _ => True
  | .call call => Observes machine call →
      Done (busOffs (atSnapshot call machine).ledger.history)
        (atSnapshot call machine).ledger.history machine.main.recoveryPhase

instance (machine : Machine) : (event : Event) → Decidable (Fresh machine event)
  | .interrupt _ => inferInstanceAs (Decidable True)
  | .call _ => inferInstanceAs (Decidable (_ → _))

theorem logged_atTest (call : Call) (machine : Machine) : Logged machine (atTest call machine) :=
  (show Logged machine (machine.enter call) from ⟨rfl, List.prefix_refl _, rfl, rfl, rfl⟩).trans
    ((logged_takeErrorPassive call (machine.enter call)).trans
      (grown_interrupted call .busOffTest _).logged)

theorem takeBusOff_eq (call : Call) (machine : Machine) :
    takeBusOff call (takeErrorPassive call (machine.enter call)) =
      if Observes machine call then scheduleBusOff call (atSnapshot call machine)
      else atTest call machine := rfl

theorem successes_takeBusOff (call : Call) (machine : Machine) :
    (takeBusOff call (takeErrorPassive call (machine.enter call))).main.recoveryStats.recoverySuccesses =
      machine.main.recoveryStats.recoverySuccesses := by
  have htest := logged_atTest call machine
  have hsnapshot : Logged machine (atSnapshot call machine) :=
    htest.trans (grown_interrupted call .busOffSnapshot _).logged
  rw [takeBusOff_eq]
  split
  · exact (scheduled_scheduleBusOff call (atSnapshot call machine)).successes.trans
      hsnapshot.successes
  · exact htest.successes

/-- The first two parts of a call keep the promises, as long as they are
fresh. -/
theorem restarts_takeBusOff (h : Restarts machine) (hfresh : Fresh machine (.call call)) :
    Restarts (takeBusOff call (takeErrorPassive call (machine.enter call))) := by
  have htest := logged_atTest call machine
  have hsnapshot : Logged machine (atSnapshot call machine) :=
    htest.trans (grown_interrupted call .busOffSnapshot _).logged
  rw [takeBusOff_eq]
  split
  · next hobserves =>
    obtain ⟨hscheduled, hhistory, hphase, hpending, -⟩ :=
      scheduled_scheduleBusOff call (atSnapshot call machine)
    have hdone := hfresh hobserves
    rw [← hsnapshot.phase, ← hphase] at hdone
    refine ⟨?_, ?_, fun hverifying => ?_⟩
    · rw [hscheduled]
      exact busOffs_le hhistory
    · rw [hscheduled]
      exact hdone.mono (Nat.le_refl _) hhistory
    · rw [hpending] at hverifying
      cases hverifying
  · exact htest.restarts h

/-- While a verification is pending, a call keeps the promises, and a
success is one behind a restart. -/
theorem restarts_verifyRecovery (h : Restarts machine)
    (hpending : machine.main.recoveryVerificationPending = true) :
    Restarts (verifyRecovery call machine) ∧
      Restarted (verifyRecovery call machine).ledger.scheduled
        (verifyRecovery call machine).ledger.history := by
  have hrestarted : ∀ {machine' : Machine}, Restarts machine →
      machine'.ledger.scheduled = machine.ledger.scheduled →
      machine.ledger.history <+: machine'.ledger.history →
      Restarted machine'.ledger.scheduled machine'.ledger.history := by
    intro machine' h hscheduled hhistory
    rw [hscheduled]
    exact (h.pending hpending).mono h.scheduled_le hhistory
  have htransmit := grown_interrupted call .transmitTest machine
  unfold verifyRecovery
  dsimp only
  split
  · have hverification := htransmit.trans (grown_interrupted call .verificationTest _)
    split
    · have hrecovered := hverification.trans (grown_interrupted call .recovered _)
      have hphase := congrArg Main.recoveryPhase hrecovered.main
      refine ⟨h.mono hrecovered.scheduled hrecovered.history hphase nofun, ?_⟩
      exact hrestarted h hrecovered.scheduled hrecovered.history
    · exact ⟨hverification.restarts h,
        hrestarted h hverification.scheduled hverification.history⟩
  · exact ⟨htransmit.restarts h, hrestarted h htransmit.scheduled htransmit.history⟩

theorem recordFailure_eq (main : Main) (step : Step) (status : HalStatus) :
    (recordFailure main step status).recoveryPhase = main.recoveryPhase ∧
      (recordFailure main step status).recoveryVerificationPending =
        main.recoveryVerificationPending ∧
      (recordFailure main step status).recoveryStats.recoverySuccesses =
        main.recoveryStats.recoverySuccesses := by
  unfold recordFailure
  dsimp only
  split <;> exact ⟨rfl, rfl, rfl⟩

/-- A failed step keeps the promises. -/
theorem Grown.failed {step : Step} {status : HalStatus} (hgrown : Grown machine machine')
    (h : Restarts machine) :
    Restarts { machine' with main := recordFailure machine'.main step status } := by
  obtain ⟨hphase, hpending, -⟩ := recordFailure_eq machine'.main step status
  exact h.mono hgrown.scheduled hgrown.history (hphase.trans (by rw [hgrown.main]))
    fun hverifying => by
      have hwas := hpending.symm.trans hverifying
      rwa [hgrown.main] at hwas

theorem restarts_activate (h : Restarts machine)
    (hrestarted : Restarted machine.ledger.scheduled machine.ledger.history) :
    Restarts (activate call machine) := by
  have hnotified := grown_notified call machine
  unfold activate
  dsimp only
  split
  · exact hnotified.failed h
  · have hsnapshot := hnotified.trans (grown_interrupted call .transmitSnapshot _)
    have hnow := hrestarted.mono h.scheduled_le hsnapshot.history
    rw [← hsnapshot.scheduled] at hnow
    refine ⟨?_, trivial, fun _ => hnow⟩
    exact Nat.le_trans (Nat.le_of_eq hsnapshot.scheduled)
      (Nat.le_trans h.scheduled_le (busOffs_le hsnapshot.history))

theorem restarts_startPeripheral (h : Restarts machine)
    (hphase : machine.main.recoveryPhase ≠ .stop)
    (hpending : machine.main.recoveryVerificationPending = false) :
    Restarts (startPeripheral call machine) := by
  have hdone := h.done
  unfold startPeripheral
  split
  · next hstart =>
    have hstarted := grown_started call machine
    dsimp only
    split
    · exact hstarted.failed h
    next hok =>
    rw [hstart] at hdone
    have hbefore := (grown_interrupted call .start machine)
    have hle : machine.ledger.scheduled ≤
        busOffs (interrupted call .start machine).ledger.history :=
      Nat.le_trans h.scheduled_le (busOffs_le hbefore.history)
    have hrestarted : Restarted machine.ledger.scheduled
        ((interrupted call .start machine).happen (.started call.start)).ledger.history := by
      refine ⟨Stopped.mono h.scheduled_le hstarted.history hdone, ?_⟩
      rw [not_not.1 hok]
      exact mem_behind_concat hle _
    rw [← hstarted.scheduled] at hrestarted
    refine restarts_activate ⟨?_, hrestarted, fun hverifying => ?_⟩ hrestarted
    · exact Nat.le_trans (Nat.le_of_eq hstarted.scheduled)
        (Nat.le_trans h.scheduled_le (busOffs_le hstarted.history))
    · change ((interrupted call .start machine).happen _).main.recoveryVerificationPending = true
        at hverifying
      rw [hstarted.main, hpending] at hverifying
      cases hverifying
  · next hnot =>
    have hnotification : machine.main.recoveryPhase = .notification := by
      cases hcase : machine.main.recoveryPhase with
      | stop => exact absurd hcase hphase
      | start => exact absurd hcase hnot
      | notification => rfl
    rw [hnotification] at hdone
    exact restarts_activate h hdone

theorem restarts_stopPeripheral (h : Restarts machine)
    (hpending : machine.main.recoveryVerificationPending = false) :
    Restarts (stopPeripheral call machine) := by
  unfold stopPeripheral
  split
  · have hstopped := grown_stopped call machine
    dsimp only
    split
    · exact hstopped.failed h
    next hok =>
    have hbefore := (grown_interrupted call .stop machine)
    have hle : machine.ledger.scheduled ≤
        busOffs (interrupted call .stop machine).ledger.history :=
      Nat.le_trans h.scheduled_le (busOffs_le hbefore.history)
    have hdone : Stopped machine.ledger.scheduled
        ((interrupted call .stop machine).happen (.stopped call.stop)).ledger.history := by
      rw [not_not.1 hok]
      exact mem_behind_concat hle _
    rw [← hstopped.scheduled] at hdone
    have hidle : ((interrupted call .stop machine).happen
        (.stopped call.stop)).main.recoveryVerificationPending = false := by
      rw [hstopped.main, hpending]
    refine restarts_startPeripheral ⟨?_, hdone, fun hverifying => ?_⟩ nofun hidle
    · exact Nat.le_trans (Nat.le_of_eq hstopped.scheduled)
        (Nat.le_trans h.scheduled_le (busOffs_le hstopped.history))
    · exact absurd (hidle.symm.trans hverifying) nofun
  · next hphase => exact restarts_startPeripheral h hphase hpending

theorem restarts_attemptRecovery (h : Restarts machine)
    (hpending : machine.main.recoveryVerificationPending = false) :
    Restarts (attemptRecovery call machine) := by
  unfold attemptRecovery
  split
  · exact h
  split
  · exact h
  · exact restarts_stopPeripheral ⟨h.scheduled_le, h.done, h.pending⟩ hpending

/-- An attempt is no success. -/
theorem successes_activate (call : Call) (machine : Machine) :
    (activate call machine).main.recoveryStats.recoverySuccesses =
      machine.main.recoveryStats.recoverySuccesses := by
  have hnotified := grown_notified call machine
  unfold activate
  dsimp only
  split
  · exact (recordFailure_eq _ _ _).2.2.trans hnotified.logged.successes
  · exact (hnotified.trans (grown_interrupted call .transmitSnapshot _)).logged.successes

theorem successes_startPeripheral (call : Call) (machine : Machine) :
    (startPeripheral call machine).main.recoveryStats.recoverySuccesses =
      machine.main.recoveryStats.recoverySuccesses := by
  have hstarted := grown_started call machine
  unfold startPeripheral
  dsimp only
  split
  · split
    · exact (recordFailure_eq _ _ _).2.2.trans hstarted.logged.successes
    · exact (successes_activate call _).trans hstarted.logged.successes
  · exact successes_activate call machine

theorem successes_attemptRecovery (call : Call) (machine : Machine) :
    (attemptRecovery call machine).main.recoveryStats.recoverySuccesses =
      machine.main.recoveryStats.recoverySuccesses := by
  unfold attemptRecovery
  split
  · rfl
  split
  · rfl
  unfold stopPeripheral
  dsimp only
  split
  · next hphase =>
    split
    · exact (recordFailure_eq _ _ _).2.2.trans
        (grown_stopped call _).logged.successes
    · exact (successes_startPeripheral call _).trans
        (grown_stopped call _).logged.successes
  · exact successes_startPeripheral call _

theorem successes_interrupt (machine : Machine) (event : Interrupt) :
    (interrupt machine event).main.recoveryStats.recoverySuccesses =
      machine.main.recoveryStats.recoverySuccesses := (grown_interrupt machine event).logged.successes

/-- A fresh event keeps the promises, and brings a success only behind a
restart. -/
theorem restarts_recoverStep (machine : Machine) (event : Event) (hfresh : Fresh machine event)
    (h : Restarts machine) :
    Restarts (recoverStep machine event) ∧
      ((recoverStep machine event).main.recoveryStats.recoverySuccesses ≠
          machine.main.recoveryStats.recoverySuccesses →
        Restarted (recoverStep machine event).ledger.scheduled
          (recoverStep machine event).ledger.history) := by
  cases event with
  | interrupt event =>
    exact ⟨(grown_interrupt machine event).restarts h,
      fun hsuccess => absurd (successes_interrupt machine event) hsuccess⟩
  | call call =>
    have htaken := restarts_takeBusOff h hfresh
    have hsame := successes_takeBusOff call machine
    dsimp only [recoverStep, handleBusOffRecovery]
    generalize takeBusOff call (takeErrorPassive call (machine.enter call)) = taken at htaken hsame
    split
    · next hpending =>
      obtain ⟨hkept, hrestarted⟩ := @restarts_verifyRecovery _ call htaken hpending
      exact ⟨hkept, fun _ => hrestarted⟩
    · next hpending =>
      refine ⟨restarts_attemptRecovery htaken (Bool.eq_false_of_not_eq_true hpending),
        fun hsuccess => absurd ?_ hsuccess⟩
      exact (successes_attemptRecovery call taken).trans hsame

/-- **Verified means restarted.** In a run of fresh events, whenever a
verification is pending and whenever a recovery succeeds, the peripheral
was stopped and started behind the last bus-off event that the main loop
has scheduled. -/
theorem verification_restarted (events : List Event)
    (hfresh : Along recoverStep Fresh recoveryInit events) :
    let reached := run recoverStep recoveryInit events
    (reached.main.recoveryVerificationPending = true →
      Restarted reached.ledger.scheduled reached.ledger.history) ∧
    ∀ event, Fresh reached event →
      (recoverStep reached event).main.recoveryStats.recoverySuccesses ≠
        reached.main.recoveryStats.recoverySuccesses →
      Restarted (recoverStep reached event).ledger.scheduled
        (recoverStep reached event).ledger.history := by
  intro reached
  have hstart : Restarts recoveryInit := ⟨Nat.le_refl 0, trivial, nofun⟩
  have hreached : Restarts reached := run_invariant_along
    (fun machine event hfresh h => (restarts_recoverStep machine event hfresh h).1) events
    recoveryInit hfresh hstart
  exact ⟨hreached.pending, fun event hfresh => (restarts_recoverStep reached event hfresh hreached).2⟩

def busOff : Interrupt := .errorStatus .fdcan1 itBusOff 0 0

/-- A bus-off event that comes while an attempt has only its last phase to
repeat. -/
def busOffAfterStart : List Event :=
  [.interrupt busOff, .call { now := 0 }, .call { now := 200, notification := .timeout },
    .interrupt busOff, .call { now := 201 }, .call { now := 401 }]

/-- The second bus-off event is verified without a restart. -/
theorem busOffAfterStart_notRestarted :
    let reached := run recoverStep recoveryInit busOffAfterStart
    let confirmed := run recoverStep reached
      [.interrupt (.txBufferComplete .fdcan1 1), .call { now := 402 }]
    (reached.ledger.scheduled = 2 ∧ reached.main.recoveryVerificationPending = true ∧
        ¬Restarted reached.ledger.scheduled reached.ledger.history) ∧
      reached.main.recoveryStats.recoverySuccesses = 0 ∧
      confirmed.main.recoveryStats.recoverySuccesses = 1 ∧
      ¬Restarted confirmed.ledger.scheduled confirmed.ledger.history := by
  decide

/-- The same, but the second bus-off event comes with the attempt over. -/
theorem verification_restarted_twoEpisodes :
    let reached := run recoverStep recoveryInit
      [.interrupt busOff, .call { now := 0 }, .call { now := 200, start := .error },
        .call { now := 400 }, .interrupt busOff, .call { now := 401 }, .call { now := 601 }]
    reached.main.recoveryVerificationPending = true ∧
      Restarted reached.ledger.scheduled reached.ledger.history := by
  intro reached
  have hpending : reached.main.recoveryVerificationPending = true := by decide
  exact ⟨hpending, (verification_restarted
    [.interrupt busOff, .call { now := 0 }, .call { now := 200, start := .error },
      .call { now := 400 }, .interrupt busOff, .call { now := 401 }, .call { now := 601 }]
    (by decide)).1 hpending⟩

end BusOff

end CanGui
