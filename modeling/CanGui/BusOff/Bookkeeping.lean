import CanGui.BusOff.Restart
/-!
# Bus-off recovery — the books

The main loop's counters against what happened: what it took into account
is recorded or suppressed, what it has not is taken at the next call, and
a success verifies the bus-off events counted when it is decided. The
counters wrap, so two counts compare right while fewer than 2^32 events
lie between them.
-/

namespace CanGui

namespace BusOff

/-! ## Counters that wrap -/

theorem ofNat_eq_iff {a b : Nat} (hle : a ≤ b) (hlt : b < a + 2 ^ 32) :
    UInt32.ofNat a = UInt32.ofNat b ↔ a = b := by
  refine ⟨fun h => ?_, fun h => by rw [h]⟩
  have hmod := congrArg UInt32.toNat h
  rw [UInt32.toNat_ofNat', UInt32.toNat_ofNat'] at hmod
  omega

/-- One event recorded and the others suppressed. -/
theorem recorded_add {records suppressed count : UInt32} (h : count ≠ 0) :
    (records + 1) + (if count > 1 then suppressed + (count - 1) else suppressed) =
      records + suppressed + count := by
  split
  · grind
  · next hone =>
    have hcount : count = 1 := by
      apply UInt32.toNat_inj.1
      have hle := UInt32.not_lt.1 hone
      have hnat := UInt32.le_iff_toNat_le.1 hle
      have hpos : count.toNat ≠ 0 := fun hzero => h (UInt32.toNat_inj.1 hzero)
      rw [UInt32.toNat_one] at hnat ⊢
      omega
    rw [hcount]
    grind

/-! ## The books -/

structure Books (machine : Machine) : Prop where
  counted : Counted machine
  scheduled_eq :
    machine.main.scheduledBusOffEventCount = UInt32.ofNat machine.ledger.scheduled
  scheduled_le : machine.ledger.scheduled ≤ busOffs machine.ledger.history
  loggedBusOff :
    machine.main.loggedBusOffEventCount = machine.main.scheduledBusOffEventCount
  busOffRecords : machine.main.busOffLogRecordCount + machine.main.busOffLogSuppressedCount =
    machine.main.loggedBusOffEventCount
  logged_eq : machine.main.loggedErrorPassiveEventCount = UInt32.ofNat machine.ledger.logged
  logged_le : machine.ledger.logged ≤ errorPassives machine.ledger.history
  errorPassiveRecords : machine.main.errorPassiveLogRecordCount +
    machine.main.errorPassiveLogSuppressedCount = machine.main.loggedErrorPassiveEventCount
  verifying_eq :
    machine.main.verificationBusOffEventCount = UInt32.ofNat machine.ledger.verifying
  verifying_le : machine.ledger.verifying ≤ machine.ledger.scheduled
  verifying : machine.main.recoveryVerificationPending = true →
    machine.ledger.verifying = machine.ledger.scheduled
  handled_eq : machine.main.handledBusOffEventCount = UInt32.ofNat machine.ledger.verified
  verified_le : machine.ledger.verified ≤ machine.ledger.scheduled
  transmitted_eq :
    machine.main.verificationTxCompleteSnapshot = UInt32.ofNat machine.ledger.transmitted
  transmitted_le : machine.ledger.transmitted ≤ txCompletes machine.ledger.history

variable {machine machine' : Machine} {call : Call}

theorem count_le {history history' : List Happening} (h : history <+: history')
    (happening : Happening) : history.count happening ≤ history'.count happening :=
  h.sublist.count_le happening

theorem Passed.eq (h : Passed machine machine') :
    machine' = { machine' with ledger := { machine.ledger with history := machine'.ledger.history } } := by
  obtain ⟨isr, main, ledger⟩ := machine'
  have hledger := h.ledger
  dsimp only at hledger ⊢
  rw [← hledger]

theorem Grown.eq (h : Grown machine machine') :
    machine' = { isr := machine'.isr, main := machine.main,
                 ledger := { machine.ledger with history := machine'.ledger.history } } := by
  have heq := h.toPassed.eq
  rw [h.main] at heq
  exact heq

theorem Grown.books (hgrown : Grown machine machine') (h : Books machine) : Books machine' := by
  have hcounted := hgrown.counted h.counted
  have hhistory := hgrown.history
  rw [hgrown.eq] at hcounted ⊢
  exact ⟨hcounted, h.scheduled_eq, Nat.le_trans h.scheduled_le (count_le hhistory _),
    h.loggedBusOff, h.busOffRecords, h.logged_eq, Nat.le_trans h.logged_le (count_le hhistory _),
    h.errorPassiveRecords, h.verifying_eq, h.verifying_le, h.verifying, h.handled_eq,
    h.verified_le, h.transmitted_eq, Nat.le_trans h.transmitted_le (count_le hhistory _)⟩

/-! ## New events -/

theorem history_takeErrorPassive (call : Call) (machine : Machine) :
    machine.ledger.history <+: (takeErrorPassive call machine).ledger.history := by
  have htest := (grown_interrupted call .errorPassiveTest machine).history
  unfold takeErrorPassive
  dsimp only
  split
  · have hsnapshot := htest.trans (grown_interrupted call .errorPassiveSnapshot _).history
    unfold logErrorPassive
    dsimp only
    split
    · exact hsnapshot.trans ((grown_interrupted call .errorPassivePsr _).trans
        (grown_interrupted call .errorPassiveEcr _)).history
    · exact hsnapshot
  · exact htest

/-- What is new when a counter differs. -/
theorem new_ne_zero {counter seen : UInt32} {count known : Nat} (hcounter : counter = UInt32.ofNat count)
    (hseen : seen = UInt32.ofNat known) (hless : known < count) (hwindow : count < known + 2 ^ 32) :
    counter - seen ≠ 0 := by
  intro hzero
  have hsame : counter = seen := by
    rw [← UInt32.sub_add_cancel counter seen, hzero, UInt32.zero_add]
  rw [hcounter, hseen, eq_comm, ofNat_eq_iff (Nat.le_of_lt hless) hwindow] at hsame
  omega

theorem seen_add_new (counter seen : UInt32) : seen + (counter - seen) = counter := by
  rw [UInt32.add_comm, UInt32.sub_add_cancel]

/-- A counter that differs is ahead. -/
theorem lt_of_counter_ne {counter seen : UInt32} {count known : Nat}
    (hcounter : counter = UInt32.ofNat count) (hseen : seen = UInt32.ofNat known)
    (hle : known ≤ count) (hne : counter ≠ seen) : known < count := by
  refine Nat.lt_of_le_of_ne hle fun hsame => hne ?_
  rw [hcounter, hseen, hsame]

theorem le_of_counter_eq {counter seen : UInt32} {count known : Nat}
    (hcounter : counter = UInt32.ofNat count) (hseen : seen = UInt32.ofNat known)
    (hle : known ≤ count) (hwindow : count < known + 2 ^ 32) (heq : counter = seen) :
    count = known := by
  rw [hcounter, hseen, eq_comm] at heq
  exact ((ofNat_eq_iff hle hwindow).1 heq).symm

/-- The first part of a call takes every error-passive event of before
the call, and keeps the books. -/
theorem books_takeErrorPassive (h : Books machine)
    (hwindow : errorPassives (takeErrorPassive call machine).ledger.history <
      machine.ledger.logged + 2 ^ 32) :
    Books (takeErrorPassive call machine) ∧
      errorPassives machine.ledger.history ≤ (takeErrorPassive call machine).ledger.logged := by
  have htest := grown_interrupted call .errorPassiveTest machine
  have hbooks := htest.books h
  have hbefore : errorPassives machine.ledger.history ≤
      errorPassives (interrupted call .errorPassiveTest machine).ledger.history :=
    count_le htest.history _
  have hlogged : (interrupted call .errorPassiveTest machine).ledger.logged =
      machine.ledger.logged := by rw [htest.eq]
  rw [← hlogged] at hwindow
  unfold takeErrorPassive at hwindow ⊢
  dsimp only at hwindow ⊢
  -- from here on only what the interrupts may have done up to the test matters
  generalize interrupted call .errorPassiveTest machine = test at *
  split
  · next hnew =>
    rw [if_pos hnew] at hwindow
    have hsnapshot := grown_interrupted call .errorPassiveSnapshot test
    have hbooks' := hsnapshot.books hbooks
    have hless := lt_of_counter_ne hbooks.counted.errorPassive hbooks.logged_eq hbooks.logged_le hnew
    have hle : errorPassives test.ledger.history ≤
        errorPassives (interrupted call .errorPassiveSnapshot test).ledger.history :=
      count_le hsnapshot.history _
    have hlogged' : (interrupted call .errorPassiveSnapshot test).ledger.logged =
        test.ledger.logged := by rw [hsnapshot.eq]
    generalize interrupted call .errorPassiveSnapshot test = snapshot at *
    -- the window: fewer than 2^32 events since the last entry, so no count has come round
    have hcount : errorPassives snapshot.ledger.history < snapshot.ledger.logged + 2 ^ 32 := by
      refine Nat.lt_of_le_of_lt (count_le ?_ _) (hlogged' ▸ hwindow)
      unfold logErrorPassive
      split
      · exact ((grown_interrupted call .errorPassivePsr snapshot).trans
          (grown_interrupted call .errorPassiveEcr _)).history
      · exact List.prefix_refl _
    have hnonzero := new_ne_zero hbooks'.counted.errorPassive hbooks'.logged_eq
      (by omega) hcount
    refine ⟨?_, by dsimp only; omega⟩
    unfold logErrorPassive
    split
    · have hgrown := (grown_interrupted call .errorPassivePsr snapshot).trans
        (grown_interrupted call .errorPassiveEcr _)
      -- with a record the registers are read first, which interrupts may interrupt again
      have hlast := hgrown.books hbooks'
      have hmain := hgrown.main
      have hhistory := hgrown.history
      dsimp only
      generalize interrupted call .errorPassiveEcr (interrupted call .errorPassivePsr snapshot) =
        last at *
      refine ⟨⟨hlast.counted.busOff, hlast.counted.errorPassive, hlast.counted.txComplete⟩,
        hlast.scheduled_eq, hlast.scheduled_le, hlast.loggedBusOff, hlast.busOffRecords,
        hbooks'.counted.errorPassive, count_le hhistory _, ?_, hlast.verifying_eq,
        hlast.verifying_le, hlast.verifying, hlast.handled_eq, hlast.verified_le,
        hlast.transmitted_eq, hlast.transmitted_le⟩
      refine (recorded_add hnonzero).trans ?_
      change last.main.errorPassiveLogRecordCount + last.main.errorPassiveLogSuppressedCount + _ = _
      rw [hlast.errorPassiveRecords, hmain, seen_add_new]
    · refine ⟨⟨hbooks'.counted.busOff, hbooks'.counted.errorPassive, hbooks'.counted.txComplete⟩,
        hbooks'.scheduled_eq, hbooks'.scheduled_le, hbooks'.loggedBusOff, hbooks'.busOffRecords,
        hbooks'.counted.errorPassive, Nat.le_refl _, ?_, hbooks'.verifying_eq,
        hbooks'.verifying_le, hbooks'.verifying, hbooks'.handled_eq, hbooks'.verified_le,
        hbooks'.transmitted_eq, hbooks'.transmitted_le⟩
      dsimp only
      rw [← UInt32.add_assoc, hbooks'.errorPassiveRecords, seen_add_new]
  -- equal counters are equal counts inside the window, so nothing is left to take
  · next hsame =>
    refine ⟨hbooks, ?_⟩
    rw [if_neg hsame] at hwindow
    have hall := le_of_counter_eq hbooks.counted.errorPassive hbooks.logged_eq hbooks.logged_le
      hwindow (not_not.1 hsame)
    omega

theorem history_logBusOff (call : Call) (machine : Machine) (newEventCount : UInt32) :
    machine.ledger.history <+: (logBusOff call machine newEventCount).ledger.history := by
  unfold logBusOff
  split
  · exact ((grown_interrupted call .busOffPsr machine).trans
      (grown_interrupted call .busOffEcr _)).history
  · exact List.prefix_refl _

theorem history_takeBusOff (call : Call) (machine : Machine) :
    machine.ledger.history <+: (takeBusOff call machine).ledger.history := by
  have htest := (grown_interrupted call .busOffTest machine).history
  unfold takeBusOff
  dsimp only
  split
  · refine (htest.trans (grown_interrupted call .busOffSnapshot _).history).trans ?_
    unfold scheduleBusOff
    dsimp only
    split
    · exact history_logBusOff call _ _
    · exact List.prefix_refl _
  · exact htest

/-- New bus-off events end a verification, and change nothing else that
the books are about. -/
theorem invalidateVerification_spec (main : Main) :
    ∃ stats, invalidateVerification main =
      { main with recoveryVerificationPending := false, recoveryStats := stats } := by
  unfold invalidateVerification
  split
  · exact ⟨_, rfl⟩
  · next hpending =>
    refine ⟨main.recoveryStats, ?_⟩
    rw [← Bool.eq_false_of_not_eq_true hpending]

/-- The second part of a call takes every bus-off event of before the
call, and keeps the books. -/
theorem books_takeBusOff (h : Books machine)
    (hwindow : busOffs (takeBusOff call machine).ledger.history <
      machine.ledger.scheduled + 2 ^ 32) :
    Books (takeBusOff call machine) ∧
      busOffs machine.ledger.history ≤ (takeBusOff call machine).ledger.scheduled := by
  have htest := grown_interrupted call .busOffTest machine
  have hbooks := htest.books h
  have hbefore : busOffs machine.ledger.history ≤
      busOffs (interrupted call .busOffTest machine).ledger.history := count_le htest.history _
  have hscheduled : (interrupted call .busOffTest machine).ledger.scheduled =
      machine.ledger.scheduled := by rw [htest.eq]
  rw [← hscheduled] at hwindow
  unfold takeBusOff at hwindow ⊢
  dsimp only at hwindow ⊢
  generalize interrupted call .busOffTest machine = test at *
  split
  · next hnew =>
    rw [if_pos hnew] at hwindow
    have hsnapshot := grown_interrupted call .busOffSnapshot test
    have hbooks' := hsnapshot.books hbooks
    have hless := lt_of_counter_ne hbooks.counted.busOff hbooks.scheduled_eq hbooks.scheduled_le hnew
    have hle : busOffs test.ledger.history ≤
        busOffs (interrupted call .busOffSnapshot test).ledger.history :=
      count_le hsnapshot.history _
    have hscheduled' : (interrupted call .busOffSnapshot test).ledger.scheduled =
        test.ledger.scheduled := by rw [hsnapshot.eq]
    generalize interrupted call .busOffSnapshot test = snapshot at *
    have hcount : busOffs snapshot.ledger.history < snapshot.ledger.scheduled + 2 ^ 32 := by
      refine Nat.lt_of_le_of_lt (count_le ?_ _) (hscheduled' ▸ hwindow)
      unfold scheduleBusOff
      dsimp only
      split
      · exact history_logBusOff call _ _
      · exact List.prefix_refl _
    have hseen := hbooks'.loggedBusOff.trans hbooks'.scheduled_eq
    have hnonzero := new_ne_zero hbooks'.counted.busOff hseen (by omega) hcount
    -- the snapshot is not behind the test, so it too differs from what is logged
    have hdiffers : snapshot.main.loggedBusOffEventCount ≠ snapshot.isr.busOffEventCount := by
      intro hsame
      rw [hsame, UInt32.sub_self] at hnonzero
      exact hnonzero rfl
    refine ⟨?_, by rw [scheduleBusOff]; dsimp only; omega⟩
    unfold scheduleBusOff
    dsimp only
    rw [if_pos hdiffers]
    obtain ⟨stats, hinvalid⟩ := invalidateVerification_spec
      { (logBusOff call snapshot (snapshot.isr.busOffEventCount -
        snapshot.main.loggedBusOffEventCount)).main with
        loggedBusOffEventCount := snapshot.isr.busOffEventCount }
    rw [hinvalid]
    unfold logBusOff
    split
    · have hgrown := (grown_interrupted call .busOffPsr snapshot).trans
        (grown_interrupted call .busOffEcr _)
      have hlast := hgrown.books hbooks'
      have hmain := hgrown.main
      have hhistory := hgrown.history
      have hkept : (interrupted call .busOffEcr (interrupted call .busOffPsr snapshot)).ledger.scheduled =
        snapshot.ledger.scheduled := by rw [hgrown.eq]
      dsimp only
      generalize interrupted call .busOffEcr (interrupted call .busOffPsr snapshot) = last at *
      have hverifying := hlast.verifying_le
      have hverified := hlast.verified_le
      -- what is verified lags behind what is scheduled, and stays behind the snapshot
      have hahead : last.ledger.scheduled ≤ busOffs snapshot.ledger.history := by omega
      refine ⟨⟨hlast.counted.busOff, hlast.counted.errorPassive, hlast.counted.txComplete⟩,
        hbooks'.counted.busOff, count_le hhistory _, rfl, ?_, hlast.logged_eq, hlast.logged_le,
        hlast.errorPassiveRecords, hlast.verifying_eq, Nat.le_trans hverifying hahead, nofun,
        hlast.handled_eq, Nat.le_trans hverified hahead, hlast.transmitted_eq, hlast.transmitted_le⟩
      refine (recorded_add hnonzero).trans ?_
      change last.main.busOffLogRecordCount + last.main.busOffLogSuppressedCount + _ = _
      rw [hlast.busOffRecords, hmain, seen_add_new]
    · have hverifying := hbooks'.verifying_le
      have hverified := hbooks'.verified_le
      have hahead : snapshot.ledger.scheduled ≤ busOffs snapshot.ledger.history := by omega
      refine ⟨⟨hbooks'.counted.busOff, hbooks'.counted.errorPassive, hbooks'.counted.txComplete⟩,
        hbooks'.counted.busOff, Nat.le_refl _, rfl, ?_, hbooks'.logged_eq, hbooks'.logged_le,
        hbooks'.errorPassiveRecords, hbooks'.verifying_eq, Nat.le_trans hverifying hahead, nofun,
        hbooks'.handled_eq, Nat.le_trans hverified hahead, hbooks'.transmitted_eq,
        hbooks'.transmitted_le⟩
      dsimp only
      rw [← UInt32.add_assoc, hbooks'.busOffRecords, seen_add_new]
  -- equal counters are equal counts inside the window, so nothing is left to take
  · next hsame =>
    refine ⟨hbooks, ?_⟩
    rw [if_neg hsame] at hwindow
    have hall := le_of_counter_eq hbooks.counted.busOff hbooks.scheduled_eq hbooks.scheduled_le
      hwindow (not_not.1 hsame)
    omega

/-! ## Success -/

/-- What was known when a success was decided: a frame went out behind the
snapshot of the verification, and no bus-off event came behind the
verified one. -/
def Decided (machine machine' : Machine) : Prop :=
  ∃ decided, machine.ledger.history <+: decided ∧ decided <+: machine'.ledger.history ∧
    machine'.ledger.transmitted < txCompletes decided ∧ busOffs decided = machine'.ledger.verified

theorem history_verifyRecovery (call : Call) (machine : Machine) :
    machine.ledger.history <+: (verifyRecovery call machine).ledger.history := by
  have htransmit := (grown_interrupted call .transmitTest machine).history
  unfold verifyRecovery
  dsimp only
  split
  · have hverification := htransmit.trans (grown_interrupted call .verificationTest _).history
    split
    · exact hverification.trans (grown_interrupted call .recovered _).history
    · exact hverification
  · exact htransmit

/-- The third part of a call, with a verification pending. -/
theorem books_verifyRecovery (h : Books machine)
    (hpending : machine.main.recoveryVerificationPending = true)
    (hwindow : busOffs (verifyRecovery call machine).ledger.history <
      machine.ledger.scheduled + 2 ^ 32) :
    Books (verifyRecovery call machine) ∧
      ((verifyRecovery call machine).main.recoveryStats.recoverySuccesses ≠
        machine.main.recoveryStats.recoverySuccesses →
          Decided machine (verifyRecovery call machine)) := by
  have hverifying := h.verifying hpending
  have htransmit := grown_interrupted call .transmitTest machine
  have hbooks := htransmit.books h
  unfold verifyRecovery at hwindow ⊢
  dsimp only at hwindow ⊢
  split
  · next htx =>
    rw [if_pos htx] at hwindow
    have hsent := lt_of_counter_ne hbooks.counted.txComplete hbooks.transmitted_eq
      hbooks.transmitted_le htx
    have hverification := grown_interrupted call .verificationTest
      (interrupted call .transmitTest machine)
    -- interrupts may come between the two tests, so they see different histories
    have hall := htransmit.trans hverification
    have hbooks' := hall.books h
    have hsent' : (interrupted call .transmitTest machine).ledger.transmitted <
        txCompletes (interrupted call .verificationTest
          (interrupted call .transmitTest machine)).ledger.history :=
      Nat.lt_of_lt_of_le hsent (count_le hverification.history _)
    have htransmitted : (interrupted call .transmitTest machine).ledger.transmitted =
        (interrupted call .verificationTest
          (interrupted call .transmitTest machine)).ledger.transmitted := by
      rw [hverification.eq]
    rw [htransmitted] at hsent'
    generalize interrupted call .verificationTest (interrupted call .transmitTest machine) = decided
      at *
    split
    · next hbusOff =>
      rw [if_pos hbusOff] at hwindow
      have hrecovered := grown_interrupted call .recovered decided
      have hlast := hrecovered.books hbooks'
      have hledger : (interrupted call .recovered decided).ledger.verifying =
          machine.ledger.verifying ∧ (interrupted call .recovered decided).ledger.transmitted =
            decided.ledger.transmitted ∧ decided.ledger.verifying = machine.ledger.verifying := by
        rw [hrecovered.eq, hall.eq]
        exact ⟨rfl, rfl, rfl⟩
      have hhistory := hrecovered.history
      unfold confirmRecovery at hwindow ⊢
      dsimp only at hwindow ⊢
      generalize interrupted call .recovered decided = last at *
      obtain ⟨hlastVerifying, hlastTransmitted, hdecidedVerifying⟩ := hledger
      refine ⟨⟨⟨hlast.counted.busOff, hlast.counted.errorPassive, hlast.counted.txComplete⟩,
        hlast.scheduled_eq, hlast.scheduled_le, hlast.loggedBusOff, hlast.busOffRecords,
        hlast.logged_eq, hlast.logged_le, hlast.errorPassiveRecords, hlast.verifying_eq,
        hlast.verifying_le, nofun, hlast.verifying_eq, hlast.verifying_le, hlast.transmitted_eq,
        hlast.transmitted_le⟩, fun _ => ⟨decided.ledger.history, hall.history, hhistory, ?_, ?_⟩⟩
      · dsimp only
        rw [hlastTransmitted]
        exact hsent'
      · have hle := Nat.le_trans hbooks'.verifying_le hbooks'.scheduled_le
        have hmono : busOffs decided.ledger.history ≤ busOffs last.ledger.history :=
          count_le hhistory _
        dsimp only
        rw [hlastVerifying, ← hdecidedVerifying]
        exact le_of_counter_eq hbooks'.counted.busOff hbooks'.verifying_eq hle (by omega) hbusOff
    -- a bus-off since the attempt: no success is counted
    · refine ⟨hbooks', fun hsuccess => absurd ?_ hsuccess⟩
      rw [hall.main]
  · refine ⟨hbooks, fun hsuccess => absurd ?_ hsuccess⟩
    rw [htransmit.main]

/-! ## Attempts -/

/-- An attempt that has not come to a verification. -/
structure Halfway (machine machine' : Machine) : Prop extends Passed machine machine' where
  main : ∃ phase stats log, stats.recoverySuccesses = machine.main.recoveryStats.recoverySuccesses ∧
    machine'.main =
      { machine.main with recoveryPhase := phase, recoveryStats := stats, log := log }

theorem Halfway.refl (machine : Machine) : Halfway machine machine :=
  ⟨.refl machine, machine.main.recoveryPhase, machine.main.recoveryStats, machine.main.log, rfl, rfl⟩

variable {machine'' : Machine}

theorem Halfway.trans (h : Halfway machine machine') (h' : Halfway machine' machine'') :
    Halfway machine machine'' := by
  obtain ⟨_, _, _, hsuccesses, hmain⟩ := h.main
  obtain ⟨phase, stats, log, hsuccesses', hmain'⟩ := h'.main
  rw [hmain] at hmain' hsuccesses'
  exact ⟨h.toPassed.trans h'.toPassed, phase, stats, log, hsuccesses'.trans hsuccesses, hmain'⟩

theorem Grown.halfway (h : Grown machine machine') : Halfway machine machine' :=
  ⟨h.toPassed, machine.main.recoveryPhase, machine.main.recoveryStats, machine.main.log, rfl, h.main⟩

theorem halfway_phase (machine : Machine) (phase : Phase) :
    Halfway machine { machine with main := { machine.main with recoveryPhase := phase } } :=
  ⟨⟨rfl, List.prefix_refl _, fun h => ⟨h.busOff, h.errorPassive, h.txComplete⟩⟩, phase,
    machine.main.recoveryStats, machine.main.log, rfl, rfl⟩

theorem halfway_recordFailure (machine : Machine) (step : Step) (status : HalStatus) :
    Halfway machine { machine with main := recordFailure machine.main step status } := by
  refine ⟨⟨rfl, List.prefix_refl _, fun h => ⟨h.busOff, h.errorPassive, h.txComplete⟩⟩,
    machine.main.recoveryPhase,
    { machine.main.recoveryStats with
      recoveryFailures := machine.main.recoveryStats.recoveryFailures + 1
      lastHalStatus := status
      lastFailedStep := step },
    (recordFailure machine.main step status).log, rfl, ?_⟩
  unfold recordFailure
  dsimp only
  split <;> rfl

/-- What an attempt comes to. -/
def Tried (machine machine' : Machine) : Prop :=
  Halfway machine machine' ∨ ∃ last, Halfway machine last ∧ machine' = beginVerification last

theorem Tried.after (h : Halfway machine machine') (htried : Tried machine' machine'') :
    Tried machine machine'' := by
  rcases htried with hhalfway | ⟨last, hlast, heq⟩
  · exact .inl (h.trans hhalfway)
  · exact .inr ⟨last, h.trans hlast, heq⟩

theorem tried_activate (call : Call) (machine : Machine) :
    Tried machine (activate call machine) := by
  have hnotified := grown_notified call machine
  unfold activate
  dsimp only
  split
  · exact .inl (hnotified.halfway.trans (halfway_recordFailure _ _ _))
  · exact .inr ⟨_, (hnotified.trans (grown_interrupted call .transmitSnapshot _)).halfway, rfl⟩

theorem tried_startPeripheral (call : Call) (machine : Machine) :
    Tried machine (startPeripheral call machine) := by
  have hstarted := grown_started call machine
  unfold startPeripheral
  dsimp only
  split
  · split
    · exact .inl (hstarted.halfway.trans (halfway_recordFailure _ _ _))
    · exact (tried_activate call _).after (hstarted.halfway.trans (halfway_phase _ _))
  · exact tried_activate call machine

theorem tried_stopPeripheral (call : Call) (machine : Machine) :
    Tried machine (stopPeripheral call machine) := by
  have hstopped := grown_stopped call machine
  unfold stopPeripheral
  dsimp only
  split
  · split
    · exact .inl (hstopped.halfway.trans (halfway_recordFailure _ _ _))
    · exact (tried_startPeripheral call _).after (hstopped.halfway.trans (halfway_phase _ _))
  · exact tried_startPeripheral call machine

theorem Halfway.books (hhalfway : Halfway machine machine') (h : Books machine) :
    Books machine' := by
  obtain ⟨_, _, _, -, hmain⟩ := hhalfway.main
  have hcounted := hhalfway.counted h.counted
  have hhistory := hhalfway.history
  rw [hhalfway.toPassed.eq] at hcounted ⊢
  rw [hmain] at hcounted ⊢
  exact ⟨hcounted, h.scheduled_eq, Nat.le_trans h.scheduled_le (count_le hhistory _),
    h.loggedBusOff, h.busOffRecords, h.logged_eq, Nat.le_trans h.logged_le (count_le hhistory _),
    h.errorPassiveRecords, h.verifying_eq, h.verifying_le, h.verifying, h.handled_eq,
    h.verified_le, h.transmitted_eq, Nat.le_trans h.transmitted_le (count_le hhistory _)⟩

theorem books_beginVerification (h : Books machine) : Books (beginVerification machine) :=
  ⟨⟨h.counted.busOff, h.counted.errorPassive, h.counted.txComplete⟩, h.scheduled_eq,
    h.scheduled_le, h.loggedBusOff, h.busOffRecords, h.logged_eq, h.logged_le,
    h.errorPassiveRecords, h.scheduled_eq, Nat.le_refl _, fun _ => rfl, h.handled_eq, h.verified_le,
    h.counted.txComplete, Nat.le_refl _⟩

theorem Tried.books (htried : Tried machine machine') (h : Books machine) : Books machine' := by
  rcases htried with hhalfway | ⟨last, hlast, rfl⟩
  · exact hhalfway.books h
  · exact books_beginVerification (hlast.books h)

/-! ## Pace -/

/-- The attempts are apart, and the next one is due behind the last. -/
structure Paced (machine : Machine) : Prop where
  apart : machine.ledger.attempts.Pairwise fun earlier later => earlier + 200 ≤ later
  past : ∀ attempt ∈ machine.ledger.attempts, ∃ last ∈ machine.ledger.called.now, attempt ≤ last
  due : machine.main.recoveryVerificationPending = false →
    machine.main.scheduledBusOffEventCount ≠ machine.main.handledBusOffEventCount →
    ∃ last ∈ machine.ledger.called.now, ∃ deadline,
      machine.main.nextRecoveryAttemptTick = UInt32.ofNat deadline ∧
        (∀ attempt ∈ machine.ledger.attempts, attempt + 200 ≤ deadline) ∧
        last < deadline ∧ deadline ≤ last + 200

/-- The calls are in order, and less than half a round of the tick
apart. -/
def InTime (machine : Machine) (call : Call) : Prop :=
  ∀ last ∈ machine.ledger.called.now, last ≤ call.now ∧ call.now < last + 2 ^ 31

instance (machine : Machine) (call : Call) : Decidable (InTime machine call) :=
  inferInstanceAs (Decidable (∀ last ∈ machine.ledger.called.now, _))

/-- What the pace depends on stays. -/
structure SamePace (machine machine' : Machine) : Prop where
  attempts : machine'.ledger.attempts = machine.ledger.attempts
  called : machine'.ledger.called = machine.ledger.called
  scheduled : machine'.main.scheduledBusOffEventCount = machine.main.scheduledBusOffEventCount
  handled : machine'.main.handledBusOffEventCount = machine.main.handledBusOffEventCount
  pending : machine'.main.recoveryVerificationPending = machine.main.recoveryVerificationPending
  next : machine'.main.nextRecoveryAttemptTick = machine.main.nextRecoveryAttemptTick

theorem SamePace.trans (h : SamePace machine machine') (h' : SamePace machine' machine'') :
    SamePace machine machine'' :=
  ⟨h'.attempts.trans h.attempts, h'.called.trans h.called, h'.scheduled.trans h.scheduled,
    h'.handled.trans h.handled, h'.pending.trans h.pending, h'.next.trans h.next⟩

theorem Grown.samePace (h : Grown machine machine') : SamePace machine machine' := by
  rw [h.eq]
  exact ⟨rfl, rfl, rfl, rfl, rfl, rfl⟩

theorem Halfway.samePace (h : Halfway machine machine') : SamePace machine machine' := by
  obtain ⟨_, _, _, -, hmain⟩ := h.main
  rw [h.toPassed.eq, hmain]
  exact ⟨rfl, rfl, rfl, rfl, rfl, rfl⟩

theorem SamePace.paced (hsame : SamePace machine machine') (h : Paced machine) :
    Paced machine' := by
  obtain ⟨hattempts, hcalled, hscheduled, hhandled, hpending, hnext⟩ := hsame
  obtain ⟨hapart, hpast, hdue⟩ := h
  constructor
  · rw [hattempts]
    exact hapart
  · rw [hattempts, hcalled]
    exact hpast
  · rw [hattempts, hcalled, hscheduled, hhandled, hpending, hnext]
    exact hdue

theorem samePace_takeErrorPassive (call : Call) (machine : Machine) :
    SamePace machine (takeErrorPassive call machine) := by
  have htest := grown_interrupted call .errorPassiveTest machine
  unfold takeErrorPassive
  dsimp only
  split
  · have hsnapshot := htest.trans (grown_interrupted call .errorPassiveSnapshot _)
    unfold logErrorPassive
    split
    · obtain ⟨h1, h2, h3, h4, h5, h6⟩ := (hsnapshot.trans
        ((grown_interrupted call .errorPassivePsr _).trans
          (grown_interrupted call .errorPassiveEcr _))).samePace
      exact ⟨h1, h2, h3, h4, h5, h6⟩
    · obtain ⟨h1, h2, h3, h4, h5, h6⟩ := hsnapshot.samePace
      exact ⟨h1, h2, h3, h4, h5, h6⟩
  · exact htest.samePace

/-- New bus-off events put the next attempt off. -/
theorem pace_takeBusOff (call : Call) (machine : Machine) :
    SamePace machine (takeBusOff call machine) ∨
      (takeBusOff call machine).ledger.attempts = machine.ledger.attempts ∧
        (takeBusOff call machine).ledger.called = machine.ledger.called ∧
        (takeBusOff call machine).main.recoveryVerificationPending = false ∧
        (takeBusOff call machine).main.nextRecoveryAttemptTick = UInt32.ofNat (call.now + 200) := by
  have htest := grown_interrupted call .busOffTest machine
  unfold takeBusOff
  dsimp only
  split
  · refine .inr ?_
    have hsnapshot := htest.trans (grown_interrupted call .busOffSnapshot _)
    have hlogged : ∀ count, (logBusOff call (interrupted call .busOffSnapshot
        (interrupted call .busOffTest machine)) count).ledger.attempts = machine.ledger.attempts ∧
      (logBusOff call (interrupted call .busOffSnapshot
        (interrupted call .busOffTest machine)) count).ledger.called = machine.ledger.called := by
      intro count
      unfold logBusOff
      split
      · have hlast := (hsnapshot.trans ((grown_interrupted call .busOffPsr _).trans
          (grown_interrupted call .busOffEcr _))).samePace
        exact ⟨hlast.attempts, hlast.called⟩
      · exact ⟨hsnapshot.samePace.attempts, hsnapshot.samePace.called⟩
    unfold scheduleBusOff
    dsimp only
    split
    · obtain ⟨stats, hinvalid⟩ := invalidateVerification_spec
        { (logBusOff call (interrupted call .busOffSnapshot (interrupted call .busOffTest machine))
            ((interrupted call .busOffSnapshot
              (interrupted call .busOffTest machine)).isr.busOffEventCount -
              (interrupted call .busOffSnapshot
                (interrupted call .busOffTest machine)).main.loggedBusOffEventCount)).main with
          loggedBusOffEventCount := (interrupted call .busOffSnapshot
            (interrupted call .busOffTest machine)).isr.busOffEventCount }
      exact ⟨(hlogged _).1, (hlogged _).2, by rw [hinvalid], ofNat_add_toNat call.now 200⟩
    · obtain ⟨stats, hinvalid⟩ := invalidateVerification_spec
        (interrupted call .busOffSnapshot (interrupted call .busOffTest machine)).main
      exact ⟨hsnapshot.samePace.attempts, hsnapshot.samePace.called, by rw [hinvalid],
        ofNat_add_toNat call.now 200⟩
  · exact .inl htest.samePace

theorem Tried.paced (htried : Tried machine machine') (h : Paced machine) : Paced machine' := by
  rcases htried with hhalfway | ⟨last, hlast, rfl⟩
  · exact hhalfway.samePace.paced h
  · obtain ⟨hapart, hpast, -⟩ := hlast.samePace.paced h
    exact ⟨hapart, hpast, nofun⟩

/-- The machine when a call has taken the new events. -/
def taken (call : Call) (machine : Machine) : Machine :=
  takeBusOff call (takeErrorPassive call (machine.enter call))

/-- The deadline that a call finds, if an attempt is outstanding. -/
theorem taken_due (h : Paced machine) (htime : InTime machine call)
    (hpending : (taken call machine).main.recoveryVerificationPending = false)
    (hdiffers : (taken call machine).main.scheduledBusOffEventCount ≠
      (taken call machine).main.handledBusOffEventCount) :
    ∃ deadline, (taken call machine).main.nextRecoveryAttemptTick = UInt32.ofNat deadline ∧
      (∀ attempt ∈ machine.ledger.attempts, attempt + 200 ≤ deadline) ∧
      deadline ≤ call.now + 200 ∧ call.now < deadline + 2 ^ 31 := by
  have hpassive := samePace_takeErrorPassive call (machine.enter call)
  rcases pace_takeBusOff call (takeErrorPassive call (machine.enter call)) with
    hsame | ⟨-, -, -, hnext⟩
  · obtain ⟨-, -, hscheduled, hhandled, hwas, hnext⟩ := hpassive.trans hsame
    have hdiffers' : machine.main.scheduledBusOffEventCount ≠
        machine.main.handledBusOffEventCount := by
      intro heq
      exact hdiffers (hscheduled.trans (heq.trans hhandled.symm))
    obtain ⟨last, hlast, deadline, hdeadline, hattempts, hless, hmost⟩ :=
      h.due (hwas.symm.trans hpending) hdiffers'
    obtain ⟨hle, hround⟩ := htime last hlast
    exact ⟨deadline, hnext.trans hdeadline, hattempts, by omega, by omega⟩
  · refine ⟨call.now + 200, hnext, fun attempt hmem => ?_, Nat.le_refl _, by omega⟩
    obtain ⟨last, hlast, hle⟩ := h.past attempt hmem
    have hnow := (htime last hlast).1
    omega

theorem taken_calls (call : Call) (machine : Machine) :
    (taken call machine).ledger.attempts = machine.ledger.attempts ∧
      (taken call machine).ledger.called = (machine.enter call).ledger.called := by
  have hpassive := samePace_takeErrorPassive call (machine.enter call)
  rcases pace_takeBusOff call (takeErrorPassive call (machine.enter call)) with
    hsame | ⟨hattempts, hcalled, -, -⟩
  · exact ⟨(hpassive.trans hsame).attempts, (hpassive.trans hsame).called⟩
  · exact ⟨hattempts.trans hpassive.attempts, hcalled.trans hpassive.called⟩

/-- While a verification is pending, no attempt is made. -/
theorem pace_verifyRecovery (h : Books machine)
    (hpending : machine.main.recoveryVerificationPending = true) :
    (verifyRecovery call machine).ledger.attempts = machine.ledger.attempts ∧
      (verifyRecovery call machine).ledger.called = machine.ledger.called ∧
      ((verifyRecovery call machine).main.recoveryVerificationPending = false →
        (verifyRecovery call machine).main.scheduledBusOffEventCount =
          (verifyRecovery call machine).main.handledBusOffEventCount) := by
  have hgrown : ∀ {machine' : Machine}, Grown machine machine' →
      machine'.ledger.attempts = machine.ledger.attempts ∧
        machine'.ledger.called = machine.ledger.called ∧
        (machine'.main.recoveryVerificationPending = false →
          machine'.main.scheduledBusOffEventCount = machine'.main.handledBusOffEventCount) := by
    intro machine' hgrown
    have hsame := hgrown.samePace
    refine ⟨hsame.attempts, hsame.called, fun hnot => ?_⟩
    cases hnot.symm.trans (hsame.pending.trans hpending)
  have htransmit := grown_interrupted call .transmitTest machine
  unfold verifyRecovery
  dsimp only
  split
  · have hverification := htransmit.trans (grown_interrupted call .verificationTest _)
    split
    · have hrecovered := hverification.trans (grown_interrupted call .recovered _)
      have hbooks := hrecovered.books h
      refine ⟨hrecovered.samePace.attempts, hrecovered.samePace.called, fun _ => ?_⟩
      have hverifying := hbooks.verifying (hrecovered.samePace.pending.trans hpending)
      exact hbooks.scheduled_eq.trans (by rw [← hverifying, ← hbooks.verifying_eq]; rfl)
    · exact hgrown hverification
  · exact hgrown htransmit

/-- A call in time keeps the pace. -/
theorem paced_handleBusOffRecovery (h : Paced machine) (htime : InTime machine call)
    (hbooks : Books (taken call machine)) : Paced (handleBusOffRecovery call machine) := by
  have hdue := taken_due h htime
  obtain ⟨hattempts, hcalled⟩ := taken_calls call machine
  have hpast : ∀ attempt ∈ machine.ledger.attempts, attempt ≤ call.now := by
    intro attempt hmem
    obtain ⟨last, hlast, hle⟩ := h.past attempt hmem
    exact Nat.le_trans hle (htime last hlast).1
  change Paced (if (taken call machine).main.recoveryVerificationPending = true then
    verifyRecovery call (taken call machine) else attemptRecovery call (taken call machine))
  generalize taken call machine = now at *
  rw [← hattempts] at hdue hpast
  have hapart := h.apart
  rw [← hattempts] at hapart
  -- a pending verification makes no attempt, so the pace is what it was
  split
  · next hpending =>
    obtain ⟨hsame, hcall, hquiet⟩ := pace_verifyRecovery hbooks hpending
    refine ⟨by rw [hsame]; exact hapart, ?_, fun hnot hdiffers => absurd (hquiet hnot) hdiffers⟩
    rw [hsame, hcall, hcalled]
    exact fun attempt hmem => ⟨call.now, rfl, hpast attempt hmem⟩
  next hnot =>
  have hpending := Bool.eq_false_of_not_eq_true hnot
  have hentered : now.ledger.called.now = some call.now := by
    rw [hcalled]
    rfl
  have hkept : ∀ attempt ∈ now.ledger.attempts, ∃ last ∈ now.ledger.called.now, attempt ≤ last := by
    rw [hentered]
    exact fun attempt hmem => ⟨call.now, rfl, hpast attempt hmem⟩
  unfold attemptRecovery
  split
  · next hsame => exact ⟨hapart, hkept, fun _ hdiffers => absurd hsame hdiffers⟩
  next hdiffers =>
  obtain ⟨deadline, hnext, hbefore, hmost, hround⟩ := hdue hpending hdiffers
  -- the deadline is within half a round, where the signed difference is the order
  have hsigned := toInt32_sub_nonneg_iff (show deadline ≤ call.now + 2 ^ 31 by omega) hround
  split
  · next hearly =>
    refine ⟨hapart, hkept, fun _ _ => ⟨call.now, by rw [hcalled]; rfl, deadline, hnext, hbefore, ?_,
      hmost⟩⟩
    rw [hnext] at hearly
    exact Nat.not_le.1 fun hle => Int32.not_le.2 hearly (hsigned.2 hle)
  · next hlate =>
    rw [hnext] at hlate
    have hreached := hsigned.1 (Int32.not_lt.1 hlate)
    -- the deadline is reached: this call is the attempt, 200 ms before the next
    have hall : ∀ attempt ∈ now.ledger.attempts ++ [call.now], attempt ≤ call.now := by
      intro attempt hmem
      rcases List.mem_append.1 hmem with hmem | hmem
      · exact hpast attempt hmem
      · exact Nat.le_of_eq (List.mem_singleton.1 hmem)
    refine (tried_stopPeripheral call _).paced ⟨?_, ?_, fun _ _ => ?_⟩
    · refine List.pairwise_append.2 ⟨hapart, List.pairwise_singleton _ _, fun attempt hmem last hlast => ?_⟩
      have hapart' := hbefore attempt hmem
      rw [List.mem_singleton.1 hlast]
      omega
    · intro attempt hmem
      exact ⟨call.now, hentered, hall attempt hmem⟩
    · refine ⟨call.now, hentered, call.now + 200, ofNat_add_toNat call.now 200,
        fun attempt hmem => ?_, by omega, Nat.le_refl _⟩
      have hle := hall attempt hmem
      omega

/-! ## Runs -/

/-- What a call has taken, and when it was made. -/
structure SameTaken (machine machine' : Machine) : Prop where
  scheduled : machine'.ledger.scheduled = machine.ledger.scheduled
  logged : machine'.ledger.logged = machine.ledger.logged
  called : machine'.ledger.called = machine.ledger.called

theorem Passed.sameTaken (h : Passed machine machine') : SameTaken machine machine' := by
  rw [h.eq]
  exact ⟨rfl, rfl, rfl⟩

theorem Tried.history (htried : Tried machine machine') :
    machine.ledger.history <+: machine'.ledger.history := by
  rcases htried with hhalfway | ⟨last, hlast, rfl⟩
  · exact hhalfway.history
  · exact hlast.history

theorem Tried.sameTaken (htried : Tried machine machine') : SameTaken machine machine' := by
  rcases htried with hhalfway | ⟨last, hlast, rfl⟩
  · exact hhalfway.toPassed.sameTaken
  · obtain ⟨hscheduled, hlogged, hcalled⟩ := hlast.toPassed.sameTaken
    exact ⟨hscheduled, hlogged, hcalled⟩

theorem sameTaken_verifyRecovery (call : Call) (machine : Machine) :
    SameTaken machine (verifyRecovery call machine) := by
  have htransmit := grown_interrupted call .transmitTest machine
  unfold verifyRecovery
  dsimp only
  split
  · have hverification := htransmit.trans (grown_interrupted call .verificationTest _)
    split
    · obtain ⟨hscheduled, hlogged, hcalled⟩ :=
        (hverification.trans (grown_interrupted call .recovered _)).toPassed.sameTaken
      exact ⟨hscheduled, hlogged, hcalled⟩
    · exact hverification.toPassed.sameTaken
  · exact htransmit.toPassed.sameTaken

theorem sameTaken_attemptRecovery (call : Call) (machine : Machine) :
    SameTaken machine (attemptRecovery call machine) := by
  unfold attemptRecovery
  split
  · exact ⟨rfl, rfl, rfl⟩
  split
  · exact ⟨rfl, rfl, rfl⟩
  · obtain ⟨hscheduled, hlogged, hcalled⟩ := (tried_stopPeripheral call _).sameTaken
    exact ⟨hscheduled, hlogged, hcalled⟩

theorem scheduled_takeErrorPassive (call : Call) (machine : Machine) :
    (takeErrorPassive call machine).ledger.scheduled = machine.ledger.scheduled := by
  have htest := grown_interrupted call .errorPassiveTest machine
  unfold takeErrorPassive
  dsimp only
  split
  · have hsnapshot := htest.trans (grown_interrupted call .errorPassiveSnapshot _)
    unfold logErrorPassive
    split
    · exact (hsnapshot.trans ((grown_interrupted call .errorPassivePsr _).trans
        (grown_interrupted call .errorPassiveEcr _))).toPassed.sameTaken.scheduled
    · exact hsnapshot.toPassed.sameTaken.scheduled
  · exact htest.toPassed.sameTaken.scheduled

theorem logged_takeBusOff (call : Call) (machine : Machine) :
    (takeBusOff call machine).ledger.logged = machine.ledger.logged := by
  have htest := grown_interrupted call .busOffTest machine
  unfold takeBusOff
  dsimp only
  split
  · have hsnapshot := htest.trans (grown_interrupted call .busOffSnapshot _)
    unfold scheduleBusOff
    dsimp only
    split
    · unfold logBusOff
      split
      · exact (hsnapshot.trans ((grown_interrupted call .busOffPsr _).trans
          (grown_interrupted call .busOffEcr _))).toPassed.sameTaken.logged
      · exact hsnapshot.toPassed.sameTaken.logged
    · exact hsnapshot.toPassed.sameTaken.logged
  · exact htest.toPassed.sameTaken.logged

/-- From the start of a call to the end of the next fewer than 2^32 events
of a kind, and the calls in time. -/
def Timely (machine : Machine) : Event → Prop
  | .interrupt _ => True
  | .call call => InTime machine call ∧
      busOffs (handleBusOffRecovery call machine).ledger.history <
        machine.ledger.called.busOffs + 2 ^ 32 ∧
      errorPassives (handleBusOffRecovery call machine).ledger.history <
        machine.ledger.called.errorPassives + 2 ^ 32

instance (machine : Machine) : (event : Event) → Decidable (Timely machine event)
  | .interrupt _ => inferInstanceAs (Decidable True)
  | .call _ => inferInstanceAs (Decidable (_ ∧ _))

/-- The books are kept, at their pace, and the last call took every event
of before it. -/
structure Kept (machine : Machine) : Prop where
  books : Books machine
  paced : Paced machine
  busOffs_le : machine.ledger.called.busOffs ≤ machine.ledger.scheduled
  errorPassives_le : machine.ledger.called.errorPassives ≤ machine.ledger.logged

theorem kept_interrupt (h : Kept machine) (event : Interrupt) : Kept (interrupt machine event) := by
  have hgrown := grown_interrupt machine event
  obtain ⟨hscheduled, hlogged, hcalled⟩ := hgrown.toPassed.sameTaken
  refine ⟨hgrown.books h.books, hgrown.samePace.paced h.paced, ?_, ?_⟩
  · rw [hscheduled, hcalled]
    exact h.busOffs_le
  · rw [hlogged, hcalled]
    exact h.errorPassives_le

theorem history_third (call : Call) (machine : Machine) :
    machine.ledger.history <+: (if machine.main.recoveryVerificationPending then
      verifyRecovery call machine else attemptRecovery call machine).ledger.history := by
  split
  · exact history_verifyRecovery call machine
  unfold attemptRecovery
  split
  · exact List.prefix_refl _
  split
  · exact List.prefix_refl _
  · exact (tried_stopPeripheral call (beginAttempt call machine)).history

theorem sameTaken_third (call : Call) (machine : Machine) :
    SameTaken machine (if machine.main.recoveryVerificationPending then
      verifyRecovery call machine else attemptRecovery call machine) := by
  split
  · exact sameTaken_verifyRecovery call machine
  · exact sameTaken_attemptRecovery call machine

theorem Books.enter (h : Books machine) (call : Call) : Books (machine.enter call) :=
  ⟨⟨h.counted.busOff, h.counted.errorPassive, h.counted.txComplete⟩, h.scheduled_eq,
    h.scheduled_le, h.loggedBusOff, h.busOffRecords, h.logged_eq, h.logged_le,
    h.errorPassiveRecords, h.verifying_eq, h.verifying_le, h.verifying, h.handled_eq, h.verified_le,
    h.transmitted_eq, h.transmitted_le⟩

theorem books_attemptRecovery (h : Books machine) : Books (attemptRecovery call machine) := by
  unfold attemptRecovery
  split
  · exact h
  split
  · exact h
  · refine (tried_stopPeripheral call _).books ?_
    exact ⟨⟨h.counted.busOff, h.counted.errorPassive, h.counted.txComplete⟩, h.scheduled_eq,
      h.scheduled_le, h.loggedBusOff, h.busOffRecords, h.logged_eq, h.logged_le,
      h.errorPassiveRecords, h.verifying_eq, h.verifying_le, h.verifying, h.handled_eq,
      h.verified_le, h.transmitted_eq, h.transmitted_le⟩

/-- A timely call keeps the books, and brings a success only if it is
decided. -/
theorem kept_call (h : Kept machine) (htimely : Timely machine (.call call)) :
    Kept (handleBusOffRecovery call machine) ∧
      ((handleBusOffRecovery call machine).main.recoveryStats.recoverySuccesses ≠
        machine.main.recoveryStats.recoverySuccesses →
          Decided machine (handleBusOffRecovery call machine)) := by
  obtain ⟨htime, hbusOffs, hpassives⟩ := htimely
  have hthird := history_third call (taken call machine)
  have hsettled := sameTaken_third call (taken call machine)
  have hsecond := history_takeBusOff call (takeErrorPassive call (machine.enter call))
  have hfirst := history_takeErrorPassive call (machine.enter call)
  have hpassivesFirst : errorPassives (takeErrorPassive call (machine.enter call)).ledger.history ≤
      errorPassives (handleBusOffRecovery call machine).ledger.history :=
    count_le (hsecond.trans hthird) _
  have hbusOffsSecond : busOffs (taken call machine).ledger.history ≤
      busOffs (handleBusOffRecovery call machine).ledger.history := count_le hthird _
  have hcalledBusOffs := h.busOffs_le
  have hcalledPassives := h.errorPassives_le
  have hscheduledLe := h.books.scheduled_le
  -- the first two parts, each with its share of the window
  obtain ⟨hbooks, htakenPassives⟩ := @books_takeErrorPassive _ call
    (h.books.enter call) (by change _ < machine.ledger.logged + 2 ^ 32; omega)
  have hscheduled := scheduled_takeErrorPassive call (machine.enter call)
  obtain ⟨hbooks', htakenBusOffs⟩ := books_takeBusOff hbooks (by
    rw [hscheduled]
    change busOffs (taken call machine).ledger.history < machine.ledger.scheduled + 2 ^ 32
    omega)
  have hlogged := logged_takeBusOff call (takeErrorPassive call (machine.enter call))
  have hsuccesses := successes_takeBusOff call machine
  have hpaced := paced_handleBusOffRecovery h.paced htime hbooks'
  have hbefore : busOffs machine.ledger.history ≤
      busOffs (takeErrorPassive call (machine.enter call)).ledger.history := count_le hfirst _
  have hcalled := hsettled.called.trans (taken_calls call machine).2
  have hstart : machine.ledger.history <+: (taken call machine).ledger.history :=
    hfirst.trans hsecond
  -- the third part takes no event, so the bounds hold as soon as the books do
  have hkept : Books (handleBusOffRecovery call machine) →
      Kept (handleBusOffRecovery call machine) := by
    intro hbooks
    refine ⟨hbooks, hpaced, ?_, ?_⟩
    · rw [show (handleBusOffRecovery call machine).ledger.called = (machine.enter call).ledger.called
        from hcalled, show (handleBusOffRecovery call machine).ledger.scheduled =
          (taken call machine).ledger.scheduled from hsettled.scheduled]
      exact Nat.le_trans hbefore htakenBusOffs
    · rw [show (handleBusOffRecovery call machine).ledger.called = (machine.enter call).ledger.called
        from hcalled, show (handleBusOffRecovery call machine).ledger.logged =
          (taken call machine).ledger.logged from hsettled.logged]
      exact Nat.le_trans htakenPassives (Nat.le_of_eq hlogged.symm)
  have hresult : handleBusOffRecovery call machine =
      if (taken call machine).main.recoveryVerificationPending then
        verifyRecovery call (taken call machine)
      else attemptRecovery call (taken call machine) := rfl
  change (taken call machine).main.recoveryStats.recoverySuccesses = _ at hsuccesses
  change _ ≤ (taken call machine).ledger.scheduled at htakenBusOffs
  change Books (taken call machine) at hbooks'
  by_cases hpending : (taken call machine).main.recoveryVerificationPending = true
  · rw [if_pos hpending] at hresult
    obtain ⟨hlast, hdecided⟩ := @books_verifyRecovery _ call hbooks' hpending (by
      rw [← hresult]
      omega)
    rw [← hresult] at hlast hdecided
    refine ⟨hkept hlast, fun hsuccess => ?_⟩
    obtain ⟨decided, hle, hrest⟩ := hdecided (by rw [hsuccesses]; exact hsuccess)
    exact ⟨decided, hstart.trans hle, hrest⟩
  · rw [if_neg hpending] at hresult
    have hlast := @books_attemptRecovery _ call hbooks'
    rw [← hresult] at hlast
    refine ⟨hkept hlast, fun hsuccess => absurd ?_ hsuccess⟩
    rw [hresult, successes_attemptRecovery, hsuccesses]

theorem kept_recoverStep (machine : Machine) (event : Event) (htimely : Timely machine event)
    (h : Kept machine) : Kept (recoverStep machine event) := by
  cases event with
  | interrupt event => exact kept_interrupt h event
  | call call => exact (kept_call h htimely).1

theorem kept_init : Kept recoveryInit :=
  ⟨⟨⟨rfl, rfl, rfl⟩, rfl, Nat.le_refl 0, rfl, rfl, rfl, Nat.le_refl 0, rfl, rfl, Nat.le_refl 0, nofun,
      rfl, Nat.le_refl 0, rfl, Nat.le_refl 0⟩,
    ⟨List.Pairwise.nil, nofun, fun _ hdiffers => absurd rfl hdiffers⟩, Nat.le_refl 0, Nat.le_refl 0⟩

/-- **The books are right.** In every run of timely events:

* a success is decided with a frame sent behind the snapshot of its
  verification and no bus-off event behind the verified one;
* two attempts are at least 200 ms apart;
* the records and the suppressed records of a kind are the events taken
  into account, which are all the events of before the last call;
* while fewer than 2^32 bus-off events lie behind the verified one, a
  recovery that is not pending, with no event left to schedule, was
  verified for all of them. -/
theorem books_right (events : List Event)
    (htimely : Along recoverStep Timely recoveryInit events) :
    let reached := run recoverStep recoveryInit events
    let report := getStats reached
    let history := reached.ledger.history
    (∀ event, Timely reached event →
      (recoverStep reached event).main.recoveryStats.recoverySuccesses ≠
        reached.main.recoveryStats.recoverySuccesses →
      Decided reached (recoverStep reached event)) ∧
    (reached.ledger.attempts.Pairwise fun earlier later => earlier + 200 ≤ later) ∧
    (report.busOffLogRecords + report.busOffLogSuppressed =
        UInt32.ofNat reached.ledger.scheduled ∧
      reached.ledger.called.busOffs ≤ reached.ledger.scheduled ∧
      reached.ledger.scheduled ≤ busOffs history) ∧
    (report.errorPassiveLogRecords + report.errorPassiveLogSuppressed =
        UInt32.ofNat reached.ledger.logged ∧
      reached.ledger.called.errorPassives ≤ reached.ledger.logged ∧
      reached.ledger.logged ≤ errorPassives history) ∧
    (report.recoveryPending = false →
      report.busOffEvents = reached.main.scheduledBusOffEventCount →
      busOffs history < reached.ledger.verified + 2 ^ 32 →
      busOffs history = reached.ledger.verified) := by
  intro reached report history
  have hkept : Kept reached := run_invariant_along kept_recoverStep events recoveryInit htimely kept_init
  have hbooks := hkept.books
  refine ⟨fun event htimely hsuccess => ?_, hkept.paced.apart,
    ⟨?_, hkept.busOffs_le, hbooks.scheduled_le⟩, ⟨?_, hkept.errorPassives_le, hbooks.logged_le⟩,
    fun hquiet hall hwindow => ?_⟩
  · cases event with
    | interrupt event => exact absurd (successes_interrupt reached event) hsuccess
    | call call => exact (kept_call hkept htimely).2 hsuccess
  · exact hbooks.busOffRecords.trans (hbooks.loggedBusOff.trans hbooks.scheduled_eq)
  · exact hbooks.errorPassiveRecords.trans hbooks.logged_eq
  · have hsame : reached.main.scheduledBusOffEventCount =
        reached.main.handledBusOffEventCount := by
      by_contra hdiffers
      have hpending : report.recoveryPending = true := by
        change (decide _ || _) = true
        rw [decide_eq_true hdiffers, Bool.true_or]
      exact Bool.noConfusion (hquiet.symm.trans hpending)
    exact le_of_counter_eq hbooks.counted.busOff hbooks.handled_eq
      (Nat.le_trans hbooks.verified_le hbooks.scheduled_le) hwindow (hall.trans hsame)

/-- A recovery whose first attempt fails. -/
def secondAttempt : List Event :=
  [.interrupt busOff, .call { now := 0 }, .call { now := 200, stop := .error },
    .interrupt (.errorStatus .fdcan1 itErrorPassive 0 0), .call { now := 400 },
    .interrupt (.txBufferComplete .fdcan1 1), .call { now := 410 }]

theorem books_right_secondAttempt :
    let reached := run recoverStep recoveryInit secondAttempt
    reached.ledger.attempts = [200, 400] ∧
      (reached.ledger.attempts.Pairwise fun earlier later => earlier + 200 ≤ later) ∧
      busOffs reached.ledger.history = reached.ledger.verified := by
  intro reached
  obtain ⟨-, hapart, -, -, hverified⟩ := books_right secondAttempt (by decide)
  exact ⟨by decide, hapart, hverified (by decide) (by decide) (by decide)⟩

/-! ## Where the books are not enough -/

theorem count_replicate_busOff (count : Nat) : busOffs (List.replicate count .busOff) = count := by
  rw [busOffs, List.count_replicate_self]

/-- A storm of bus-off events, with no call between them. -/
def storm (count : Nat) : List Event := List.replicate count (.interrupt busOff)

theorem run_storm (count : Nat) (called : Entry) :
    run recoverStep { ledger := { called } } (storm count) =
      { isr := { busOffEventCount := UInt32.ofNat count }
        ledger := { called, history := List.replicate count .busOff } } := by
  induction count with
  | zero => rfl
  | succ count ih =>
    rw [storm, List.replicate_succ', run_append, ← storm, ih, ← ofNat_add_one,
      List.replicate_succ' (a := Happening.busOff)]
    rfl

theorem timely_storm (count : Nat) (machine : Machine) :
    Along recoverStep Timely machine (storm count) := by
  induction count generalizing machine with
  | zero => trivial
  | succ count ih => exact ⟨trivial, ih _⟩

/-- The first call after more than one bus-off event. -/
theorem call_storm (count : UInt32) (hcount : 1 < count) (history : List Happening)
    (called : Entry) :
    handleBusOffRecovery { now := 1 }
        { isr := { busOffEventCount := count }, ledger := { called, history } } =
      { isr := { busOffEventCount := count }
        main :=
          { scheduledBusOffEventCount := count
            loggedBusOffEventCount := count
            nextRecoveryAttemptTick := 201
            busOffFaultEpisodeActive := true
            busOffLogRecordCount := 1
            busOffLogSuppressedCount := count - 1
            log := [⟨.fault, .busOff, 0, 0⟩] }
        ledger :=
          { history
            scheduled := busOffs history
            called := ⟨some 1, busOffs history, errorPassives history⟩ } } := by
  have hne : count ≠ 0 := by
    rintro rfl
    exact absurd hcount (by decide)
  simp [handleBusOffRecovery, takeErrorPassive, takeBusOff, scheduleBusOff, logBusOff,
    invalidateVerification, attemptRecovery, interrupted, Machine.enter, Main.push, hne, hne.symm,
    hcount]
  rw [if_pos (by decide)]
  rfl

/-- A storm between two calls, and one bus-off event more. -/
def wrapped (count : Nat) : List Event :=
  .call { now := 0 } :: storm count ++ [.call { now := 1 }, .interrupt busOff, .call { now := 2 }]

theorem busOffs_storm (count : Nat) :
    busOffs (List.replicate count .busOff ++ [.busOff]) = count + 1 := by
  rw [busOffs, List.count_append, ← busOffs, count_replicate_busOff]
  rfl

theorem errorPassives_storm (count : Nat) : errorPassives (List.replicate count .busOff) = 0 := by
  rw [errorPassives, List.count_eq_zero]
  intro hmem
  cases List.eq_of_mem_replicate hmem

/-- The machine after the storm. -/
def stormed (count : Nat) : Machine where
  isr := { busOffEventCount := UInt32.ofNat count }
  ledger := { called := ⟨some 0, 0, 0⟩, history := List.replicate count .busOff }

theorem run_wrapped (count : Nat) :
    run recoverStep recoveryInit (.call { now := 0 } :: storm count) = stormed count := by
  have hfirst : recoverStep recoveryInit (.call { now := 0 }) =
      { ledger := { called := ⟨some 0, 0, 0⟩ } } := by decide
  rw [run_cons, hfirst, run_storm]
  rfl

/-- The machine when the counter has wrapped. -/
def wrapping (count : Nat) : Machine where
  isr := { busOffEventCount := 0 }
  main :=
    { scheduledBusOffEventCount := 4294967295
      loggedBusOffEventCount := 4294967295
      nextRecoveryAttemptTick := 201
      busOffFaultEpisodeActive := true
      busOffLogRecordCount := 1
      busOffLogSuppressedCount := 4294967294
      log := [⟨.fault, .busOff, 0, 0⟩] }
  ledger :=
    { history := List.replicate count .busOff ++ [.busOff]
      scheduled := busOffs (List.replicate count .busOff)
      called := ⟨some 1, busOffs (List.replicate count .busOff),
        errorPassives (List.replicate count .busOff)⟩ }

theorem step_stormed (count : Nat) (hcount : UInt32.ofNat count = 4294967295) :
    recoverStep (recoverStep (stormed count) (.call { now := 1 })) (.interrupt busOff) =
      wrapping count := by
  have hcall : recoverStep (stormed count) (.call { now := 1 }) = _ :=
    call_storm (UInt32.ofNat count) (by rw [hcount]; decide) (List.replicate count .busOff) _
  have hinterrupt : ∀ machine, recoverStep machine (.interrupt busOff) = countBusOff machine 0 0 :=
    fun _ => rfl
  rw [hcall, hcount, hinterrupt, countBusOff, wrapping,
    show (4294967295 : UInt32) + 1 = 0 by decide,
    show (4294967295 : UInt32) - 1 = 4294967294 by decide]
  rfl

/-- The machine after the call that finds no event. -/
def afterWrap (count : Nat) : Machine where
  main :=
    { loggedBusOffEventCount := 0
      nextRecoveryAttemptTick := 202
      busOffFaultEpisodeActive := true
      busOffLogRecordCount := 1
      busOffLogSuppressedCount := 4294967295
      log := [⟨.fault, .busOff, 0, 0⟩] }
  ledger :=
    { history := List.replicate count .busOff ++ [.busOff]
      scheduled := busOffs (List.replicate count .busOff ++ [.busOff])
      called := ⟨some 2, busOffs (List.replicate count .busOff ++ [.busOff]),
        errorPassives (List.replicate count .busOff ++ [.busOff])⟩ }

theorem step_wrapping (count : Nat) :
    recoverStep (wrapping count) (.call { now := 2 }) = afterWrap count := by
  have htick : Call.tick { now := 2 } + recoveryRetryIntervalMs = 202 := by decide
  have hrest : (4294967294 : UInt32) + -4294967295 = 4294967295 := by decide
  simp [recoverStep, wrapping, afterWrap, handleBusOffRecovery, takeErrorPassive, takeBusOff,
    scheduleBusOff, logBusOff, invalidateVerification, attemptRecovery, interrupted, Machine.enter,
    htick, hrest]

/-- With 2^32 bus-off events counted in time and none recovered, no
recovery is pending. -/
theorem wrapped_lost (count : Nat) (hcount : UInt32.ofNat count = 4294967295)
    (hfew : count < 2 ^ 32) :
    Along recoverStep Timely recoveryInit (wrapped count) ∧
      let reached := run recoverStep recoveryInit (wrapped count)
      (getStats reached).recoveryPending = false ∧
        (getStats reached).busOffEvents = reached.main.scheduledBusOffEventCount ∧
        (getStats reached).stats.recoverySuccesses = 0 ∧
        busOffs reached.ledger.history = count + 1 := by
  have hstorm : recoverStep (stormed count) (.call { now := 1 }) = _ :=
    call_storm (UInt32.ofNat count) (by rw [hcount]; decide) (List.replicate count .busOff) _
  have hsteps := step_stormed count hcount
  have hcall := step_wrapping count
  have hreached : run recoverStep recoveryInit (wrapped count) = afterWrap count := by
    rw [wrapped, run_append, run_wrapped, run_cons, run_cons, run_cons, run_nil, hsteps, hcall]
  refine ⟨along_append.2 ⟨⟨by decide, timely_storm _ _⟩, ?_⟩, ?_⟩
  · rw [run_wrapped]
    refine ⟨⟨?_, ?_, ?_⟩, trivial, ⟨?_, ?_, ?_⟩, trivial⟩
    · rintro last ⟨⟩
      decide
    · change busOffs (recoverStep (stormed count) (.call { now := 1 })).ledger.history < 0 + 2 ^ 32
      rw [hstorm]
      change busOffs (List.replicate count .busOff) < _
      rw [count_replicate_busOff]
      omega
    · change errorPassives (recoverStep (stormed count) (.call { now := 1 })).ledger.history <
        0 + 2 ^ 32
      rw [hstorm]
      change errorPassives (List.replicate count .busOff) < _
      rw [errorPassives_storm]
      decide
    · rw [hsteps]
      rintro last ⟨⟩
      decide
    · rw [hsteps]
      change busOffs (recoverStep (wrapping count) (.call { now := 2 })).ledger.history <
        busOffs (List.replicate count .busOff) + 2 ^ 32
      rw [hcall]
      change busOffs (List.replicate count .busOff ++ [.busOff]) < _
      rw [busOffs_storm, count_replicate_busOff]
      omega
    · rw [hsteps]
      change errorPassives (recoverStep (wrapping count) (.call { now := 2 })).ledger.history <
        errorPassives (List.replicate count .busOff) + 2 ^ 32
      rw [hcall]
      change errorPassives (List.replicate count .busOff ++ [.busOff]) < _
      rw [errorPassives, List.count_append, ← errorPassives, errorPassives_storm]
      decide
  · rw [hreached]
    exact ⟨rfl, rfl, rfl, busOffs_storm count⟩

/-- A bus-off storm that the counter does not show, and an interrupt
between the decision and the success. -/
theorem books_fail :
    (Along recoverStep Timely recoveryInit (wrapped 4294967295) ∧
      let reached := run recoverStep recoveryInit (wrapped 4294967295)
      (getStats reached).recoveryPending = false ∧
        (getStats reached).busOffEvents = reached.main.scheduledBusOffEventCount ∧
        (getStats reached).stats.recoverySuccesses = 0 ∧
        busOffs reached.ledger.history = 4294967296) ∧
    (let events := [.interrupt busOff, .call { now := 0 }, .call { now := 200 },
        .interrupt (.txBufferComplete .fdcan1 1)]
      let last : Event := .call { now := 201, before := fun
        | .recovered => [busOff]
        | _ => [] }
      Along recoverStep Timely recoveryInit (events ++ [last]) ∧
        let reached := run recoverStep recoveryInit events
        reached.main.recoveryStats.recoverySuccesses = 0 ∧
        (recoverStep reached last).main.recoveryStats.recoverySuccesses = 1 ∧
        (recoverStep reached last).ledger.verified = 1 ∧
        busOffs (recoverStep reached last).ledger.history = 2) := by
  exact ⟨wrapped_lost 4294967295 rfl (by decide), by decide⟩

end BusOff

end CanGui
