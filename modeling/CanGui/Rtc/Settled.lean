import CanGui.Rtc.Effects
/-!
# RTC service — what becomes of a request

A date and time or an alarm that is accepted waits to be read back, and is
settled once: the log then says what became of it.
-/

namespace CanGui

namespace Rtc

/-- What holds of the phase between calls. -/
structure Phase.Sound (phase : Phase) : Prop where
  absent : phase.peripheralReady = false → phase.initialized = true ∧ phase.ready = false
  starting : phase.initialized = false → phase.ready = false ∧ phase.Idle
  writing : phase.writePending = true → phase.ready = true ∧ phase.alarmWritePending = false
  writingAlarm : phase.alarmWritePending = true → phase.ready = true

variable {phase : Phase} {counts : AlarmCounts} {effect : Effect}

theorem Phase.Sound.of_effect (h : phase.Sound) (heffect : effect.Of phase counts) :
    effect.phase.Sound := by
  obtain ⟨habsent, hstarting, hwriting, halarm⟩ := h
  cases heffect with
  | quiet => exact ⟨habsent, hstarting, hwriting, halarm⟩
  | absent h => exact ⟨habsent, hstarting, hwriting, halarm⟩
  | published h hready => exact ⟨habsent, hstarting, hwriting, halarm⟩
  | declinedAlarm failed => exact ⟨habsent, hstarting, hwriting, halarm⟩
  | linked ready hperipheral h =>
    have hwrite : phase.writePending ≠ true := ne_true_of_eq_false h.1
    have hpending : phase.alarmWritePending ≠ true := ne_true_of_eq_false h.2
    exact ⟨fun hnot => absurd (hperipheral.symm.trans hnot) (by decide),
      fun hnot => Bool.noConfusion hnot, fun hset => absurd hset hwrite,
      fun hset => absurd hset hpending⟩
  | wroteDateTime hperipheral hinitialized h =>
    exact ⟨fun hnot => absurd (hperipheral.symm.trans hnot) (by decide),
      fun hnot => absurd (hinitialized.symm.trans hnot) (by decide), fun _ => ⟨rfl, h.2⟩,
      fun _ => rfl⟩
  | settledWrite ready h =>
    obtain ⟨hready, hidle⟩ := hwriting h
    have hpending : phase.alarmWritePending ≠ true := ne_true_of_eq_false hidle
    exact ⟨fun hnot => absurd (hready.symm.trans (habsent hnot).2) (by decide),
      fun hnot => absurd (h.symm.trans (hstarting hnot).2.1) (by decide),
      fun hset => Bool.noConfusion hset, fun hset => absurd hset hpending⟩
  | wroteAlarm hinitialized h hready =>
    have hwrite : phase.writePending ≠ true := ne_true_of_eq_false h.1
    exact ⟨habsent, fun hnot => absurd (hinitialized.symm.trans hnot) (by decide),
      fun hset => absurd hset hwrite, fun _ => hready⟩
  | settledAlarm verified hwrite h =>
    exact ⟨habsent, fun hnot => ⟨(hstarting hnot).1, (hstarting hnot).2.1, rfl⟩,
      fun hset => ⟨(hwriting hset).1, rfl⟩, fun hset => Bool.noConfusion hset⟩

/-- What is pending before or is accepted is settled or is pending
behind. -/
theorem Effect.Of.balance (h : effect.Of phase counts) :
    phase.writePending.toNat + effect.wroteDateTime.toNat =
        effect.settledWrites + effect.phase.writePending.toNat ∧
      phase.alarmWritePending.toNat + effect.wroteAlarm.toNat =
        effect.settledAlarms + effect.phase.alarmWritePending.toNat ∧
      effect.counts.requests = counts.requests + .ofNat effect.askedAlarm.toNat := by
  have hwrite : phase.writePending.toNat = 0 + phase.writePending.toNat := (Nat.zero_add _).symm
  have halarm : phase.alarmWritePending.toNat = 0 + phase.alarmWritePending.toNat :=
    (Nat.zero_add _).symm
  have hrequests : counts.requests = counts.requests + 0 := (UInt32.add_zero _).symm
  cases h with
  | quiet => exact ⟨hwrite, halarm, hrequests⟩
  | absent h => exact ⟨hwrite, halarm, hrequests⟩
  | published h hready => exact ⟨hwrite, halarm, hrequests⟩
  | linked ready hperipheral h => exact ⟨hwrite, halarm, hrequests⟩
  | declinedAlarm failed => exact ⟨hwrite, halarm, rfl⟩
  | wroteDateTime hperipheral hinitialized h =>
    refine ⟨?_, halarm, hrequests⟩
    rw [h.1]
    rfl
  | settledWrite ready h =>
    refine ⟨?_, halarm, hrequests⟩
    rw [h]
    rfl
  | wroteAlarm hinitialized h hready =>
    refine ⟨hwrite, ?_, rfl⟩
    rw [h.2]
    rfl
  | settledAlarm verified hwrite' h =>
    refine ⟨hwrite, ?_, hrequests⟩
    rw [h]
    rfl

theorem Effect.Of.settledWrites_eq (h : effect.Of phase counts) (hbefore : phase.writePending = true)
    (hafter : effect.phase.writePending = false) : effect.settledWrites = 1 := by
  have hkept : phase.writePending ≠ false := ne_false_of_eq_true hbefore
  cases h with
  | settledWrite ready h => rfl
  | quiet => exact absurd hafter hkept
  | absent h => exact absurd hafter hkept
  | published h hready => exact absurd hafter hkept
  | linked ready hperipheral h => exact absurd hafter hkept
  | declinedAlarm failed => exact absurd hafter hkept
  | wroteDateTime hperipheral hinitialized h => exact absurd h.1 hkept
  | wroteAlarm hinitialized h hready => exact absurd hafter hkept
  | settledAlarm verified hwrite h => exact absurd hafter hkept

theorem Effect.Of.settledAlarms_eq (h : effect.Of phase counts)
    (hbefore : phase.alarmWritePending = true) (hafter : effect.phase.alarmWritePending = false) :
    effect.settledAlarms = 1 := by
  have hkept : phase.alarmWritePending ≠ false := ne_false_of_eq_true hbefore
  cases h with
  | settledAlarm verified hwrite h => rfl
  | quiet => exact absurd hafter hkept
  | absent h => exact absurd hafter hkept
  | published h hready => exact absurd hafter hkept
  | linked ready hperipheral h => exact absurd hafter hkept
  | declinedAlarm failed => exact absurd hafter hkept
  | wroteDateTime hperipheral hinitialized h => exact absurd hafter hkept
  | wroteAlarm hinitialized h hready => exact absurd h.2 hkept
  | settledWrite ready h => exact absurd hafter hkept

/-! ## Deadlines -/

section Deadlines

variable {service : Service} {now : UInt32} {turn : Turn}

theorem processPendingWrite_due (h : service.processPendingWrite now = some turn)
    (hdue : 0 ≤ (now - service.rtc.writeVerifyDeadline).toInt32) :
    turn.service.rtc.writePending = false := by
  have hcleared := congrArg Phase.writePending
    (updateTime_phase { service with alarm.rtc.writePending := false }).1
  unfold Service.processPendingWrite at h
  dsimp only at h
  split at h
  · cases h
  rw [if_neg (Int32.not_lt.2 hdue)] at h
  split at h
  · cases h
    exact hcleared
  split at h
  · cases h
    exact hcleared
  · cases h
    exact hcleared

theorem processPendingAlarmWrite_due (h : service.processPendingAlarmWrite now = some turn)
    (hdue : 0 ≤ (now - service.rtc.alarmVerifyDeadline).toInt32) :
    turn.service.rtc.alarmWritePending = false := by
  have hcleared := congrArg Phase.alarmWritePending
    (refreshAlarmSnapshot_phase { service with alarm.rtc.alarmWritePending := false }).1
  unfold Service.processPendingAlarmWrite at h
  dsimp only at h
  split at h
  · cases h
  rw [if_neg (Int32.not_lt.2 hdue)] at h
  split at h
  · cases h
    exact hcleared
  split at h
  · cases h
    exact hcleared
  · cases h
    exact hcleared

/-- While something is pending a turn goes on to what is pending. -/
theorem process_pending (txResult : Transport.Result) (hsound : service.rtc.phase.Sound)
    (hready : service.rtc.phase.ready = true) :
    service.process now txResult = (service.processPendingWrite now).getD
      ((service.processPendingAlarmWrite now).getD (service.idleTurn now txResult)) := by
  have hperipheral : service.rtc.peripheralReady ≠ false := fun hnot =>
    absurd (hready.symm.trans (hsound.absent hnot).2) (by decide)
  have hinitialized : service.rtc.phase.initialized = true := by
    by_contra hnot
    exact absurd (hready.symm.trans (hsound.starting (eq_false_of_ne_true hnot)).1) (by decide)
  unfold Service.process
  rw [if_neg hperipheral, processInitialization_eq_none.2 (beq_iff_eq.1 hinitialized)]
  rfl

theorem process_writeDue (txResult : Transport.Result) (hsound : service.rtc.phase.Sound)
    (hpending : service.rtc.writePending = true)
    (hdue : 0 ≤ (now - service.rtc.writeVerifyDeadline).toInt32) :
    (service.process now txResult).service.rtc.writePending = false := by
  rw [process_pending txResult hsound (hsound.writing hpending).1]
  cases hturn : service.processPendingWrite now with
  | none => exact absurd (processPendingWrite_eq_none.1 hturn) (ne_false_of_eq_true hpending)
  | some turn => exact processPendingWrite_due hturn hdue

theorem process_alarmDue (txResult : Transport.Result) (hsound : service.rtc.phase.Sound)
    (hpending : service.rtc.alarmWritePending = true)
    (hdue : 0 ≤ (now - service.rtc.alarmVerifyDeadline).toInt32) :
    (service.process now txResult).service.rtc.alarmWritePending = false := by
  have hwrite : service.rtc.writePending = false := by
    by_contra hnot
    exact absurd (hpending.symm.trans (hsound.writing (eq_true_of_ne_false hnot)).2) (by decide)
  rw [process_pending txResult hsound (hsound.writingAlarm hpending),
    processPendingWrite_eq_none.2 hwrite]
  cases hturn : service.processPendingAlarmWrite now with
  | none => exact absurd (processPendingAlarmWrite_eq_none.1 hturn) (ne_false_of_eq_true hpending)
  | some turn => exact processPendingAlarmWrite_due hturn hdue

end Deadlines

/-! ## Accounts -/

/-- What was accepted, declined and settled since the start. -/
structure Account where
  writes : Nat := 0
  settledWrites : Nat := 0
  alarms : Nat := 0
  settledAlarms : Nat := 0
  /-- All calls for an alarm. -/
  requests : Nat := 0
  deriving DecidableEq, Repr

/-- The service, with an account of its calls. -/
structure Ledger where
  service : Service
  account : Account := {}
  deriving DecidableEq, Repr

namespace Ledger

def start (peripheralReady : Bool) (registers : Bytes) (now : UInt32) : Ledger where
  service := .initCheck peripheralReady registers now

def step (ledger : Ledger) (happening : Happening) : Ledger :=
  let turn := ledger.service.call happening
  let account := ledger.account
  { service := turn.service
    account := {
      writes := account.writes + turn.wroteDateTime.toNat
      settledWrites := account.settledWrites + turn.logged.countP settlesWrite
      alarms := account.alarms + turn.wroteAlarm.toNat
      settledAlarms := account.settledAlarms + turn.logged.countP settlesAlarm
      requests := account.requests + turn.askedAlarm.toNat } }

/-- Each request that was accepted was settled once or is pending, and the
one that is pending is settled by the first turn that its deadline has
come for. -/
structure Settled (ledger : Ledger) : Prop where
  writes : ledger.account.writes =
    ledger.account.settledWrites + ledger.service.rtc.writePending.toNat
  alarms : ledger.account.alarms =
    ledger.account.settledAlarms + ledger.service.rtc.alarmWritePending.toNat
  exclusive : ledger.service.rtc.writePending = true →
    ledger.service.rtc.alarmWritePending = false
  requests : ledger.service.rtc.alarmWriteStatus.requestCount = .ofNat ledger.account.requests
  writeDue : ledger.service.rtc.writePending = true → ∀ bus now txResult,
    0 ≤ (now - ledger.service.rtc.writeVerifyDeadline).toInt32 →
      (ledger.step (.turn bus now txResult)).account.settledWrites =
        ledger.account.settledWrites + 1
  alarmDue : ledger.service.rtc.alarmWritePending = true → ∀ bus now txResult,
    0 ≤ (now - ledger.service.rtc.alarmVerifyDeadline).toInt32 →
      (ledger.step (.turn bus now txResult)).account.settledAlarms =
        ledger.account.settledAlarms + 1

/-- The part that each call keeps. -/
structure Balanced (ledger : Ledger) : Prop where
  sound : ledger.service.rtc.phase.Sound
  writes : ledger.account.writes =
    ledger.account.settledWrites + ledger.service.rtc.phase.writePending.toNat
  alarms : ledger.account.alarms =
    ledger.account.settledAlarms + ledger.service.rtc.phase.alarmWritePending.toNat
  requests : ledger.service.rtc.alarmCounts.requests = .ofNat ledger.account.requests

theorem start_balanced (peripheralReady : Bool) (registers : Bytes) (now : UInt32) :
    (start peripheralReady registers now).Balanced := by
  cases peripheralReady with
  | false =>
    exact ⟨⟨fun _ => ⟨rfl, rfl⟩, fun h => Bool.noConfusion h, fun h => Bool.noConfusion h,
      fun h => Bool.noConfusion h⟩, rfl, rfl, rfl⟩
  | true =>
    exact ⟨⟨fun h => Bool.noConfusion h, fun _ => ⟨rfl, rfl, rfl⟩, fun h => Bool.noConfusion h,
      fun h => Bool.noConfusion h⟩, rfl, rfl, rfl⟩

variable {ledger : Ledger} {happening : Happening}

/-- In each effect the accounts and what is pending go together. -/
theorem step_balanced (h : ledger.Balanced) : (ledger.step happening).Balanced := by
  obtain ⟨hsound, hwrites, halarms, hrequests⟩ := h
  have heffect := call_effect ledger.service happening fun hnot => (hsound.starting hnot).2
  obtain ⟨hwrite, halarm, hasked⟩ := heffect.balance
  have hwrite : ledger.service.rtc.phase.writePending.toNat +
      (ledger.service.call happening).wroteDateTime.toNat =
        (ledger.service.call happening).logged.countP settlesWrite +
          (ledger.service.call happening).service.rtc.phase.writePending.toNat := hwrite
  have halarm : ledger.service.rtc.phase.alarmWritePending.toNat +
      (ledger.service.call happening).wroteAlarm.toNat =
        (ledger.service.call happening).logged.countP settlesAlarm +
          (ledger.service.call happening).service.rtc.phase.alarmWritePending.toNat := halarm
  refine ⟨hsound.of_effect heffect, ?_, ?_, ?_⟩
  · show ledger.account.writes + (ledger.service.call happening).wroteDateTime.toNat =
      ledger.account.settledWrites + (ledger.service.call happening).logged.countP settlesWrite +
        (ledger.service.call happening).service.rtc.phase.writePending.toNat
    omega
  · show ledger.account.alarms + (ledger.service.call happening).wroteAlarm.toNat =
      ledger.account.settledAlarms + (ledger.service.call happening).logged.countP settlesAlarm +
        (ledger.service.call happening).service.rtc.phase.alarmWritePending.toNat
    omega
  · refine hasked.trans ?_
    rw [hrequests]
    exact (UInt32.ofNat_add ..).symm

theorem run_balanced (h : ledger.Balanced) (happenings : List Happening) :
    (run step ledger happenings).Balanced :=
  run_invariant (fun _ _ h => step_balanced h) happenings _ h

end Ledger

/-- **Each date and time and each alarm that is accepted is settled once**,
with an entry of the log that says what became of it, and at the latest by
the first turn that its deadline has come for. -/
theorem requests_settled (peripheralReady : Bool) (registers : Bytes) (now : UInt32)
    (happenings : List Happening) :
    (run Ledger.step (.start peripheralReady registers now) happenings).Settled := by
  have hbalanced :=
    Ledger.run_balanced (Ledger.start_balanced peripheralReady registers now) happenings
  generalize run Ledger.step (.start peripheralReady registers now) happenings = ledger at hbalanced
  obtain ⟨hsound, hwrites, halarms, hrequests⟩ := hbalanced
  refine ⟨hwrites, halarms, fun hpending => (hsound.writing hpending).2, hrequests, ?_, ?_⟩
  · intro hpending bus now txResult hdue
    have heffect := call_effect ledger.service (.turn bus now txResult) fun hnot =>
      (hsound.starting hnot).2
    exact congrArg _ (heffect.settledWrites_eq hpending
      (@process_writeDue (ledger.service.meet bus) now txResult hsound hpending hdue))
  · intro hpending bus now txResult hdue
    have heffect := call_effect ledger.service (.turn bus now txResult) fun hnot =>
      (hsound.starting hnot).2
    exact congrArg _ (heffect.settledAlarms_eq hpending
      (@process_alarmDue (ledger.service.meet bus) now txResult hsound hpending hdue))

end Rtc

end CanGui
