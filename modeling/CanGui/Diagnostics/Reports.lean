import CanGui.Common.Ascent
import CanGui.Common.Run
import CanGui.Diagnostics.Capture
import Mathlib.Algebra.BigOperators.Fin
/-!
# Diagnostics — the log tells what the counters rose by

A run from an initialisation: the captures it made, and what it pushed.
What was logged of a counter adds up to what the captures saw it rise by;
a counter that never fell is logged in full. An issue is latched exactly
if a capture saw it.
-/

namespace CanGui

namespace Diagnostics

/-- The counters of the receive path and the transport that are logged. -/
inductive Counter where
  | queueOverflow
  | rxBudgetHit
  | rxWatermark
  | rxFull
  | rxMessageLost
  deriving DecidableEq, Repr

def Counter.count (inputs : Inputs) : Counter → UInt32
  | .queueOverflow => inputs.canTx.queueOverflow
  | .rxBudgetHit => inputs.canRx.rxBudgetHits
  | .rxWatermark => inputs.rxHealth.watermarkEvents
  | .rxFull => inputs.rxHealth.fullEvents
  | .rxMessageLost => inputs.rxHealth.messageLostEvents

def Counter.eventCode : Counter → LogEvent
  | .queueOverflow => .canTxQueueOverflow
  | .rxBudgetHit => .canRxBudgetExhausted
  | .rxWatermark => .canRxFifoWatermark
  | .rxFull => .canRxFifoFull
  | .rxMessageLost => .canRxMessageLost

def Counter.last (lastLogged : LastLogged) : Counter → UInt32
  | .queueOverflow => lastLogged.queueOverflow
  | .rxBudgetHit => lastLogged.rxBudgetHit
  | .rxWatermark => lastLogged.rxWatermark
  | .rxFull => lastLogged.rxFull
  | .rxMessageLost => lastLogged.rxMessageLost

def overruns (service : Fin Timing.serviceCount) (inputs : Inputs) : UInt32 :=
  (serviceOf inputs.timing service).overrunCount

/-- The issue is there when a capture looks. -/
def IssueFlag.shows (inputs : Inputs) : IssueFlag → Prop
  | .canRxHal => inputs.canRx.halRxErrors ≠ 0
  | .canTxHal => inputs.canTx.halError ≠ 0
  | .txQueueOverflow => inputs.canTx.queueOverflow ≠ 0
  | .txQueueStuck => inputs.canTx.queueStuckEvents ≠ 0
  | .canRxBudget => inputs.canRx.rxBudgetHits ≠ 0
  | .canRxPressure => inputs.rxHealth.watermarkEvents ≠ 0 ∨ inputs.rxHealth.fullEvents ≠ 0
  | .canRxLost => inputs.rxHealth.messageLostEvents ≠ 0
  | .timingOverrun => False

/-! ## Runs -/

/-- The captures since the initialisation, with their times, and what they
pushed. -/
structure History where
  state : State
  captures : List (UInt32 × Inputs)
  pushes : List LogPush

inductive Event where
  | init (inputs : Inputs) (now : UInt32)
  | process (inputs : Inputs) (now : UInt32)

def start (inputs : Inputs) (now : UInt32) : History where
  state := (init inputs now).1
  captures := [(now, inputs)]
  pushes := (init inputs now).2

def step (history : History) : Event → History
  | .init inputs now => start inputs now
  | .process inputs now =>
    { state := (process history.state inputs now).1
      captures :=
        if now - history.state.lastUpdateTick < updatePeriodMs then history.captures
        else history.captures ++ [(now, inputs)]
      pushes := history.pushes ++ (process history.state inputs now).2 }

/-- A count as the captures saw it. -/
def seen (count : Inputs → UInt32) (captures : List (UInt32 × Inputs)) : List ℕ :=
  captures.map fun capture => (count capture.2).toNat

/-- What was logged of a counter. -/
def logged (counter : Counter) (pushes : List LogPush) : ℕ :=
  ((pushes.filter fun push => push.eventCode = counter.eventCode).map fun push =>
    push.data0.toNat).sum

/-- What was logged of the overruns of a service: its number is in the low
byte. -/
def loggedOverruns (service : Fin Timing.serviceCount) (pushes : List LogPush) : ℕ :=
  ((pushes.filter fun push =>
      push.eventCode = .timingOverrun && push.data0.toNat % 256 = service.val).map fun push =>
    push.data0.toNat / 256).sum

/-- A capture saw the issue; an overrun is one that was not there before. -/
def Seen (captures : List (UInt32 × Inputs)) (flag : IssueFlag) : Prop :=
  (∃ capture ∈ captures, flag.shows capture.2) ∨
    (flag = .timingOverrun ∧
      ∃ service, ∃ rise ∈ rises 0 (seen (overruns service) captures), 0 < rise)

def latched (snapshot : Snapshot) (flag : IssueFlag) : Prop :=
  snapshot.latchedIssueFlags &&& flag.toWord ≠ 0

/-! ## What one capture logs -/

variable {inputs : Inputs} {now : UInt32} {state : State} {current last : UInt32}
variable {severity : LogSeverity} {eventCode : LogEvent} {counter : Counter}
variable {service : Fin Timing.serviceCount} {pushes pushes' : List LogPush}

theorem logged_append : logged counter (pushes ++ pushes') =
    logged counter pushes + logged counter pushes' := by
  rw [logged, List.filter_append, List.map_append, List.sum_append, logged, logged]

theorem loggedOverruns_append : loggedOverruns service (pushes ++ pushes') =
    loggedOverruns service pushes + loggedOverruns service pushes' := by
  rw [loggedOverruns, List.filter_append, List.map_append, List.sum_append, loggedOverruns,
    loggedOverruns]

/-- The count logged last is the count. -/
theorem logCounterDelta_last : (logCounterDelta current last severity eventCode).2 = current := by
  unfold logCounterDelta
  split
  · rfl
  next hle =>
  split
  · rfl
  next hge =>
    have hequal : last.toNat = current.toNat := by
      rw [UInt32.lt_iff_toNat_lt] at hle
      rw [gt_iff_lt, UInt32.lt_iff_toNat_lt] at hge
      omega
    exact UInt32.toNat_inj.1 hequal

/-- What is logged is the truncated difference, under its event. -/
theorem logged_logCounterDelta :
    logged counter (logCounterDelta current last severity eventCode).1 =
      if eventCode = counter.eventCode then current.toNat - last.toNat else 0 := by
  unfold logCounterDelta
  split
  · next hless =>
    rw [UInt32.lt_iff_toNat_lt] at hless
    have hzero : current.toNat - last.toNat = 0 := by omega
    rw [hzero, ite_self]
    rfl
  split
  · next hmore =>
    rw [gt_iff_lt, UInt32.lt_iff_toNat_lt] at hmore
    have hdelta : (current - last).toNat = current.toNat - last.toNat :=
      UInt32.toNat_sub_of_le _ _ (UInt32.le_iff_toNat_le.2 (by omega))
    by_cases hevent : eventCode = counter.eventCode
    · simp [logged, hevent, hdelta]
    · simp [logged, hevent]
  · next hmore =>
    rw [gt_iff_lt, UInt32.lt_iff_toNat_lt] at hmore
    have hzero : current.toNat - last.toNat = 0 := by omega
    rw [hzero, ite_self]
    rfl

theorem loggedOverruns_logCounterDelta (h : eventCode ≠ .timingOverrun) :
    loggedOverruns service (logCounterDelta current last severity eventCode).1 = 0 := by
  unfold logCounterDelta
  split
  · rfl
  split
  · simp [loggedOverruns, h]
  · rfl

/-- The two parts of the packed word. -/
theorem toNat_packedServiceDelta (service delta : UInt32) (hservice : service.toNat < 256) :
    (packedServiceDelta service delta).toNat =
      service.toNat + 256 * min delta.toNat 0xFFFFFF := by
  have hmin : (if delta > 0x00FFFFFF then 0x00FFFFFF else delta : UInt32).toNat =
      min delta.toNat 0xFFFFFF := by
    split
    · next hmore =>
      rw [gt_iff_lt, UInt32.lt_iff_toNat_lt] at hmore
      simp only [UInt32.reduceToNat] at hmore ⊢
      omega
    · next hless =>
      rw [gt_iff_lt, UInt32.lt_iff_toNat_lt] at hless
      simp only [UInt32.reduceToNat] at hless
      omega
  have hlow : (service &&& 0xFF).toNat = service.toNat := by
    rw [UInt32.toNat_and]
    exact (Nat.and_two_pow_sub_one_eq_mod service.toNat 8).trans (Nat.mod_eq_of_lt hservice)
  unfold packedServiceDelta
  rw [UInt32.toNat_or, hlow, UInt32.toNat_shiftLeft, hmin]
  simp only [UInt32.reduceToNat, Nat.reduceMod]
  rw [Nat.shiftLeft_eq, Nat.mod_eq_of_lt (by omega), ← Nat.shiftLeft_eq, Nat.or_comm,
    ← Nat.shiftLeft_add_eq_or_of_lt hservice, Nat.shiftLeft_eq]
  omega

theorem logOverrun_last {timing : Timing.State} :
    (logOverrun timing last service).2 = (serviceOf timing service).overrunCount := by
  unfold logOverrun
  dsimp only
  split
  · rfl
  next hle =>
  split
  · rfl
  next hge =>
    have hequal : last.toNat = (serviceOf timing service).overrunCount.toNat := by
      rw [UInt32.lt_iff_toNat_lt] at hle
      rw [gt_iff_lt, UInt32.lt_iff_toNat_lt] at hge
      omega
    exact UInt32.toNat_inj.1 hequal

/-- A round of the loop pushes if the count has risen, and then once. -/
theorem logOverrun_cases (timing : Timing.State) (last : UInt32)
    (service : Fin Timing.serviceCount) :
    ((logOverrun timing last service).1 = [] ∧
        (serviceOf timing service).overrunCount.toNat - last.toNat = 0) ∨
      ∃ push, (logOverrun timing last service).1 = [push] ∧ push.eventCode = .timingOverrun ∧
        push.data0.toNat = service.val +
          256 * min ((serviceOf timing service).overrunCount.toNat - last.toNat) 0xFFFFFF ∧
        0 < (serviceOf timing service).overrunCount.toNat - last.toNat := by
  unfold logOverrun
  dsimp only
  split
  · next hless =>
    rw [UInt32.lt_iff_toNat_lt] at hless
    exact .inl ⟨rfl, by omega⟩
  split
  · next hmore =>
    rw [gt_iff_lt, UInt32.lt_iff_toNat_lt] at hmore
    have hlt : service.val < 8 := service.isLt
    have hservice : (UInt32.ofNat service.val).toNat = service.val := by
      refine UInt32.toNat_ofNat_of_lt' ?_
      rw [UInt32.size]
      omega
    have hdelta : ((serviceOf timing service).overrunCount - last).toNat =
        (serviceOf timing service).overrunCount.toNat - last.toNat :=
      UInt32.toNat_sub_of_le _ _ (UInt32.le_iff_toNat_le.2 (by omega))
    refine .inr ⟨_, rfl, rfl, ?_, by omega⟩
    rw [toNat_packedServiceDelta _ _ (by omega), hservice, hdelta]
  · next hmore =>
    rw [gt_iff_lt, UInt32.lt_iff_toNat_lt] at hmore
    exact .inl ⟨rfl, by omega⟩

theorem loggedOverruns_logOverrun (timing : Timing.State) (last : UInt32)
    (other : Fin Timing.serviceCount) :
    loggedOverruns service (logOverrun timing last other).1 =
      if other = service then
        min ((serviceOf timing other).overrunCount.toNat - last.toNat) 0xFFFFFF
      else
        0 := by
  have hlt : other.val < 8 := other.isLt
  rcases logOverrun_cases timing last other with ⟨hnone, hzero⟩ | ⟨push, hpush, hevent, hdata, -⟩
  · rw [hnone, hzero, Nat.zero_min, ite_self]
    rfl
  · have hlow : push.data0.toNat % 256 = other.val := by omega
    have hhigh : push.data0.toNat / 256 =
        min ((serviceOf timing other).overrunCount.toNat - last.toNat) 0xFFFFFF := by omega
    rw [hpush]
    by_cases hother : other = service
    · subst hother
      simp [loggedOverruns, hevent, hlow, hhigh]
    · have hne : other.val ≠ service.val := fun h => hother (Fin.ext h)
      simp [loggedOverruns, hevent, hlow, hother, hne]

/-- The loop logs every service for itself. -/
theorem loggedOverruns_loop (timing : Timing.State) (last : Fin Timing.serviceCount → UInt32) :
    loggedOverruns service ((List.finRange Timing.serviceCount).flatMap fun other =>
        (logOverrun timing (last other) other).1) =
      min ((serviceOf timing service).overrunCount.toNat - (last service).toNat) 0xFFFFFF := by
  have hsum : ∀ services : List (Fin Timing.serviceCount),
      loggedOverruns service (services.flatMap fun other => (logOverrun timing (last other) other).1) =
        (services.map fun other => loggedOverruns service
          (logOverrun timing (last other) other).1).sum := by
    intro services
    induction services with
    | nil => rfl
    | cons other services ih =>
      rw [List.flatMap_cons, loggedOverruns_append, ih, List.map_cons, List.sum_cons]
  rw [hsum, ← Fin.sum_univ_def]
  simp only [loggedOverruns_logOverrun]
  exact (Finset.sum_ite_eq' Finset.univ service _).trans (if_pos (Finset.mem_univ service))

theorem mem_loop {timing : Timing.State} {last : Fin Timing.serviceCount → UInt32} {push : LogPush}
    (h : push ∈ (List.finRange Timing.serviceCount).flatMap fun other =>
      (logOverrun timing (last other) other).1) : push.eventCode = .timingOverrun := by
  obtain ⟨other, -, hpush⟩ := List.mem_flatMap.1 h
  rcases logOverrun_cases timing (last other) other with ⟨hnone, -⟩ | ⟨pushed, hpushed, hevent, -⟩
  · rw [hnone] at hpush
    exact absurd hpush List.not_mem_nil
  · rw [hpushed, List.mem_singleton] at hpush
    rw [hpush, hevent]

theorem loop_ne_nil {timing : Timing.State} {last : Fin Timing.serviceCount → UInt32} :
    ((List.finRange Timing.serviceCount).flatMap fun other =>
        (logOverrun timing (last other) other).1) ≠ [] ↔
      ∃ other, 0 < (serviceOf timing other).overrunCount.toNat - (last other).toNat := by
  rw [Ne, List.flatMap_eq_nil_iff, not_forall]
  refine exists_congr fun other => ?_
  rcases logOverrun_cases timing (last other) other with ⟨hnone, hzero⟩ | ⟨push, hpush, -, -, hpos⟩
  · simp only [hnone, hzero, List.mem_finRange, Nat.lt_irrefl, not_true_eq_false, implies_true]
  · simp only [hpush, List.mem_finRange, forall_const, List.cons_ne_nil, not_false_eq_true,
      true_iff]
    exact hpos

theorem logged_loop {timing : Timing.State} {last : Fin Timing.serviceCount → UInt32} :
    logged counter ((List.finRange Timing.serviceCount).flatMap fun other =>
      (logOverrun timing (last other) other).1) = 0 := by
  have hnone : ((List.finRange Timing.serviceCount).flatMap fun other =>
      (logOverrun timing (last other) other).1).filter
        (fun push => push.eventCode = counter.eventCode) = [] := by
    rw [List.filter_eq_nil_iff]
    intro push hpush
    rw [mem_loop hpush]
    cases counter <;> simp [Counter.eventCode]
  rw [logged, hnone]
  rfl

/-- **One capture** logs what each counter rose by since the last. -/
theorem capture_logged :
    logged counter (capture state inputs now).2 =
      (counter.count inputs).toNat - (counter.last state.lastLogged).toNat := by
  unfold capture
  dsimp only
  simp only [logged_append, logged_logCounterDelta, logged_loop]
  cases counter <;> simp [Counter.eventCode, Counter.count, Counter.last]

theorem capture_loggedOverruns :
    loggedOverruns service (capture state inputs now).2 =
      min ((overruns service inputs).toNat - (state.lastLogged.timingOverrun service).toNat)
        0xFFFFFF := by
  unfold capture
  dsimp only
  simp only [loggedOverruns_append]
  rw [loggedOverruns_loop, loggedOverruns_logCounterDelta (by simp),
    loggedOverruns_logCounterDelta (by simp), loggedOverruns_logCounterDelta (by simp),
    loggedOverruns_logCounterDelta (by simp), loggedOverruns_logCounterDelta (by simp)]
  rw [overruns]
  omega

theorem capture_last :
    counter.last (capture state inputs now).1.lastLogged = counter.count inputs := by
  unfold capture
  dsimp only
  cases counter <;> exact logCounterDelta_last

theorem capture_lastOverrun :
    (capture state inputs now).1.lastLogged.timingOverrun service = overruns service inputs := by
  unfold capture
  dsimp only
  exact logOverrun_last

theorem capture_snapshot (state : State) (inputs : Inputs) (now : UInt32) :
    (capture state inputs now).1.snapshot.updateCount = state.snapshot.updateCount + 1 ∧
      (capture state inputs now).1.snapshot.rejectedFramesTotal = rejectedFrames inputs.canRx ∧
      (capture state inputs now).1.lastUpdateTick = state.lastUpdateTick := by
  unfold capture
  exact ⟨rfl, rfl, rfl⟩

/-! ## Flags -/

/-- The bits of the flags are apart. -/
theorem toWord_and (flag flag' : IssueFlag) :
    flag.toWord &&& flag'.toWord = if flag = flag' then flag'.toWord else 0 := by
  cases flag <;> cases flag' <;> decide

theorem toWord_ne_zero (flag : IssueFlag) : flag.toWord ≠ 0 := by
  cases flag <;> decide

theorem latch_and (issue : Bool) (flag flag' : IssueFlag) (flags : UInt32) :
    latch issue flag flags &&& flag'.toWord ≠ 0 ↔
      flags &&& flag'.toWord ≠ 0 ∨ (issue = true ∧ flag = flag') := by
  have hdistrib : (flags ||| flag.toWord) &&& flag'.toWord =
      (flags &&& flag'.toWord) ||| (flag.toWord &&& flag'.toWord) :=
    UInt32.toBitVec_inj.1 BitVec.and_or_distrib_right
  unfold latch
  by_cases hissue : issue = true
  · rw [if_pos hissue, hdistrib, toWord_and]
    by_cases hflag : flag = flag'
    · simp [hissue, hflag, toWord_ne_zero, UInt32.or_eq_zero_iff]
    · simp [hissue, hflag]
  · simp [hissue]

theorem latchIssues_and (flag : IssueFlag) (flags : UInt32) :
    latchIssues inputs flags &&& flag.toWord ≠ 0 ↔
      flags &&& flag.toWord ≠ 0 ∨ flag.shows inputs := by
  unfold latchIssues
  dsimp only
  simp only [latch_and]
  cases flag <;> simp [IssueFlag.shows]

theorem capture_latched (flag : IssueFlag) :
    latched (capture state inputs now).1.snapshot flag ↔
      latched state.snapshot flag ∨ flag.shows inputs ∨ (flag = .timingOverrun ∧
        ∃ service, 0 <
          (overruns service inputs).toNat - (state.lastLogged.timingOverrun service).toNat) := by
  unfold latched capture
  dsimp only
  rw [latch_and, latchIssues_and, or_assoc]
  refine or_congr_right (or_congr_right ?_)
  rw [Bool.not_eq_true', List.isEmpty_eq_false_iff, loop_ne_nil, and_comm, eq_comm (a := flag)]
  exact Iff.rfl

/-! ## The books of a run -/

/-- The history agrees with the state: what was pushed with what the
captures saw, and the state with the last of them. -/
structure Books (history : History) : Prop where
  counters : ∀ counter : Counter, logged counter history.pushes =
    (rises 0 (seen (counter.count ·) history.captures)).sum
  services : ∀ service, loggedOverruns service history.pushes =
    ((rises 0 (seen (overruns service) history.captures)).map (min · 0xFFFFFF)).sum
  lastCounter : ∀ counter : Counter, (counter.last history.state.lastLogged).toNat =
    (seen (counter.count ·) history.captures).getLastD 0
  lastService : ∀ service, (history.state.lastLogged.timingOverrun service).toNat =
    (seen (overruns service) history.captures).getLastD 0
  flags : ∀ flag, latched history.state.snapshot flag ↔ Seen history.captures flag
  updates : history.state.snapshot.updateCount = UInt32.ofNat history.captures.length
  spaced : (history.captures.map Prod.fst).IsChain fun tick next => updatePeriodMs ≤ next - tick
  last : ∃ capture earlier, history.captures = earlier ++ [capture] ∧
    history.state.lastUpdateTick = capture.1 ∧
    history.state.snapshot.rejectedFramesTotal = rejectedFrames capture.2.canRx

variable {history : History}

theorem seen_append (count : Inputs → UInt32) (captures : List (UInt32 × Inputs)) :
    seen count (captures ++ [(now, inputs)]) = seen count captures ++ [(count inputs).toNat] := by
  rw [seen, List.map_append]
  rfl

/-- A capture behind those of a history, or the first one. -/
theorem capture_books {captures : List (UInt32 × Inputs)}
    (hcounters : ∀ counter : Counter,
      logged counter pushes = (rises 0 (seen (counter.count ·) captures)).sum)
    (hservices : ∀ service, loggedOverruns service pushes =
      ((rises 0 (seen (overruns service) captures)).map (min · 0xFFFFFF)).sum)
    (hlastCounter : ∀ counter : Counter, (counter.last state.lastLogged).toNat =
      (seen (counter.count ·) captures).getLastD 0)
    (hlastService : ∀ service, (state.lastLogged.timingOverrun service).toNat =
      (seen (overruns service) captures).getLastD 0)
    (hflags : ∀ flag, latched state.snapshot flag ↔ Seen captures flag)
    (hupdates : state.snapshot.updateCount = UInt32.ofNat captures.length)
    (hspaced : (captures.map Prod.fst ++ [now]).IsChain fun tick next =>
      updatePeriodMs ≤ next - tick)
    (htick : state.lastUpdateTick = now) :
    Books { state := (capture state inputs now).1
            captures := captures ++ [(now, inputs)]
            pushes := pushes ++ (capture state inputs now).2 } where
  counters counter := by
    dsimp only
    rw [logged_append, hcounters, capture_logged, seen_append, rises_append_singleton,
      List.sum_append, List.sum_singleton, hlastCounter]
  services service := by
    dsimp only
    rw [loggedOverruns_append, hservices, capture_loggedOverruns, seen_append,
      rises_append_singleton, List.map_append, List.sum_append, List.map_singleton,
      List.sum_singleton, hlastService]
  lastCounter counter := by
    dsimp only
    rw [capture_last, seen_append, List.getLastD_concat]
  lastService service := by
    dsimp only
    rw [capture_lastOverrun, seen_append, List.getLastD_concat]
  flags flag := by
    dsimp only
    rw [capture_latched, hflags, Seen, Seen]
    -- an issue was seen before, or by this capture
    have hrise : (∃ service, ∃ rise ∈ rises 0 (seen (overruns service) (captures ++ [(now, inputs)])),
        0 < rise) ↔ (∃ service, ∃ rise ∈ rises 0 (seen (overruns service) captures), 0 < rise) ∨
          ∃ service, 0 < (overruns service inputs).toNat -
            (state.lastLogged.timingOverrun service).toNat := by
      rw [← exists_or]
      refine exists_congr fun service => ?_
      rw [seen_append, rises_append_singleton, hlastService]
      simp only [List.mem_append, List.mem_singleton, or_and_right, exists_or, exists_eq_left]
    have hshows : (∃ capture ∈ captures ++ [(now, inputs)], flag.shows capture.2) ↔
        (∃ capture ∈ captures, flag.shows capture.2) ∨ flag.shows inputs := by
      simp only [List.mem_append, List.mem_singleton, or_and_right, exists_or, exists_eq_left]
    rw [hrise, hshows, and_or_left, or_or_or_comm]
  updates := by
    dsimp only
    rw [(capture_snapshot state inputs now).1, List.length_append, List.length_singleton,
      UInt32.ofNat_add, ← hupdates]
    rfl
  spaced := by
    dsimp only
    rw [List.map_append]
    exact hspaced
  last := by
    obtain ⟨-, hrejected, hsame⟩ := capture_snapshot state inputs now
    exact ⟨(now, inputs), captures, rfl, hsame.trans htick, hrejected⟩

theorem start_books (inputs : Inputs) (now : UInt32) : Books (start inputs now) := by
  have hnone : ∀ flag, latched ({} : Snapshot) flag ↔ Seen [] flag := by
    intro flag
    refine iff_of_false ?_ ?_
    · simp [latched]
    · rintro (⟨capture, hcapture, -⟩ | ⟨-, service, rise, hrise, -⟩)
      · exact List.not_mem_nil hcapture
      · exact List.not_mem_nil hrise
  refine @capture_books inputs now { lastUpdateTick := now } [] [] (fun counter => ?_)
    (fun service => rfl) (fun counter => ?_) (fun service => rfl) hnone rfl
    (List.isChain_singleton now) rfl
  · cases counter <;> rfl
  · cases counter <;> rfl

theorem step_books (history : History) (event : Event) (h : Books history) :
    Books (step history event) := by
  cases event with
  | init inputs now => exact start_books inputs now
  | process inputs now =>
    unfold step process
    dsimp only
    by_cases hearly : now - history.state.lastUpdateTick < updatePeriodMs
    · rw [if_pos hearly, if_pos hearly, List.append_nil]
      exact h
    · obtain ⟨capture, earlier, hcaptures, htick, -⟩ := h.last
      rw [if_neg hearly, if_neg hearly]
      refine capture_books h.counters h.services h.lastCounter h.lastService h.flags h.updates ?_ rfl
      have hspaced := h.spaced
      rw [hcaptures, List.map_append, List.map_singleton] at hspaced ⊢
      rw [List.append_assoc]
      refine List.isChain_split.2 ⟨hspaced, ?_⟩
      rw [← htick]
      exact List.isChain_pair.2 (UInt32.not_lt.1 hearly)

/-- **The log tells what the counters rose by**, over every run since an
initialisation: of each counter what the captures saw it rise by, all of
what it shows if it never fell; of each service its overruns, as far as an
entry can hold them. An issue is latched exactly if a capture saw it, and
the captures are at least the period apart. -/
theorem counters_reported (inputs : Inputs) (now : UInt32) (events : List Event) :
    let history := run step (start inputs now) events
    (∀ counter : Counter, logged counter history.pushes =
        (rises 0 (seen (counter.count ·) history.captures)).sum) ∧
      (∀ counter : Counter, (0 :: seen (counter.count ·) history.captures).IsChain (· ≤ ·) →
        logged counter history.pushes = (counter.last history.state.lastLogged).toNat) ∧
      (∀ service, loggedOverruns service history.pushes =
        ((rises 0 (seen (overruns service) history.captures)).map (min · 0xFFFFFF)).sum) ∧
      (∀ flag, latched history.state.snapshot flag ↔ Seen history.captures flag) ∧
      history.state.snapshot.updateCount = UInt32.ofNat history.captures.length ∧
      (history.captures.map Prod.fst).IsChain fun tick next => updatePeriodMs ≤ next - tick := by
  intro history
  have hbooks : Books history := run_invariant step_books events _ (start_books inputs now)
  refine ⟨hbooks.counters, fun counter hchain => ?_, hbooks.services, hbooks.flags, hbooks.updates,
    hbooks.spaced⟩
  rw [hbooks.counters, hbooks.lastCounter, ← sum_rises_of_isChain _ 0 hchain, Nat.zero_add]

end Diagnostics

end CanGui
