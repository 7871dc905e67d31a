import CanGui.Common.Run
import CanGui.Watchdog.Evidence
import Mathlib.Data.Fintype.Powerset
/-!
# The watchdog gate

The parts of the program check in; a health check every 250 ms or later
refreshes the watchdog if all of them have, and leaves what it found as
evidence. `Duty` is what the gate is for, in its own terms: who has
checked in since the last health check, and what that one found. The gate
runs in step with it over any number of boots (`matches_run`), and so
`evidence_over_boots` holds.
-/

namespace CanGui

namespace Watchdog

def refreshPeriodMs : UInt32 := 250
def mainLoopHeartbeat : UInt32 := 1
def canAppHeartbeat : UInt32 := 2
def rtcServiceHeartbeat : UInt32 := 4

def requiredHeartbeats : UInt32 :=
  mainLoopHeartbeat ||| canAppHeartbeat ||| rtcServiceHeartbeat

/-! ## Data -/

structure IwdgHandle where
  instanceAddress : UInt32
  prescaler : UInt32
  window : UInt32
  reload : UInt32
  deriving DecidableEq, Repr

def iwdg1 : UInt32 := 0x58004800
def prescaler128 : UInt32 := 5
def windowDisable : UInt32 := 0xFFF
def reloadValue : UInt32 := 999

/-- What is kept of one heartbeat. -/
structure HeartbeatCounter where
  count : UInt32 := 0
  lastTick : UInt32 := 0
  maxIntervalMs : UInt32 := 0
  deriving DecidableEq, Repr

structure Diagnostics where
  initCount : UInt32 := 0
  initErrorCount : UInt32 := 0
  refreshCount : UInt32 := 0
  refreshErrorCount : UInt32 := 0
  lastRefreshTick : UInt32 := 0
  lastHealthCheckTick : UInt32 := 0
  requiredHeartbeatMask : UInt32 := 0
  reportedHeartbeatMask : UInt32 := 0
  observedHeartbeatMask : UInt32 := 0
  lastMissingHeartbeatMask : UInt32 := 0
  healthGateRejectCount : UInt32 := 0
  mainLoop : HeartbeatCounter := {}
  canApp : HeartbeatCounter := {}
  rtcService : HeartbeatCounter := {}
  initialized : Bool := false
  deriving DecidableEq, Repr

structure State where
  iwdg : Option IwdgHandle := none
  diagnostics : Diagnostics := {}
  store : EvidenceStore
  deriving DecidableEq, Repr

/-! ## The functions -/

def recordHeartbeat (counter : HeartbeatCounter) (now : UInt32) : HeartbeatCounter :=
  let maxIntervalMs :=
    if counter.count ≠ 0 then
      if now - counter.lastTick > counter.maxIntervalMs then now - counter.lastTick
      else counter.maxIntervalMs
    else
      counter.maxIntervalMs
  { count := counter.count + 1, lastTick := now, maxIntervalMs }

def IwdgHandle.isAccepted (watchdog : IwdgHandle) : Bool :=
  watchdog.instanceAddress = iwdg1 && watchdog.prescaler = prescaler128 &&
    watchdog.window = windowDisable && watchdog.reload = reloadValue

/-- Whether the start succeeds, and the state after it. -/
def init (state : State) (watchdog : Option IwdgHandle) (now : UInt32) : Bool × State :=
  match watchdog.filter IwdgHandle.isAccepted with
  | none =>
    (false,
      { state with
        diagnostics :=
          { state.diagnostics with
            initErrorCount := state.diagnostics.initErrorCount + 1 } })
  | some watchdog =>
    (true,
      { iwdg := some watchdog
        diagnostics :=
          { state.diagnostics with
            initialized := true
            requiredHeartbeatMask := requiredHeartbeats
            reportedHeartbeatMask := 0
            observedHeartbeatMask := 0
            lastMissingHeartbeatMask := 0
            initCount := state.diagnostics.initCount + 1
            lastRefreshTick := now
            lastHealthCheckTick := now }
        store :=
          record state.store
            { cause := EvidenceCause.hardStall.code
              requiredHeartbeatMask := requiredHeartbeats
              observedHeartbeatMask := 0
              missingHeartbeatMask := 0
              healthCheckTick := now
              refreshTick := now } })

def checkIn (state : State) (heartbeat now : UInt32) : State :=
  if !state.diagnostics.initialized then
    state
  else
    let heartbeatMask := heartbeat &&& requiredHeartbeats
    let counted (flag : UInt32) (counter : HeartbeatCounter) : HeartbeatCounter :=
      if heartbeatMask &&& flag ≠ 0 then recordHeartbeat counter now else counter
    { state with
      diagnostics :=
        { state.diagnostics with
          reportedHeartbeatMask := state.diagnostics.reportedHeartbeatMask ||| heartbeatMask
          mainLoop := counted mainLoopHeartbeat state.diagnostics.mainLoop
          canApp := counted canAppHeartbeat state.diagnostics.canApp
          rtcService := counted rtcServiceHeartbeat state.diagnostics.rtcService
          observedHeartbeatMask := state.diagnostics.observedHeartbeatMask ||| heartbeatMask } }

/-- Whether the watchdog is refreshed, and the state after it. The refresh
succeeds if `refreshOk`. -/
def process (state : State) (now : UInt32) (refreshOk : Bool) : Bool × State :=
  if !state.diagnostics.initialized then
    (false, state)
  else if now - state.diagnostics.lastHealthCheckTick < refreshPeriodMs then
    (false, state)
  else
    let observedMask := state.diagnostics.observedHeartbeatMask
    let missingMask := requiredHeartbeats &&& ~~~observedMask
    let diagnostics :=
      { state.diagnostics with
        lastHealthCheckTick := now
        reportedHeartbeatMask := 0
        observedHeartbeatMask := 0
        lastMissingHeartbeatMask := missingMask }
    let finding (cause : EvidenceCause) (missingMask refreshTick : UInt32) : Finding :=
      { cause := cause.code
        requiredHeartbeatMask := requiredHeartbeats
        observedHeartbeatMask := observedMask
        missingHeartbeatMask := missingMask
        healthCheckTick := now
        refreshTick }
    if missingMask ≠ 0 then
      (false,
        { state with
          diagnostics :=
            { diagnostics with
              healthGateRejectCount := diagnostics.healthGateRejectCount + 1 }
          store :=
            record state.store
              (finding .healthGateRejected missingMask diagnostics.lastRefreshTick) })
    else if refreshOk then
      (true,
        { state with
          diagnostics :=
            { diagnostics with
              refreshCount := diagnostics.refreshCount + 1
              lastRefreshTick := now }
          store := record state.store (finding .hardStall 0 now) })
    else
      (true,
        { state with
          diagnostics :=
            { diagnostics with
              refreshErrorCount := diagnostics.refreshErrorCount + 1 }
          store := record state.store (finding .refreshError 0 diagnostics.lastRefreshTick) })

/-! ## Boots and runs -/

/-- A watchdog the gate starts with. -/
def AcceptedHandle : Type := { watchdog : IwdgHandle // watchdog.isAccepted = true }

inductive Event where
  /-- A reset, and the boot after it: the capture, then the start. -/
  | boot (wasIwdgReset : Bool) (watchdog : AcceptedHandle) (now : UInt32)
  | checkIn (heartbeat now : UInt32)
  | process (now : UInt32) (refreshOk : Bool)

/-- The statics cleared, the memory kept. -/
def powered (retained : RetainedRecord) : State := { store := { retained } }

/-- The capture at the start of a boot. -/
def booted (state : State) (wasIwdgReset : Bool) : State :=
  { powered state.store.retained with
    store := captured state.store.retained wasIwdgReset }

def step (state : State) : Event → State
  | .boot wasIwdgReset watchdog now =>
    (init (booted state wasIwdgReset) (some watchdog.1) now).2
  | .checkIn heartbeat now => checkIn state heartbeat now
  | .process now refreshOk => (process state now refreshOk).2

/-! ## What the gate is for -/

inductive Heartbeat where
  | mainLoop
  | canApp
  | rtcService
  deriving DecidableEq, Repr

instance : Fintype Heartbeat :=
  ⟨{.mainLoop, .canApp, .rtcService}, fun heartbeat => by cases heartbeat <;> decide⟩

def Heartbeat.flag : Heartbeat → UInt32
  | mainLoop => mainLoopHeartbeat
  | canApp => canAppHeartbeat
  | rtcService => rtcServiceHeartbeat

/-- The heartbeats a call checks in. -/
def heartbeatsOf (mask : UInt32) : Finset Heartbeat :=
  Finset.univ.filter fun heartbeat => mask &&& heartbeat.flag ≠ 0

/-- What a health check comes to. -/
inductive Outcome where
  | noneYet
  | refreshed
  | rejected (missing : Finset Heartbeat)
  | refreshError
  deriving DecidableEq

/-- What there is to know of the last health check or, as long as there is
none, of the start. -/
structure HealthCheck where
  outcome : Outcome
  checkedIn : Finset Heartbeat
  tick : UInt32
  refreshTick : UInt32
  deriving DecidableEq

/-- The duty of a gate that is running: the heartbeats since the last
health check, and that check. `records` counts starts and checks over all
the boots. -/
structure Duty where
  checkedIn : Finset Heartbeat
  last : HealthCheck
  records : ℕ
  deriving DecidableEq

/-- A start is like a health check that found nothing yet. -/
def Duty.started (records : ℕ) (now : UInt32) : Duty where
  checkedIn := ∅
  last := { outcome := .noneYet, checkedIn := ∅, tick := now, refreshTick := now }
  records := records + 1

/-- A health check, in the duty's terms. -/
def Duty.check (duty : Duty) (now : UInt32) (refreshOk : Bool) : Duty where
  checkedIn := ∅
  last :=
    if duty.checkedIn ≠ Finset.univ then
      { outcome := .rejected duty.checkedInᶜ
        checkedIn := duty.checkedIn
        tick := now
        refreshTick := duty.last.refreshTick }
    else
      { outcome := if refreshOk then .refreshed else .refreshError
        checkedIn := duty.checkedIn
        tick := now
        refreshTick := if refreshOk then now else duty.last.refreshTick }
  records := duty.records + 1

/-- A health check is due when a period has gone by since the last. -/
def Duty.due (duty : Duty) (now : UInt32) : Bool := refreshPeriodMs ≤ now - duty.last.tick

/-- The records of all the boots so far. -/
def recordsOf : Option Duty → ℕ
  | none => 0
  | some duty => duty.records

def Duty.next : Option Duty → Event → Option Duty
  | duty, .boot _ _ now => some (.started (recordsOf duty) now)
  | none, _ => none
  | some duty, .checkIn heartbeat _ =>
    some { duty with checkedIn := duty.checkedIn ∪ heartbeatsOf heartbeat }
  | some duty, .process now refreshOk =>
    some (if duty.due now then duty.check now refreshOk else duty)

/-- The duty after a history that starts with the gate not running. -/
def dutyAfter (history : List Event) : Option Duty := run Duty.next none history

/-! ## Masks -/

/-- The mask of some heartbeats. -/
def maskOf (heartbeats : Finset Heartbeat) : UInt32 :=
  (if .mainLoop ∈ heartbeats then mainLoopHeartbeat else 0) |||
    (if .canApp ∈ heartbeats then canAppHeartbeat else 0) |||
    (if .rtcService ∈ heartbeats then rtcServiceHeartbeat else 0)

@[simp] theorem maskOf_empty : maskOf ∅ = 0 := by decide

theorem maskOf_union (s t : Finset Heartbeat) : maskOf (s ∪ t) = maskOf s ||| maskOf t := by
  revert s t
  decide +kernel

/-- The gate's missing mask. -/
theorem maskOf_compl (s : Finset Heartbeat) : maskOf sᶜ = requiredHeartbeats &&& ~~~maskOf s := by
  revert s
  decide +kernel

theorem maskOf_eq_zero_iff (s : Finset Heartbeat) : maskOf s = 0 ↔ s = ∅ := by
  revert s
  decide +kernel

/-- Only the required bits of a mask count. -/
theorem heartbeatsOf_and (mask : UInt32) :
    heartbeatsOf (mask &&& requiredHeartbeats) = heartbeatsOf mask := by
  have hflag : ∀ heartbeat : Heartbeat,
      requiredHeartbeats &&& heartbeat.flag = heartbeat.flag := by decide
  unfold heartbeatsOf
  simp only [UInt32.and_assoc, hflag]

theorem maskOf_heartbeatsOf (mask : UInt32) :
    maskOf (heartbeatsOf mask) = mask &&& requiredHeartbeats := by
  have hsmall : (mask &&& requiredHeartbeats).toNat ≤ 7 := by
    rw [UInt32.toNat_and]
    exact Nat.and_le_right
  have hall : ∀ n ≤ 7, maskOf (heartbeatsOf (UInt32.ofNat n)) = UInt32.ofNat n := by
    decide +kernel
  have h := hall _ hsmall
  rw [UInt32.ofNat_toNat, heartbeatsOf_and] at h
  exact h

/-! ## The gate in step with its duty -/

def Outcome.cause : Outcome → EvidenceCause
  | noneYet | refreshed => .hardStall
  | rejected _ => .healthGateRejected
  | refreshError => .refreshError

def Outcome.missing : Outcome → Finset Heartbeat
  | rejected missing => missing
  | noneYet | refreshed | refreshError => ∅

/-- What the evidence has to say of a health check. -/
def HealthCheck.finding (check : HealthCheck) : Finding where
  cause := check.outcome.cause.code
  requiredHeartbeatMask := requiredHeartbeats
  observedHeartbeatMask := maskOf check.checkedIn
  missingHeartbeatMask := maskOf check.outcome.missing
  healthCheckTick := check.tick
  refreshTick := check.refreshTick

@[simp] theorem isCauseValid_finding (check : HealthCheck) :
    isCauseValid check.finding.cause = true := by
  cases h : check.outcome <;> simp [HealthCheck.finding, h, Outcome.cause] <;> decide

/-- The number of a record, counted from the one in memory at the start. -/
def numberOf (memory : RetainedRecord) (records : ℕ) : UInt32 :=
  succSkippingZero^[records] (carriedNumber memory)

theorem numberOf_succ (memory : RetainedRecord) (records : ℕ) :
    numberOf memory (records + 1) = succSkippingZero (numberOf memory records) :=
  Function.iterate_succ_apply' _ _ _

theorem numberOf_succ_ne_zero (memory : RetainedRecord) (records : ℕ) :
    numberOf memory (records + 1) ≠ 0 := by
  rw [numberOf_succ]
  exact succSkippingZero_ne_zero _

/-- The gate is in step: it has its duty's heartbeats and ticks, and the
record in memory is that of the last health check. -/
structure Running (memory : RetainedRecord) (duty : Duty) (state : State) : Prop where
  initialized : state.diagnostics.initialized = true
  observed : state.diagnostics.observedHeartbeatMask = maskOf duty.checkedIn
  checkTick : state.diagnostics.lastHealthCheckTick = duty.last.tick
  refreshTick : state.diagnostics.lastRefreshTick = duty.last.refreshTick
  ready : state.store.storageReady = true
  recorded : 0 < duty.records
  sequence : state.store.sequence = numberOf memory duty.records
  retained : state.store.retained =
    completeRecord (numberOf memory duty.records) duty.last.finding

/-- A gate that is not running has the memory it started with. -/
def Matches (memory : RetainedRecord) : Option Duty → State → Prop
  | none, state => state = powered memory
  | some duty, state => Running memory duty state

variable {memory : RetainedRecord} {duty : Duty} {state : State}

theorem Running.isRecordValid (h : Running memory duty state) :
    isRecordValid state.store.retained = true := by
  rw [h.retained]
  obtain ⟨records, hrecords⟩ : ∃ n, duty.records = n + 1 :=
    ⟨duty.records - 1, by have := h.recorded; omega⟩
  rw [hrecords]
  exact isRecordValid_completeRecord (numberOf_succ_ne_zero memory records)
    (isCauseValid_finding duty.last)

/-- The next boot goes on from the number of the last record. -/
theorem carriedNumber_eq {onDuty : Option Duty} (h : Matches memory onDuty state) :
    carriedNumber state.store.retained = numberOf memory (recordsOf onDuty) := by
  cases onDuty with
  | none =>
    obtain rfl := h
    rfl
  | some duty =>
    rw [carriedNumber, if_pos (Running.isRecordValid h), Running.retained h]
    rfl

theorem init_accepted (state : State) (watchdog : AcceptedHandle) (now : UInt32) :
    (init state (some watchdog.1) now).1 = true ∧
      (init state (some watchdog.1) now).2 =
        { iwdg := some watchdog.1
          diagnostics :=
            { state.diagnostics with
              initialized := true
              requiredHeartbeatMask := requiredHeartbeats
              reportedHeartbeatMask := 0
              observedHeartbeatMask := 0
              lastMissingHeartbeatMask := 0
              initCount := state.diagnostics.initCount + 1
              lastRefreshTick := now
              lastHealthCheckTick := now }
          store := record state.store (Duty.started 0 now).last.finding } := by
  have hfilter : (some watchdog.1).filter IwdgHandle.isAccepted = some watchdog.1 :=
    Option.filter_eq_some_iff.2 ⟨rfl, watchdog.2⟩
  have hstart : (Duty.started 0 now).last.finding =
      { cause := EvidenceCause.hardStall.code
        requiredHeartbeatMask := requiredHeartbeats
        observedHeartbeatMask := 0
        missingHeartbeatMask := 0
        healthCheckTick := now
        refreshTick := now } := by
    simp [Duty.started, HealthCheck.finding, Outcome.cause, Outcome.missing]
  rw [init, hfilter, hstart]
  exact ⟨rfl, rfl⟩

/-- A boot takes the gate into its duty. -/
theorem matches_boot {onDuty : Option Duty} (h : Matches memory onDuty state)
    (wasIwdgReset : Bool) (watchdog : AcceptedHandle) (now : UInt32) :
    Running memory (.started (recordsOf onDuty) now)
      (step state (.boot wasIwdgReset watchdog now)) := by
  have hnumber := carriedNumber_eq h
  rw [step, (init_accepted _ watchdog now).2]
  have hrecord := record_eq (captured_storageReady state.store.retained wasIwdgReset)
    (isCauseValid_finding (Duty.started 0 now).last)
  rw [captured_sequence, hnumber, ← numberOf_succ] at hrecord
  have hstore : (booted state wasIwdgReset).store =
    captured state.store.retained wasIwdgReset := rfl
  rw [hstore, hrecord]
  exact
    { initialized := rfl
      observed := maskOf_empty.symm
      checkTick := rfl
      refreshTick := rfl
      ready := captured_storageReady _ wasIwdgReset
      recorded := Nat.succ_pos _
      sequence := rfl
      retained := rfl }

theorem running_checkIn (h : Running memory duty state) (heartbeat now : UInt32) :
    Running memory { duty with checkedIn := duty.checkedIn ∪ heartbeatsOf heartbeat }
      (checkIn state heartbeat now) := by
  have hmask : state.diagnostics.observedHeartbeatMask ||| heartbeat &&& requiredHeartbeats =
      maskOf (duty.checkedIn ∪ heartbeatsOf heartbeat) := by
    rw [maskOf_union, maskOf_heartbeatsOf, h.observed]
  rw [checkIn, h.initialized]
  exact
    { initialized := h.initialized
      observed := hmask
      checkTick := h.checkTick
      refreshTick := h.refreshTick
      ready := h.ready
      recorded := h.recorded
      sequence := h.sequence
      retained := h.retained }

theorem missingMask_eq (h : Running memory duty state) :
    requiredHeartbeats &&& ~~~state.diagnostics.observedHeartbeatMask = maskOf duty.checkedInᶜ := by
  rw [maskOf_compl, h.observed]

/-- The record of a running gate gets the next number. -/
theorem record_running (h : Running memory duty state) (check : HealthCheck) :
    record state.store check.finding =
      { state.store with
        sequence := numberOf memory (duty.records + 1)
        retained := completeRecord (numberOf memory (duty.records + 1)) check.finding } := by
  rw [record_eq h.ready (isCauseValid_finding check), h.sequence, numberOf_succ]

/-- Once the record of a check is made, the gate is in step again. -/
theorem running_of_recorded (h : Running memory duty state) {now : UInt32} {refreshOk : Bool}
    {diagnostics : Diagnostics} {finding : Finding}
    (hinitialized : diagnostics.initialized = true)
    (hobserved : diagnostics.observedHeartbeatMask = 0)
    (hcheckTick : diagnostics.lastHealthCheckTick = now)
    (hrefreshTick : diagnostics.lastRefreshTick = (duty.check now refreshOk).last.refreshTick)
    (hfinding : (duty.check now refreshOk).last.finding = finding) :
    Running memory (duty.check now refreshOk)
      { state with diagnostics, store := record state.store finding } := by
  have hrecord := record_running h (duty.check now refreshOk).last
  have htick : (duty.check now refreshOk).last.tick = now := by
    unfold Duty.check
    split <;> rfl
  rw [hfinding] at hrecord
  rw [hrecord]
  exact
    { initialized := hinitialized
      observed := by simp [hobserved, Duty.check]
      checkTick := by rw [hcheckTick, htick]
      refreshTick := hrefreshTick
      ready := h.ready
      recorded := Nat.succ_pos _
      sequence := rfl
      retained := by rw [hfinding]; rfl }

/-- **A health check.** The watchdog is refreshed exactly if every
heartbeat is checked in, and the record is that of the check. -/
theorem running_check (h : Running memory duty state) (now : UInt32) (refreshOk : Bool)
    (hdue : duty.due now = true) :
    ((process state now refreshOk).1 = true ↔ duty.checkedIn = Finset.univ) ∧
      Running memory (duty.check now refreshOk) (process state now refreshOk).2 := by
  have hnot : ¬ now - state.diagnostics.lastHealthCheckTick < refreshPeriodMs := by
    rw [h.checkTick]
    simpa [Duty.due] using hdue
  have hzero := maskOf_eq_zero_iff duty.checkedInᶜ
  rw [Finset.compl_eq_empty_iff] at hzero
  simp only [process, h.initialized, Bool.not_true, Bool.false_eq_true, if_false, hnot,
    missingMask_eq h, ne_eq, hzero]
  by_cases hall : duty.checkedIn = Finset.univ
  · cases refreshOk with
    | true =>
      simp only [hall, not_true_eq_false, if_false, if_true, true_and]
      exact running_of_recorded h rfl rfl rfl (by simp [Duty.check, hall])
        (by simp [Duty.check, hall, HealthCheck.finding, h.observed, Outcome.cause,
              Outcome.missing])
    | false =>
      simp only [hall, not_true_eq_false, if_false, Bool.false_eq_true, true_and]
      exact running_of_recorded h rfl rfl rfl (by simp [Duty.check, hall, h.refreshTick])
        (by simp [Duty.check, hall, HealthCheck.finding, h.observed, h.refreshTick, Outcome.cause,
              Outcome.missing])
  · simp only [hall, not_false_eq_true, if_true, Bool.false_eq_true, true_and]
    exact running_of_recorded h rfl rfl rfl (by simp [Duty.check, hall, h.refreshTick])
      (by simp [Duty.check, hall, HealthCheck.finding, h.observed, h.refreshTick, Outcome.cause,
            Outcome.missing])

/-- Before its time a call does nothing. -/
theorem process_early (h : Running memory duty state) (now : UInt32) (refreshOk : Bool)
    (hearly : duty.due now = false) : process state now refreshOk = (false, state) := by
  have hlt : now - state.diagnostics.lastHealthCheckTick < refreshPeriodMs := by
    rw [h.checkTick]
    simpa [Duty.due] using hearly
  rw [process, h.initialized, if_pos hlt]
  rfl

/-! ## Over any number of boots -/

theorem matches_step {onDuty : Option Duty} (event : Event) (h : Matches memory onDuty state) :
    Matches memory (Duty.next onDuty event) (step state event) := by
  cases event with
  | boot wasIwdgReset watchdog now =>
    have hrunning := matches_boot h wasIwdgReset watchdog now
    cases onDuty <;> exact hrunning
  | checkIn heartbeat now =>
    cases onDuty with
    | none =>
      obtain rfl := h
      rfl
    | some duty => exact running_checkIn h heartbeat now
  | process now refreshOk =>
    cases onDuty with
    | none =>
      obtain rfl := h
      rfl
    | some duty =>
      rw [step]
      cases hdue : duty.due now with
      | false =>
        rw [process_early h now refreshOk hdue]
        simpa [Duty.next, hdue] using h
      | true =>
        have hchecked := (running_check h now refreshOk hdue).2
        simpa [Duty.next, hdue, Matches] using hchecked

/-- The gate after a history. -/
def gateAfter (memory : RetainedRecord) (history : List Event) : State :=
  run step (powered memory) history

/-- **The gate keeps in step with its duty.** -/
theorem matches_run (memory : RetainedRecord) (history : List Event) :
    Matches memory (dutyAfter history) (gateAfter memory history) := by
  suffices hrun : ∀ (history : List Event) (onDuty : Option Duty) (state : State),
      Matches memory onDuty state →
        Matches memory (run Duty.next onDuty history) (run step state history) from
    hrun history none _ rfl
  intro history
  induction history with
  | nil => intro onDuty state h; exact h
  | cons event history ih => intro onDuty state h; exact ih _ _ (matches_step event h)

theorem recordsOf_le_next (onDuty : Option Duty) (event : Event) :
    recordsOf onDuty ≤ recordsOf (Duty.next onDuty event) := by
  cases event with
  | boot => cases onDuty <;> exact Nat.le_succ _
  | checkIn => cases onDuty <;> exact Nat.le_refl _
  | process now refreshOk =>
    cases onDuty with
    | none => exact Nat.le_refl _
    | some duty =>
      simp only [Duty.next, recordsOf]
      split
      · exact Nat.le_succ _
      · exact Nat.le_refl _

theorem recordsOf_le_run (history : List Event) (onDuty : Option Duty) :
    recordsOf onDuty ≤ recordsOf (run Duty.next onDuty history) := by
  induction history generalizing onDuty with
  | nil => exact Nat.le_refl _
  | cons event history ih => exact (recordsOf_le_next onDuty event).trans (ih _)

/-- A boot makes a record of its own. -/
theorem recordsOf_lt_boot (before later : List Event) (wasIwdgReset : Bool)
    (watchdog : AcceptedHandle) (now : UInt32) :
    recordsOf (dutyAfter before) <
      recordsOf (dutyAfter (before ++ .boot wasIwdgReset watchdog now :: later)) := by
  have hlater := recordsOf_le_run later
    (Duty.next (dutyAfter before) (.boot wasIwdgReset watchdog now))
  have hsplit : dutyAfter (before ++ .boot wasIwdgReset watchdog now :: later) =
      run Duty.next (Duty.next (dutyAfter before) (.boot wasIwdgReset watchdog now)) later := by
    rw [dutyAfter, run_append, run_cons]
    rfl
  rw [hsplit]
  refine Nat.lt_of_lt_of_le ?_ hlater
  cases dutyAfter before <;> exact Nat.lt_succ_self _

/-- The numbers of fewer than `2^32 - 1` records on end are different. -/
theorem numberOf_ne {i j : ℕ} (hlt : i < j) (hclose : j - i < 2 ^ 32 - 1)
    (hfirst : i = 0 → carriedNumber memory ≠ 0) : numberOf memory i ≠ numberOf memory j := by
  intro hsame
  have hbound := (carriedNumber memory).toNat_lt
  obtain ⟨j, rfl⟩ : ∃ n, j = n + 1 := ⟨j - 1, by omega⟩
  have hj : (numberOf memory (j + 1)).toNat = _ := toNat_iterate_succSkippingZero _ j
  rw [← hsame] at hj
  cases i with
  | zero =>
    have hnonzero : (carriedNumber memory).toNat ≠ 0 := by
      intro hzero
      exact hfirst rfl (UInt32.toNat_inj.1 hzero)
    have hi : (numberOf memory 0).toNat = (carriedNumber memory).toNat := rfl
    omega
  | succ i =>
    have hi : (numberOf memory (i + 1)).toNat = _ := toNat_iterate_succSkippingZero _ i
    omega

/-- The number a boot reports, if it reports one. -/
theorem booted_number {onDuty : Option Duty} (h : Matches memory onDuty state) {reset : Bool}
    (hvalid : (booted state reset).store.evidence.valid = true) :
    (booted state reset).store.evidence.sequence = numberOf memory (recordsOf onDuty) ∧
      (recordsOf onDuty = 0 → carriedNumber memory ≠ 0) := by
  obtain ⟨hrecord, hsequence⟩ := captured_evidence_sequence hvalid
  have hcarried := carriedNumber_eq h
  rw [carriedNumber, if_pos hrecord] at hcarried
  refine ⟨hsequence.trans hcarried, fun hzero => ?_⟩
  rw [hzero] at hcarried
  have hnonzero : state.store.retained.sequence ≠ 0 := sequence_ne_zero_of_valid hrecord
  exact fun hnone => hnonzero (hcarried.trans hnone)

/-- The watchdog is refreshed only with every heartbeat checked in since
the last health check. -/
def RefreshesGated (memory : RetainedRecord) (history : List Event) : Prop :=
  ∀ before now refreshOk later, history = before ++ .process now refreshOk :: later →
    (process (gateAfter memory before) now refreshOk).1 = true →
    ∃ duty, dutyAfter before = some duty ∧ duty.checkedIn = Finset.univ

/-- A boot after a watchdog reset reports the last health check of the boot
before, under the number of its record. -/
def ResetsReported (memory : RetainedRecord) (history : List Event) : Prop :=
  ∀ before watchdog now later, history = before ++ .boot true watchdog now :: later →
    ∀ duty, dutyAfter before = some duty →
      (booted (gateAfter memory before) true).store.evidence =
        { sequence := numberOf memory duty.records
          finding := duty.last.finding
          captureCount := 1
          valid := true
          storageReady := true }

/-- No two boots report the same number. -/
def ReportsDiffer (memory : RetainedRecord) (history : List Event) : Prop :=
  ∀ before reset watchdog now between reset' watchdog' now' later,
    history = before ++ .boot reset watchdog now ::
      (between ++ .boot reset' watchdog' now' :: later) →
    let first := (booted (gateAfter memory before) reset).store.evidence
    let second :=
      (booted (gateAfter memory (before ++ .boot reset watchdog now :: between)) reset').store.evidence
    first.valid = true → second.valid = true → first.sequence ≠ second.sequence

theorem refreshesGated (memory : RetainedRecord) (history : List Event) :
    RefreshesGated memory history := by
  rintro before now refreshOk later - hrefreshed
  have hmatches := matches_run memory before
  cases hduty : dutyAfter before with
  | none =>
    rw [hduty] at hmatches
    have hoff : gateAfter memory before = powered memory := hmatches
    rw [hoff] at hrefreshed
    cases hrefreshed
  | some duty =>
    rw [hduty] at hmatches
    refine ⟨duty, rfl, ?_⟩
    cases hdue : duty.due now with
    | false =>
      rw [process_early hmatches now refreshOk hdue] at hrefreshed
      cases hrefreshed
    | true => exact (running_check hmatches now refreshOk hdue).1.1 hrefreshed

theorem resetsReported (memory : RetainedRecord) (history : List Event) :
    ResetsReported memory history := by
  rintro before watchdog now later - duty hduty
  have hrunning : Running memory duty (gateAfter memory before) := by
    have hmatches := matches_run memory before
    rw [hduty] at hmatches
    exact hmatches
  have hevidence := captured_evidence hrunning.isRecordValid
  rw [hrunning.retained] at hevidence
  rw [booted, hrunning.retained]
  exact hevidence

theorem reportsDiffer (memory : RetainedRecord) (history : List Event)
    (hfew : recordsOf (dutyAfter history) < 2 ^ 32) : ReportsDiffer memory history := by
  rintro before reset watchdog now between reset' watchdog' now' later rfl first second
    hfirst hsecond
  obtain ⟨hnumber, hzero⟩ := booted_number (matches_run memory before) hfirst
  obtain ⟨hnumber', -⟩ := booted_number (matches_run memory _) hsecond
  have hlt := recordsOf_lt_boot before between reset watchdog now
  have hlt' := recordsOf_lt_boot (before ++ .boot reset watchdog now :: between) later reset'
    watchdog' now'
  rw [List.append_assoc, List.cons_append] at hlt'
  rw [hnumber, hnumber']
  exact numberOf_ne hlt (by omega) hzero

/-- **Evidence over boots.** Over fewer than `2^32` records, a refresh takes
every heartbeat, a watchdog reset is reported with the outcome of the last
health check, and no number is reported twice. -/
theorem evidence_over_boots (memory : RetainedRecord) (history : List Event)
    (hfew : recordsOf (dutyAfter history) < 2 ^ 32) :
    RefreshesGated memory history ∧ ResetsReported memory history ∧
      ReportsDiffer memory history :=
  ⟨refreshesGated memory history, resetsReported memory history,
    reportsDiffer memory history hfew⟩

/-- The watchdog of the board. -/
def hiwdg1 : AcceptedHandle :=
  ⟨{ instanceAddress := iwdg1
     prescaler := prescaler128
     window := windowDisable
     reload := reloadValue }, rfl⟩

/-- A check with one heartbeat missing, a watchdog reset, and another
before any check. -/
theorem evidence_over_boots_twoResets :
    let history : List Event :=
      [.boot false hiwdg1 0, .checkIn mainLoopHeartbeat 10, .checkIn canAppHeartbeat 20,
        .process 250 true, .boot true hiwdg1 3, .boot true hiwdg1 5]
    recordsOf (dutyAfter history) = 4 ∧
      RefreshesGated { } history ∧ ResetsReported { } history ∧ ReportsDiffer { } history :=
  ⟨by decide +kernel, evidence_over_boots _ _ (by decide +kernel)⟩

end Watchdog

end CanGui
