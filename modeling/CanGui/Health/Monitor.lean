import CanGui.Common.Run
import Mathlib.Algebra.Order.Ring.Rat
/-!
# CAN health — the recovery of the STM32 link

The GUI's health monitor, with the adapter's driver status OK throughout:
how it grades the age of the latest STM32 frame, and how many frames it
asks for before it takes the link for recovered. The frames are counted
from a baseline, which a timeout sets anew and a stale gap only if the
link was not degraded before; `recovers_after_frames` says what holds
where every such gap finds the baseline up to date.
-/

namespace CanGui

namespace Health

def stm32RxStale : ℚ := 2
def stm32RxTimeout : ℚ := 5
def stm32RxRecoveryMinFrames : Int := 3

/-! ## State -/

inductive Severity where
  | ok
  | warn
  | fault
  deriving DecidableEq, Repr

/-- The codes of the reports. A healthy link is reported under the name of
the bus mode. -/
inductive Code where
  | waitRx
  | stm32RxTimeout
  | stm32RxStale
  | stm32RxRecovering
  | mcuRxHalError
  | mcuRxMessageLost
  | mcuRxFifoFull
  | mcuRxBacklog
  | mode (name : String)
  deriving DecidableEq, Repr

/-- What the MCU last said about its own reception. -/
structure McuRxHealth where
  halError : Bool
  messageLostEvents : Nat
  fifoFullEvents : Nat
  budgetExhausted : Bool
  deriving DecidableEq, Repr

/-- The session's side of the figures. -/
structure Metrics where
  connectedAt : Option ℚ
  lastStm32RxTime : Option ℚ := none
  stm32RxCount : Int := 0
  mcuCanRxHealth : Option McuRxHealth := none
  deriving DecidableEq

/-- The monitor's own. -/
structure Monitor where
  errorEventCount : Nat := 0
  activeIssue : Option Code := none
  lastLoggedState : Option (Severity × Code) := none
  stm32RxDegraded : Bool := false
  stm32RecoveryRxCount : Int := 0
  deriving DecidableEq

structure State where
  metrics : Metrics
  monitor : Monitor := {}
  deriving DecidableEq

/-! ## Reports -/

/-- A new issue is counted; a report that is not the last one logged is
logged. -/
def setHealth (monitor : Monitor) (severity : Severity) (code : Code) : Monitor :=
  let monitor :=
    if (severity = .warn ∨ severity = .fault) ∧ code ≠ .waitRx then
      { monitor with
        errorEventCount :=
          if monitor.activeIssue ≠ some code then monitor.errorEventCount + 1
          else monitor.errorEventCount
        activeIssue := some code }
    else if severity = .ok then
      { monitor with activeIssue := none }
    else
      monitor
  { monitor with lastLoggedState := some (severity, code) }

/-- The report the MCU's own figures call for. -/
def mcuIssue (health : McuRxHealth) : Option (Severity × Code) :=
  if health.halError then some (.fault, .mcuRxHalError)
  else if health.messageLostEvents ≠ 0 then some (.fault, .mcuRxMessageLost)
  else if health.fifoFullEvents ≠ 0 then some (.warn, .mcuRxFifoFull)
  else if health.budgetExhausted then some (.warn, .mcuRxBacklog)
  else none

/-- `metrics["last_stm32_rx_time"] or metrics["connected_at"]`: a time of
zero counts as none. -/
def rxReference (metrics : Metrics) : Option ℚ :=
  match metrics.lastStm32RxTime with
  | some time => if time ≠ 0 then some time else metrics.connectedAt
  | none => metrics.connectedAt

/-- The monitor and the report it made. -/
abbrev Update := Monitor × Severity × Code

def report (monitor : Monitor) (severity : Severity) (code : Code) : Update :=
  (setHealth monitor severity code, severity, code)

/-- The link is not degraded: the MCU's figures, or the bus mode. -/
def reportHealthy (metrics : Metrics) (monitor : Monitor) (modeName : String) : Update :=
  match metrics.mcuCanRxHealth.bind mcuIssue with
  | some (severity, code) => report monitor severity code
  | none => report monitor .ok (.mode modeName)

/-- No frame has come since the connection was opened. -/
def monitorWaiting (monitor : Monitor) (rxAge : ℚ) : Update :=
  if stm32RxTimeout ≤ rxAge then
    report { monitor with stm32RxDegraded := true } .fault .stm32RxTimeout
  else if stm32RxStale ≤ rxAge then
    report { monitor with stm32RxDegraded := true } .warn .stm32RxStale
  else
    report monitor .warn .waitRx

def monitorTraffic (metrics : Metrics) (monitor : Monitor) (rxAge : ℚ) (modeName : String) :
    Update :=
  if stm32RxTimeout ≤ rxAge then
    report
      { monitor with stm32RxDegraded := true, stm32RecoveryRxCount := metrics.stm32RxCount }
      .fault .stm32RxTimeout
  else if stm32RxStale ≤ rxAge then
    report
      { monitor with
        stm32RecoveryRxCount :=
          if !monitor.stm32RxDegraded then metrics.stm32RxCount
          else monitor.stm32RecoveryRxCount
        stm32RxDegraded := true }
      .warn .stm32RxStale
  else if monitor.stm32RxDegraded then
    if metrics.stm32RxCount - monitor.stm32RecoveryRxCount < stm32RxRecoveryMinFrames then
      report monitor .warn .stm32RxRecovering
    else
      reportHealthy metrics { monitor with stm32RxDegraded := false } modeName
  else
    reportHealthy metrics monitor modeName

/-- One health update, the driver status OK. -/
def updateHealth (state : State) (now : ℚ) (modeName : String) : Update :=
  match rxReference state.metrics with
  | none => report state.monitor .warn .waitRx
  | some reference =>
    match state.metrics.lastStm32RxTime with
    | none => monitorWaiting state.monitor (now - reference)
    | some _ => monitorTraffic state.metrics state.monitor (now - reference) modeName

/-! ## Runs -/

inductive Event where
  /-- An STM32 application frame, and the figures of the MCU if it carries
  them. -/
  | frame (time : ℚ) (health : Option McuRxHealth)
  | update (now : ℚ) (modeName : String)

def receive (metrics : Metrics) (time : ℚ) (health : Option McuRxHealth) : Metrics :=
  { metrics with
    lastStm32RxTime := some time
    stm32RxCount := metrics.stm32RxCount + 1
    mcuCanRxHealth := health.orElse fun _ => metrics.mcuCanRxHealth }

def step (state : State) : Event → State
  | .frame time health => { state with metrics := receive state.metrics time health }
  | .update now modeName => { state with monitor := (updateHealth state now modeName).1 }

/-- The connection is opened, and the monitor reset with it. -/
def connected (time : ℚ) : State := { metrics := { connectedAt := some time } }

/-- The code an update reports. -/
def reported (state : State) (now : ℚ) (modeName : String) : Code :=
  (updateHealth state now modeName).2.2

/-- The link is reported stale or timed out. -/
def Code.isGap : Code → Bool
  | .stm32RxStale | .stm32RxTimeout => true
  | _ => false

/-- The link is not reported degraded, nor still awaited. -/
def Code.isHealthy : Code → Bool
  | .waitRx | .stm32RxStale | .stm32RxTimeout | .stm32RxRecovering => false
  | _ => true

def Event.isFrame : Event → Bool
  | .frame .. => true
  | .update .. => false

/-- The age of the latest frame makes a gap, and not a timeout. -/
def isStaleAt (state : State) (now : ℚ) : Bool :=
  match rxReference state.metrics with
  | none => false
  | some reference => stm32RxStale ≤ now - reference && now - reference < stm32RxTimeout

/-- A stale gap in a link that was degraded already, after frames that
count towards its recovery. -/
def RepeatsGap (state : State) (now : ℚ) : Prop :=
  state.metrics.lastStm32RxTime.isSome = true ∧ isStaleAt state now = true ∧
    state.monitor.stm32RxDegraded = true ∧
    state.metrics.stm32RxCount ≠ state.monitor.stm32RecoveryRxCount

instance (state : State) (now : ℚ) : Decidable (RepeatsGap state now) :=
  inferInstanceAs (Decidable (_ ∧ _))

/-- Every gap finds the baseline up to date, or sets it. -/
def KeepsBaseline (state : State) : Event → Prop
  | .frame .. => True
  | .update now _ => ¬RepeatsGap state now

instance (state : State) : ∀ event, Decidable (KeepsBaseline state event)
  | .frame .. => isTrue trivial
  | .update now _ => inferInstanceAs (Decidable (¬RepeatsGap state now))

/-! ## What an update can do -/

@[simp] theorem setHealth_degraded (monitor : Monitor) (severity : Severity) (code : Code) :
    (setHealth monitor severity code).stm32RxDegraded = monitor.stm32RxDegraded := by
  unfold setHealth
  split
  · rfl
  · split <;> rfl

@[simp] theorem setHealth_baseline (monitor : Monitor) (severity : Severity) (code : Code) :
    (setHealth monitor severity code).stm32RecoveryRxCount = monitor.stm32RecoveryRxCount := by
  unfold setHealth
  split
  · rfl
  · split <;> rfl

theorem mcuIssue_isHealthy {health : McuRxHealth} {severity : Severity} {code : Code}
    (h : mcuIssue health = some (severity, code)) : code.isHealthy = true := by
  unfold mcuIssue at h
  split_ifs at h <;> cases h <;> rfl

/-- A gap is reported: the link is degraded, and its baseline is the count
of frames, unless none came yet or the gap repeats. -/
structure FindsGap (state : State) (now : ℚ) (update : Update) : Prop where
  code : update.2.2.isGap = true
  degraded : update.1.stm32RxDegraded = true
  baseline : update.1.stm32RecoveryRxCount = state.metrics.stm32RxCount ∨
    (state.metrics.lastStm32RxTime = none ∧
      update.1.stm32RecoveryRxCount = state.monitor.stm32RecoveryRxCount) ∨
    RepeatsGap state now

/-- The link is still awaited or recovering. -/
structure Waits (state : State) (update : Update) : Prop where
  code : update.2.2.isGap = false ∧ update.2.2.isHealthy = false
  degraded : update.1.stm32RxDegraded = state.monitor.stm32RxDegraded
  baseline : update.1.stm32RecoveryRxCount = state.monitor.stm32RecoveryRxCount

/-- The link is healthy: it was not degraded, or has recovered. -/
structure FindsHealthy (state : State) (update : Update) : Prop where
  code : update.2.2.isHealthy = true
  degraded : update.1.stm32RxDegraded = false
  recovered : state.monitor.stm32RxDegraded = true →
    stm32RxRecoveryMinFrames ≤ state.metrics.stm32RxCount - state.monitor.stm32RecoveryRxCount

theorem reportHealthy_degraded (metrics : Metrics) (monitor : Monitor) (modeName : String) :
    (reportHealthy metrics monitor modeName).1.stm32RxDegraded = monitor.stm32RxDegraded := by
  unfold reportHealthy report
  split
  · exact setHealth_degraded _ _ _
  · exact setHealth_degraded _ _ _

theorem reportHealthy_code (metrics : Metrics) (monitor : Monitor) (modeName : String) :
    (reportHealthy metrics monitor modeName).2.2.isHealthy = true := by
  unfold reportHealthy
  split
  · next severity code hissue =>
    obtain ⟨health, -, hissue⟩ := Option.bind_eq_some_iff.1 hissue
    exact mcuIssue_isHealthy hissue
  · rfl

theorem monitorWaiting_cases {state : State} (now rxAge : ℚ)
    (hnone : state.metrics.lastStm32RxTime = none) :
    FindsGap state now (monitorWaiting state.monitor rxAge) ∨
      Waits state (monitorWaiting state.monitor rxAge) := by
  have hkept : ∀ severity code, (report { state.monitor with stm32RxDegraded := true }
      severity code).1.stm32RecoveryRxCount = state.monitor.stm32RecoveryRxCount :=
    fun severity code => setHealth_baseline _ _ _
  unfold monitorWaiting
  split
  · exact .inl ⟨rfl, setHealth_degraded _ _ _, .inr (.inl ⟨hnone, hkept _ _⟩)⟩
  split
  · exact .inl ⟨rfl, setHealth_degraded _ _ _, .inr (.inl ⟨hnone, hkept _ _⟩)⟩
  · exact .inr ⟨⟨rfl, rfl⟩, setHealth_degraded _ _ _, setHealth_baseline _ _ _⟩

theorem monitorTraffic_cases {state : State} {now reference : ℚ} {modeName : String}
    (hsome : state.metrics.lastStm32RxTime.isSome)
    (hreference : rxReference state.metrics = some reference) :
    FindsGap state now (monitorTraffic state.metrics state.monitor (now - reference) modeName) ∨
      Waits state (monitorTraffic state.metrics state.monitor (now - reference) modeName) ∨
      FindsHealthy state
        (monitorTraffic state.metrics state.monitor (now - reference) modeName) := by
  unfold monitorTraffic
  split
  · exact .inl ⟨rfl, setHealth_degraded _ _ _, .inl (setHealth_baseline _ _ _)⟩
  next hbelow =>
  split
  · next hstale =>
    refine .inl ⟨rfl, setHealth_degraded _ _ _, ?_⟩
    cases hdegraded : state.monitor.stm32RxDegraded with
    | false => exact .inl (setHealth_baseline _ _ _)
    | true =>
      -- the baseline stays; either it is the count, or frames have been received since
      by_cases hcount : state.metrics.stm32RxCount = state.monitor.stm32RecoveryRxCount
      · exact .inl ((setHealth_baseline _ _ _).trans hcount.symm)
      · refine .inr (.inr ⟨hsome, ?_, hdegraded, hcount⟩)
        simp [isStaleAt, hreference, hstale, not_le.1 hbelow]
  split
  · next hdegraded =>
    split
    · exact .inr (.inl ⟨⟨rfl, rfl⟩, setHealth_degraded _ _ _, setHealth_baseline _ _ _⟩)
    · next henough =>
      exact .inr (.inr ⟨reportHealthy_code _ _ _, reportHealthy_degraded _ _ _,
        fun _ => not_lt.1 henough⟩)
  · next hsound =>
    have hfalse : state.monitor.stm32RxDegraded = false := by simpa using hsound
    refine .inr (.inr ⟨reportHealthy_code _ _ _, (reportHealthy_degraded _ _ _).trans hfalse, ?_⟩)
    rw [hfalse]
    exact nofun

/-- **What an update can do.** -/
theorem updateHealth_cases (state : State) (now : ℚ) (modeName : String) :
    FindsGap state now (updateHealth state now modeName) ∨
      Waits state (updateHealth state now modeName) ∨
      FindsHealthy state (updateHealth state now modeName) := by
  unfold updateHealth
  split
  · exact .inr (.inl ⟨⟨rfl, rfl⟩, setHealth_degraded _ _ _, setHealth_baseline _ _ _⟩)
  next reference hreference =>
  split
  · next hnone => exact (monitorWaiting_cases now _ hnone).imp id .inl
  · next hsome => exact monitorTraffic_cases (by rw [hsome]; rfl) hreference

/-! ## Counting the frames -/

/-- Before the first frame the baseline is the count. -/
def BaselineStarts (state : State) : Prop :=
  state.metrics.lastStm32RxTime = none →
    state.metrics.stm32RxCount = state.monitor.stm32RecoveryRxCount

theorem monitorWaiting_baseline (monitor : Monitor) (rxAge : ℚ) :
    (monitorWaiting monitor rxAge).1.stm32RecoveryRxCount = monitor.stm32RecoveryRxCount := by
  unfold monitorWaiting
  split
  · exact setHealth_baseline _ _ _
  split
  · exact setHealth_baseline _ _ _
  · exact setHealth_baseline _ _ _

theorem baselineStarts_step (state : State) (event : Event) (h : BaselineStarts state) :
    BaselineStarts (step state event) := by
  cases event with
  | frame time health => exact nofun
  | update now modeName =>
    intro hnone
    have hnone : state.metrics.lastStm32RxTime = none := hnone
    have hkept : (updateHealth state now modeName).1.stm32RecoveryRxCount =
        state.monitor.stm32RecoveryRxCount := by
      unfold updateHealth
      split
      · exact setHealth_baseline _ _ _
      · rw [hnone]
        exact monitorWaiting_baseline _ _
    exact (h hnone).trans hkept.symm

/-- `frames` frames after a gap: while the link is degraded they are what
counts towards its recovery, and it is not degraded only if they are
enough. -/
structure Counts (frames : Int) (state : State) : Prop where
  degraded : state.monitor.stm32RxDegraded = true →
    state.monitor.stm32RecoveryRxCount + frames = state.metrics.stm32RxCount
  recovered : state.monitor.stm32RxDegraded = false → stm32RxRecoveryMinFrames ≤ frames

theorem isHealthy_of_isGap {code : Code} (h : code.isGap = true) : code.isHealthy = false := by
  cases code <;> first | rfl | cases h

/-- A gap that does not repeat starts the count. -/
theorem counts_of_gap {state : State} {now : ℚ} {modeName : String} (hstarts : BaselineStarts state)
    (hkeeps : KeepsBaseline state (.update now modeName))
    (hgap : (reported state now modeName).isGap = true) :
    Counts 0 (step state (.update now modeName)) := by
  rcases updateHealth_cases state now modeName with hfound | hwaits | hfound
  · have hbaseline : (updateHealth state now modeName).1.stm32RecoveryRxCount =
        state.metrics.stm32RxCount := by
      rcases hfound.baseline with hset | ⟨hnone, hkept⟩ | hrepeats
      · exact hset
      · exact hkept.trans (hstarts hnone).symm
      · exact absurd hrepeats hkeeps
    refine ⟨?_, ?_⟩
    · intro _
      exact (add_zero _).trans hbaseline
    · intro hsound
      exact absurd (hfound.degraded.symm.trans hsound) nofun
  · exact absurd (hgap.symm.trans hwaits.code.1) nofun
  · exact absurd (hfound.code.symm.trans (isHealthy_of_isGap hgap)) nofun

/-- Any other step counts a frame or none. -/
def NoGap (state : State) : Event → Prop
  | .frame .. => True
  | .update now modeName => (reported state now modeName).isGap = false

instance (state : State) : ∀ event, Decidable (NoGap state event)
  | .frame .. => isTrue trivial
  | .update now modeName => inferInstanceAs (Decidable ((reported state now modeName).isGap = false))

theorem counts_step {state : State} {event : Event} {frames : Int} (hnoGap : NoGap state event)
    (h : Counts frames state) :
    Counts (frames + if event.isFrame then 1 else 0) (step state event) := by
  cases event with
  | frame time health =>
    refine ⟨?_, ?_⟩
    · intro hdegraded
      have hcount := h.degraded hdegraded
      simp only [step, receive, Event.isFrame, if_true]
      omega
    · intro hsound
      have henough := h.recovered hsound
      simp only [Event.isFrame, if_true]
      omega
  | update now modeName =>
    have hframes : frames + (if (Event.update now modeName).isFrame then 1 else 0) = frames :=
      add_zero frames
    rw [hframes]
    rcases updateHealth_cases state now modeName with hgap | hwaits | hfound
    · have hcode : (reported state now modeName).isGap = true := hgap.code
      rw [show (reported state now modeName).isGap = false from hnoGap] at hcode
      cases hcode
    · refine ⟨?_, ?_⟩
      · intro hdegraded
        have hcount := h.degraded (hwaits.degraded.symm.trans hdegraded)
        rw [← hwaits.baseline] at hcount
        exact hcount
      · intro hsound
        exact h.recovered (hwaits.degraded.symm.trans hsound)
    · refine ⟨?_, ?_⟩
      · intro hdegraded
        exact absurd (hfound.degraded.symm.trans hdegraded) nofun
      · intro _
        cases hbefore : state.monitor.stm32RxDegraded with
        | false => exact h.recovered hbefore
        | true =>
          have hcount := h.degraded hbefore
          have henough := hfound.recovered hbefore
          omega

theorem counts_run : ∀ (events : List Event) {state : State} {frames : Int},
    Along step NoGap state events → Counts frames state →
      Counts (frames + events.countP Event.isFrame) (run step state events) := by
  intro events
  induction events with
  | nil =>
    intro state frames _ h
    simpa using h
  | cons event events ih =>
    intro state frames halong h
    have hrest := ih halong.2 (counts_step halong.1 h)
    have hcount : frames + ((event :: events).countP Event.isFrame : Nat) =
        frames + (if event.isFrame then 1 else 0) + (events.countP Event.isFrame : Nat) := by
      rw [List.countP_cons]
      split <;> omega
    rw [hcount]
    exact hrest

/-! ## Recovery -/

/-- **A recovery takes its three frames.** In a run whose stale gaps all
find the baseline up to date, a healthy report comes after at least three
frames since the last gap reported. -/
theorem recovers_after_frames (time : ℚ) {events before middle later : List Event} {now now' : ℚ}
    {modeName modeName' : String} (hkeeps : Along step KeepsBaseline (connected time) events)
    (hsplit : events =
      before ++ .update now modeName :: (middle ++ .update now' modeName' :: later))
    (hgap : (reported (run step (connected time) before) now modeName).isGap = true)
    (hlast : Along step NoGap
      (run step (connected time) (before ++ [.update now modeName])) middle)
    (hhealthy : (reported (run step (connected time) (before ++ .update now modeName :: middle))
      now' modeName').isHealthy = true) :
    stm32RxRecoveryMinFrames ≤ middle.countP Event.isFrame := by
  have hstarts : BaselineStarts (run step (connected time) before) :=
    run_invariant baselineStarts_step before _ fun _ => rfl
  have hcounts : Counts 0 (run step (connected time) (before ++ [.update now modeName])) := by
    rw [run_append]
    exact counts_of_gap hstarts (along_iff_forall_split.1 hkeeps before _ _ hsplit) hgap
  have hmiddle := counts_run middle hlast hcounts
  rw [← run_append, List.append_assoc, List.singleton_append, zero_add] at hmiddle
  rcases updateHealth_cases (run step (connected time) (before ++ .update now modeName :: middle))
    now' modeName' with hfound | hwaits | hfound
  · exact absurd (hhealthy.symm.trans (isHealthy_of_isGap hfound.code)) nofun
  · exact absurd (hhealthy.symm.trans hwaits.code.2) nofun
  · cases hbefore : (run step (connected time)
        (before ++ .update now modeName :: middle)).monitor.stm32RxDegraded with
    | false => exact hmiddle.recovered hbefore
    | true =>
      have hcount := hmiddle.degraded hbefore
      have henough := hfound.recovered hbefore
      omega

/-- A gap, two frames, the gap again, and one more frame. -/
def repeatedGap : List Event :=
  [.frame 1 none, .update 4 "ACTIVE", .frame 5 none, .frame 5 none]

/-- **The link recovers one frame after a gap.** The second stale report
leaves the baseline of the first, which the two frames between them count
from. -/
theorem repeatedGap_recovers :
    reported (run step (connected 0) repeatedGap) 8 "ACTIVE" = .stm32RxStale ∧
      reported (run step (connected 0) (repeatedGap ++ .update 8 "ACTIVE" :: [.frame 9 none]))
        10 "ACTIVE" = .mode "ACTIVE" ∧
      [Event.frame 9 none].countP Event.isFrame = 1 := by
  decide +kernel

/-- One gap, and the three frames of a recovery. -/
def singleGap : List Event :=
  [.frame 1 none] ++ .update 4 "ACTIVE" ::
    ([.frame 5 none, .update 5 "ACTIVE", .frame 5 none, .frame 6 none] ++ .update 6 "ACTIVE" :: [])

theorem recovers_after_frames_singleGap :
    stm32RxRecoveryMinFrames ≤
      [Event.frame 5 none, .update 5 "ACTIVE", .frame 5 none, .frame 6 none].countP
        Event.isFrame := by
  exact recovers_after_frames 0 (by decide +kernel : Along step KeepsBaseline _ singleGap) rfl
    (by decide +kernel) (by decide +kernel) (by decide +kernel)

end Health

end CanGui
