import CanGui.Uds.Sessions
/-!
# UDS coupling — sessions and downloads

The diagnostic server with the download behind it, over whole runs. Beside
them stand the requests that keep the present programming session alive,
the runs of the programming callback and how often a programming session
was left. Times are milliseconds that do not wrap; the server sees them
modulo 2³².
-/

namespace CanGui

namespace UdsCoupling

open Uds UdsDownload UdsServer

/-- The download behind the callbacks, what its backend would answer, and
how often the callbacks ran. -/
structure Context where
  download : Download
  answers : BackendAnswers := ⟨false, .failed, .failed, false, false⟩
  handled : Nat := 0
  aborts : Nat := 0

/-- `Uds_Download_Handle`, as the callback. -/
def programming (context : Context) (service : UInt8) (request : Bytes) (capacity : Nat) :
    Except NegativeResponseCode Bytes × Context :=
  let outcome := handle context.answers context.download service request capacity
  (outcome.reply,
    { context with download := outcome.download, handled := context.handled + 1 })

/-- `Uds_Download_Abort`, as the callback. -/
def programmingAbort (context : Context) : Context :=
  { context with download := (abort context.download).1, aborts := context.aborts + 1 }

def config (readDid : Option (UInt16 → Nat → DidReadResult)) : ServerConfig Context where
  readDid := readDid
  programming := some programming
  programmingAbort := some programmingAbort

/-- A run of the programming callback: when, in which session, and the
requests that kept the session alive until then, the latest first. -/
structure Run where
  time : Nat
  session : UInt8
  kept : List Nat
  deriving DecidableEq, Repr

structure System where
  server : Server := {}
  context : Context
  /-- When the server was last called. -/
  now : Option Nat := none
  /-- The requests of the present programming session, the latest first;
  the last of them entered it. -/
  kept : List Nat := []
  runs : List Run := []
  leavings : Nat := 0

/-- The programming session is left between two states. -/
def leaving (before after : Server) : Nat :=
  if before.stats.currentSession = sessionProgramming ∧
      after.stats.currentSession ≠ sessionProgramming then 1
  else 0

inductive Event where
  | tick (now : Nat)
  | request (request : Bytes) (now capacity : Nat) (answers : BackendAnswers)
      (readDid : Option (UInt16 → Nat → DidReadResult))

namespace System

/-- `Uds_Server_Tick` -/
def tick (system : System) (now : Nat) : System :=
  let (server, context) := UdsServer.tick (config none) system.server system.context
    (UInt32.ofNat now)
  { system with
    server := server
    context := context
    now := some now
    kept := if server.stats.currentSession = sessionProgramming then system.kept else []
    leavings := system.leavings + leaving system.server server }

/-- What is noted of a request, once the timer was looked at. -/
def note (ticked : System) (now : Nat) (server : Server) (context : Context) : System :=
  let kept := if server.stats.currentSession = sessionProgramming then now :: ticked.kept else []
  { ticked with
    server := server
    context := context
    kept := kept
    runs :=
      if context.handled = ticked.context.handled then ticked.runs
      else ⟨now, ticked.server.stats.currentSession, kept⟩ :: ticked.runs
    leavings := ticked.leavings + leaving ticked.server server }

/-- `Uds_Server_ProcessRequest`. An empty request is turned down before the
time is looked at. -/
def request (system : System) (request : Bytes) (now capacity : Nat) (answers : BackendAnswers)
    (readDid : Option (UInt16 → Nat → DidReadResult)) : System :=
  if request.length = 0 then system
  else
    let answered := { system.context with answers := answers }
    let served := processRequest (config readDid) system.server answered request
      (UInt32.ofNat now) capacity
    ({ system with context := answered }.tick now).note now served.1.2 served.2

end System

def step (system : System) : Event → System
  | .tick now => system.tick now
  | .request request now capacity answers readDid =>
    system.request request now capacity answers readDid

/-- The server is called again before half a round of its clock. -/
def Timely (before : Option Nat) (now : Nat) : Prop :=
  ∀ earlier ∈ before, earlier ≤ now ∧ now < earlier + 2 ^ 31

instance (before : Option Nat) (now : Nat) : Decidable (Timely before now) :=
  inferInstanceAs (Decidable (∀ earlier ∈ before, _))

/-- The server is called in time. -/
def InTime (system : System) : Event → Prop
  | .tick now => Timely system.now now
  | .request request now _ _ _ => request ≠ [] → Timely system.now now

instance (system : System) : (event : Event) → Decidable (InTime system event)
  | .tick now => inferInstanceAs (Decidable (Timely system.now now))
  | .request request now _ _ _ => inferInstanceAs (Decidable (request ≠ [] → Timely system.now now))

/-! ## The invariant -/

/-- A session is kept alive: its requests came less than the timeout
apart. -/
def KeptAlive (kept : List Nat) : Prop :=
  kept ≠ [] ∧ kept.IsChain fun later earlier => earlier ≤ later ∧
    later < earlier + s3ServerTimeoutMs.toNat

/-- The timer, while a session other than the default one runs: it was set
at the latest request, and the time it leaves has not passed. -/
def TimerSet (system : System) : Prop :=
  ∃ last now, system.now = some now ∧ last ≤ now ∧ now < last + s3ServerTimeoutMs.toNat ∧
    system.server.sessionDeadlineMs = UInt32.ofNat (last + s3ServerTimeoutMs.toNat) ∧
    (system.server.stats.currentSession = sessionProgramming → system.kept.head? = some last)

structure Coupled (system : System) : Prop where
  download : system.server.stats.currentSession ≠ sessionProgramming →
    system.context.download.stats.state = .idle
  active : system.server.sessionTimerActive =
    decide (system.server.stats.currentSession ≠ sessionDefault)
  timer : system.server.stats.currentSession ≠ sessionDefault → TimerSet system
  kept : system.server.stats.currentSession = sessionProgramming → KeptAlive system.kept
  gone : system.server.stats.currentSession ≠ sessionProgramming → system.kept = []
  runs : ∀ run ∈ system.runs, run.session = sessionProgramming ∧ KeptAlive run.kept ∧
    run.kept.head? = some run.time
  leavings : system.context.aborts = system.leavings

/-! ## What a step keeps -/

variable {system : System} {now : Nat}

/-- Leaving the programming session aborts, and leaving another does not. -/
theorem leaveSession_programming {readDid : Option (UInt16 → Nat → DidReadResult)}
    {server : Server} {context : Context} (h : server.stats.currentSession = sessionProgramming) :
    (leaveSession (config readDid) server context).2 = programmingAbort context := by
  unfold leaveSession
  rw [if_pos h]
  rfl

theorem leaveSession_other {readDid : Option (UInt16 → Nat → DidReadResult)}
    {server : Server} {context : Context} (h : server.stats.currentSession ≠ sessionProgramming) :
    (leaveSession (config readDid) server context).2 = context := by
  unfold leaveSession
  rw [if_neg h]

/-- Changing the session aborts when it leaves the programming session. -/
theorem changeSession_context {readDid : Option (UInt16 → Nat → DidReadResult)} {server : Server}
    {context : Context} (session : UInt8) :
    (changeSession (config readDid) server context session).2 =
      if server.stats.currentSession = sessionProgramming ∧ session ≠ sessionProgramming then
        programmingAbort context
      else context := by
  unfold changeSession
  split
  · next hchange =>
    dsimp only
    split
    · next hleft => exact leaveSession_programming hleft.1
    · next hstays =>
      refine leaveSession_other fun hprogramming => hstays ⟨hprogramming, fun hsession => ?_⟩
      exact hchange (hprogramming.trans hsession.symm)
  · next hsame => rw [if_neg fun hleft => hleft.2 ((not_not.1 hsame).symm.trans hleft.1)]

/-- The timer tells whether the session's time has passed. -/
theorem deadlineReached_iff {last before : Nat} (hlast : last ≤ before) (hbefore : before ≤ now)
    (hnear : now < before + 2 ^ 31) (hahead : before < last + s3ServerTimeoutMs.toNat) :
    deadlineReached (UInt32.ofNat now) (UInt32.ofNat (last + s3ServerTimeoutMs.toNat)) = true ↔
      last + s3ServerTimeoutMs.toNat ≤ now := by
  have htimeout : s3ServerTimeoutMs.toNat = 5000 := rfl
  unfold deadlineReached
  rw [decide_eq_true_iff]
  exact toInt32_sub_nonneg_iff (by omega) (by omega)

theorem sessionDefault_ne : sessionDefault ≠ sessionProgramming := by decide

theorem tick_coupled (h : Coupled system)
    (htime : Timely system.now now) : Coupled (system.tick now) := by
  have hcases := @tick_cases _ (config none) system.server system.context (UInt32.ofNat now)
  unfold System.tick
  dsimp only
  generalize UdsServer.tick (config none) system.server system.context (UInt32.ofNat now) = ticked
    at hcases
  rcases hcases with ⟨rfl, hkept⟩ | ⟨hactive, hreached, hsession, hinactive, hcontext⟩
  · -- the session, if there is one, goes on
    have hnone : leaving system.server system.server = 0 := if_neg fun hleft => hleft.2 hleft.1
    dsimp only
    constructor
    case download => exact h.download
    case active => exact h.active
    case timer =>
      intro hsession
      obtain ⟨last, before, hbefore, hlast, hahead, hdeadline, hhead⟩ := h.timer hsession
      obtain ⟨hle, hnear⟩ := htime before hbefore
      have hactive : system.server.sessionTimerActive = true := by
        rw [h.active]
        exact decide_eq_true hsession
      have hnot := hkept.resolve_left (ne_false_of_eq_true hactive)
      rw [hdeadline] at hnot
      -- the tick came in time, and it did not end the session: its deadline lies ahead
      have hopen : ¬last + s3ServerTimeoutMs.toNat ≤ now := fun hpast =>
        absurd (hnot.symm.trans ((deadlineReached_iff hlast hle hnear hahead).2 hpast)) nofun
      refine ⟨last, now, rfl, Nat.le_trans hlast hle, Nat.lt_of_not_le hopen, hdeadline,
        fun hprogramming => ?_⟩
      rw [if_pos hprogramming]
      exact hhead hprogramming
    case kept =>
      intro hprogramming
      rw [if_pos hprogramming]
      exact h.kept hprogramming
    case gone =>
      intro hother
      rw [if_neg hother]
    case runs => exact h.runs
    case leavings =>
      rw [hnone, Nat.add_zero]
      exact h.leavings
  -- the session timer has run out, and a transfer under way is aborted with it
  · have hother : ticked.1.stats.currentSession ≠ sessionProgramming := by
      rw [hsession]
      exact sessionDefault_ne
    constructor
    case download =>
      intro _
      dsimp only
      rw [hcontext]
      by_cases hprogramming : system.server.stats.currentSession = sessionProgramming
      · rw [leaveSession_programming hprogramming]
        rfl
      · rw [leaveSession_other hprogramming]
        exact h.download hprogramming
    case active =>
      dsimp only
      rw [hinactive, hsession]
      rfl
    case timer => exact fun hnot => absurd hsession hnot
    case kept => exact fun hprogramming => absurd hprogramming hother
    case gone => exact fun _ => if_neg hother
    case runs => exact h.runs
    case leavings =>
      dsimp only
      rw [hcontext]
      by_cases hprogramming : system.server.stats.currentSession = sessionProgramming
      · rw [leaveSession_programming hprogramming, leaving, if_pos ⟨hprogramming, hother⟩]
        exact congrArg (· + 1) h.leavings
      · rw [leaveSession_other hprogramming, leaving, if_neg fun hleft => hprogramming hleft.1]
        exact h.leavings

/-- What the server is like once the timer was looked at and refreshed. -/
structure Refreshed (ticked server : Server) (now : Nat) : Prop where
  session : server.stats.currentSession = ticked.stats.currentSession
  active : ticked.stats.currentSession = sessionDefault →
    server.sessionTimerActive = ticked.sessionTimerActive
  refreshed : ticked.stats.currentSession ≠ sessionDefault →
    server.sessionTimerActive = true ∧
      server.sessionDeadlineMs = UInt32.ofNat (now + s3ServerTimeoutMs.toNat)

theorem arrived_refreshed {readDid : Option (UInt16 → Nat → DidReadResult)} {server : Server}
    {context : Context} {request : Bytes} :
    Refreshed (UdsServer.tick (config none) server context (UInt32.ofNat now)).1
      (arrived (config readDid) server context request (UInt32.ofNat now)) now := by
  have hsame : UdsServer.tick (config readDid) server context (UInt32.ofNat now) =
      UdsServer.tick (config none) server context (UInt32.ofNat now) := rfl
  unfold arrived refreshSessionTimer
  rw [hsame]
  dsimp only
  split
  · next hother =>
    exact ⟨rfl, fun hdefault => absurd hdefault hother, fun _ => ⟨rfl, ofNat_add_toNat _ _⟩⟩
  · next hdefault => exact ⟨rfl, fun _ => rfl, fun hother => absurd hother hdefault⟩

/-- The latest request keeps the session alive, or enters it. -/
theorem keptAlive_cons (h : Coupled system) (hnow : system.now = some now) :
    KeptAlive (now :: system.kept) := by
  refine ⟨List.cons_ne_nil _ _, ?_⟩
  by_cases hprogramming : system.server.stats.currentSession = sessionProgramming
  · have hother : system.server.stats.currentSession ≠ sessionDefault := by
      rw [hprogramming]
      decide
    obtain ⟨last, now', hnow', hlast, hahead, -, hhead⟩ := h.timer hother
    obtain rfl := Option.some.inj (hnow.symm.trans hnow')
    refine List.isChain_cons.2 ⟨fun earlier hearlier => ?_, (h.kept hprogramming).2⟩
    obtain rfl := Option.some.inj ((hhead hprogramming).symm.trans hearlier)
    exact ⟨hlast, hahead⟩
  · rw [h.gone hprogramming]
    exact List.isChain_singleton _

/-- **What a request has to keep**: away from the programming session the
download is idle, the timer runs from now, the callback ran within the
session, and each leaving aborted once. -/
theorem Coupled.note (h : Coupled system) (hnow : system.now = some now) {server : Server}
    {context : Context}
    (hdownload : server.stats.currentSession ≠ sessionProgramming →
      context.download.stats.state = .idle)
    (hactive : server.sessionTimerActive = decide (server.stats.currentSession ≠ sessionDefault))
    (hdeadline : server.stats.currentSession ≠ sessionDefault →
      server.sessionDeadlineMs = UInt32.ofNat (now + s3ServerTimeoutMs.toNat))
    (hhandled : context.handled ≠ system.context.handled →
      system.server.stats.currentSession = sessionProgramming ∧
        server.stats.currentSession = sessionProgramming)
    (haborts : context.aborts = system.context.aborts + leaving system.server server) :
    Coupled (system.note now server context) := by
  constructor
  case download => exact hdownload
  case active => exact hactive
  case timer =>
    intro hother
    refine ⟨now, now, hnow, Nat.le_refl _, Nat.lt_add_of_pos_right (by decide), hdeadline hother,
      fun hprogramming => ?_⟩
    exact congrArg List.head? (if_pos hprogramming)
  case kept =>
    intro hprogramming
    have hkept : (system.note now server context).kept = now :: system.kept := if_pos hprogramming
    rw [hkept]
    exact keptAlive_cons h hnow
  case gone => exact fun hother => if_neg hother
  case runs =>
    intro run hrun
    by_cases hsame : context.handled = system.context.handled
    · have hruns : (system.note now server context).runs = system.runs := if_pos hsame
      exact h.runs run (hruns ▸ hrun)
    · obtain ⟨hbefore, hafter⟩ := hhandled hsame
      have hruns : (system.note now server context).runs = ⟨now,
          system.server.stats.currentSession, now :: system.kept⟩ :: system.runs := by
        unfold System.note
        dsimp only
        rw [if_neg hsame, if_pos hafter]
      rw [hruns] at hrun
      rcases List.mem_cons.1 hrun with rfl | hearlier
      · exact ⟨hbefore, keptAlive_cons h hnow, rfl⟩
      · exact h.runs run hearlier
  case leavings =>
    refine haborts.trans ?_
    rw [h.leavings]
    rfl

/-- A session that stays as it was is left by nothing. -/
theorem leaving_same {server server' : Server}
    (h : server'.stats.currentSession = server.stats.currentSession) :
    leaving server server' = 0 := by
  refine if_neg fun hleft => hleft.2 ?_
  rw [h]
  exact hleft.1

theorem served_coupled (h : Coupled system) (hnow : system.now = some now)
    {readDid : Option (UInt16 → Nat → DidReadResult)} {request : Bytes} {nowMs : UInt32}
    {capacity : Nat} {server server' : Server} {context : Context}
    (htime : nowMs = UInt32.ofNat now) (hrefreshed : Refreshed system.server server now)
    (hserved : Served (config readDid) server system.context request nowMs capacity server'
      context) : Coupled (system.note now server' context) := by
  -- what stays with a session that stays
  have hsameActive : SameSession server server' → server'.sessionTimerActive =
      decide (server'.stats.currentSession ≠ sessionDefault) := by
    intro hsame
    rw [hsame.active, hsame.session, hrefreshed.session]
    by_cases hdefault : system.server.stats.currentSession = sessionDefault
    · rw [hrefreshed.active hdefault, h.active]
    · rw [(hrefreshed.refreshed hdefault).1, decide_eq_true hdefault]
  have hsameDeadline : SameSession server server' →
      server'.stats.currentSession ≠ sessionDefault →
      server'.sessionDeadlineMs = UInt32.ofNat (now + s3ServerTimeoutMs.toNat) := by
    intro hsame hother
    rw [hsame.session, hrefreshed.session] at hother
    exact hsame.deadline.trans (hrefreshed.refreshed hother).2
  cases hserved with
  | kept hsame hcontext =>
    subst hcontext
    have hsession := hsame.session.trans hrefreshed.session
    refine h.note hnow (fun hother => h.download (hsession ▸ hother)) (hsameActive hsame)
      (hsameDeadline hsame) (fun hne => absurd rfl hne) ?_
    rw [leaving_same hsession, Nat.add_zero]
  | changed session hknown hserver hactive hdeadline hcontext =>
    rw [changeSession_context, hrefreshed.session] at hcontext
    subst hcontext
    have hleaving : leaving system.server server' =
        if system.server.stats.currentSession = sessionProgramming ∧
          session ≠ sessionProgramming then 1 else 0 := by
      unfold leaving
      rw [hserver]
    have htimer : server'.stats.currentSession ≠ sessionDefault →
        server'.sessionDeadlineMs = UInt32.ofNat (now + s3ServerTimeoutMs.toNat) := by
      intro hother
      rw [hdeadline (hserver ▸ hother), htime]
      exact ofNat_add_toNat _ _
    have hstarted : server'.sessionTimerActive =
        decide (server'.stats.currentSession ≠ sessionDefault) := by
      rw [hactive, hserver]
    rw [← hserver] at hleaving ⊢
    by_cases hleft : system.server.stats.currentSession = sessionProgramming ∧
        server'.stats.currentSession ≠ sessionProgramming
    · rw [if_pos hleft] at hleaving ⊢
      refine h.note hnow (fun _ => rfl) hstarted htimer (fun hne => absurd rfl hne) ?_
      rw [hleaving]
      rfl
    · rw [if_neg hleft] at hleaving ⊢
      refine h.note hnow (fun hother => h.download fun hprogramming => ?_) hstarted htimer
        (fun hne => absurd rfl hne) ?_
      · exact hleft ⟨hprogramming, hother⟩
      · rw [hleaving, Nat.add_zero]
  | programmed programming hconfig hsession hsame hcontext =>
    have hprogramming : system.server.stats.currentSession = sessionProgramming :=
      hrefreshed.session.symm.trans hsession
    have hafter : server'.stats.currentSession = sessionProgramming :=
      hsame.session.trans hsession
    have hsession' := hsame.session.trans hrefreshed.session
    obtain rfl := Option.some.inj hconfig
    subst hcontext
    refine h.note hnow (fun hother => absurd hafter hother) (hsameActive hsame)
      (hsameDeadline hsame) (fun _ => ⟨hprogramming, hafter⟩) ?_
    rw [leaving_same hsession', Nat.add_zero]
    rfl

theorem request_coupled (h : Coupled system) {request : Bytes} {capacity : Nat}
    {answers : BackendAnswers} {readDid : Option (UInt16 → Nat → DidReadResult)}
    (htime : request ≠ [] → Timely system.now now) :
    Coupled (system.request request now capacity answers readDid) := by
  unfold System.request
  split
  · exact h
  next hlength =>
  dsimp only
  have hanswered : Coupled { system with context := { system.context with answers := answers } } :=
    ⟨h.download, h.active, h.timer, h.kept, h.gone, h.runs, h.leavings⟩
  have hticked := tick_coupled hanswered (htime (List.length_eq_zero_iff.not.1 hlength))
  have hserved : Served (config readDid) (arrived (config readDid) system.server
      { system.context with answers := answers } request (UInt32.ofNat now))
      (UdsServer.tick (config none) system.server { system.context with answers := answers }
        (UInt32.ofNat now)).2 request (UInt32.ofNat now) capacity _ _ :=
    processRequest_served hlength
  exact served_coupled hticked rfl rfl arrived_refreshed hserved

theorem step_coupled (system : System) (event : Event) (htime : InTime system event)
    (h : Coupled system) : Coupled (step system event) := by
  cases event with
  | tick now => exact tick_coupled h htime
  | request request now capacity answers readDid => exact request_coupled h htime

/-- A server that was set up, and a download that was. -/
def start (download : Download) : System where
  context := { download := download }

theorem start_coupled {config : DownloadConfig} {download : Download}
    (h : UdsDownload.init config = some download) : Coupled (start download) := by
  have hidle : download.stats.state = .idle := by
    unfold UdsDownload.init at h
    split at h
    · cases h
    · cases h
      rfl
  constructor
  case download => exact fun _ => hidle
  case active => rfl
  case timer => exact fun hother => absurd rfl hother
  case kept => exact fun hprogramming => absurd hprogramming sessionDefault_ne
  case gone => exact fun _ => rfl
  case runs => exact List.forall_mem_nil _
  case leavings => rfl

/-- **The session and the download are coupled.** In every run of a server
that is called in time: the download is away from idle only in a
programming session; the timer is active exactly in a session other than
the default one; the callback runs only in a programming session that a
request entered and requests kept alive; and each time the session was left
the download was aborted once. -/
theorem session_coupled (config : DownloadConfig) (download : Download)
    (hinit : UdsDownload.init config = some download) (events : List Event)
    (htime : Along step InTime (start download) events) :
    let system := run step (start download) events
    (system.context.download.stats.state ≠ .idle →
      system.server.stats.currentSession = sessionProgramming) ∧
    (system.server.sessionTimerActive = true ↔
      system.server.stats.currentSession ≠ sessionDefault) ∧
    (∀ run ∈ system.runs, run.session = sessionProgramming ∧ KeptAlive run.kept ∧
      run.kept.head? = some run.time) ∧
    system.context.aborts = system.leavings := by
  intro system
  have h : Coupled system :=
    run_invariant_along step_coupled events _ htime (start_coupled hinit)
  refine ⟨fun hbusy => ?_, ?_, h.runs, h.leavings⟩
  · by_contra hother
    exact hbusy (h.download hother)
  · rw [h.active, decide_eq_true_iff]

/-- The programming session is entered and an erase started. -/
def eraseEvents : List Event :=
  [.request [0x10, 0x02] 1000 8 ⟨true, .pending, .pending, true, true⟩ none,
    .request [0x31, 0x01, 0xFF, 0x00] 4000 32 ⟨true, .pending, .pending, true, true⟩ none]

theorem session_coupled_eraseEvents :
    (run step (start { config := ⟨.a, true⟩ }) eraseEvents).context.download.stats.state =
        .erasing ∧
      (run step (start { config := ⟨.a, true⟩ }) eraseEvents).server.stats.currentSession =
        sessionProgramming :=
  ⟨by decide +kernel, (session_coupled ⟨.a, true⟩ { config := ⟨.a, true⟩ } rfl eraseEvents
    (by decide +kernel)).1 (by decide +kernel)⟩

end UdsCoupling

end CanGui
