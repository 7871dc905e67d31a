import CanGui.Log.Heartbeat
/-!
# Event log — one order of sequence numbers

The firmware counts on across the wrap from the highest number to one; the
GUI compares plain numbers and adds one. The two agree as long as neither
the records of the log nor its next append lie on both sides of the wrap.
-/

namespace CanGui

namespace Log

variable {machine log : Machine} {journal : Journal} {entry : Entry} {uptimeMs : UInt32}

/-! ## The numbers of a log -/

/-- What the log tells of itself. -/
structure Ordered (log : Machine) : Prop where
  count_le : log.ram.count ≤ ramCapacity
  ready : 0 < log.ram.count → log.ram.debug.storageReady = true
  empty : log.ram.count = 0 → log.ram.debug.storageReady = true → log.ram.nextSequence = 1
  oldest_ne_zero : 0 < log.ram.count → log.getInfo.oldestSequence ≠ 0
  /-- The records are numbered one after the other, -/
  latest : 0 < log.ram.count →
    log.getInfo.latestSequence = sequenceAfter log.getInfo.oldestSequence (log.ram.count - 1)
  /-- and the next append goes on from them. -/
  next : 0 < log.ram.count → log.ram.nextSequence = nextSequence log.getInfo.latestSequence

theorem getInfo_empty (h : log.ram.count = 0) :
    log.getInfo.oldestSequence = 0 ∧ log.getInfo.latestSequence = 0 := ⟨if_pos h, if_pos h⟩

/-- The information is that of the journal. -/
theorem Tracks.getInfo (h : Tracks machine journal) (hready : journal.ready = true)
    (hpos : 0 < journal.kept.length) :
    machine.getInfo.oldestSequence = journal.kept[0].sequence ∧
      machine.getInfo.latestSequence = journal.kept[journal.kept.length - 1].sequence := by
  obtain ⟨tail, hholds, haligned⟩ := h.holds
  have haligned := haligned hready
  have hfits := hholds.fits
  have htail := hholds.tail_lt
  have hsome : machine.ram.count ≠ 0 := by
    rw [haligned.count]
    exact Nat.ne_of_gt hpos
  constructor
  · have hslot : (tail + 0) % ramCapacity = machine.ram.tailIndex := by
      rw [haligned.tailIndex]
      exact Nat.mod_eq_of_lt htail
    have hheld := hholds.held 0 hpos
    rw [hslot] at hheld
    change (if machine.ram.count = 0 then 0 else _) = _
    rw [if_neg hsome, hheld, recordOf_words]
  · have hslot : (tail + (journal.kept.length - 1)) % ramCapacity = machine.latestIndex := by
      rw [Machine.latestIndex, haligned.headIndex]
      unfold ramCapacity at *
      omega
    have hheld := hholds.held (journal.kept.length - 1) (by omega)
    rw [hslot] at hheld
    change (if machine.ram.count = 0 then 0 else _) = _
    rw [if_neg hsome, hheld, recordOf_words]

theorem Tracks.ordered (h : Tracks machine journal)
    (hidle : machine.ram.debug.storageReady = false → machine.ram.count = 0) : Ordered machine := by
  have hready : 0 < machine.ram.count → machine.ram.debug.storageReady = true := by
    intro hpos
    by_contra hnot
    rw [hidle (eq_false_of_ne_true hnot)] at hpos
    exact Nat.lt_irrefl 0 hpos
  have hkept (hstorage : machine.ram.debug.storageReady = true) :
      machine.ram.count = journal.kept.length :=
    ((h.restored (h.ready.symm.trans hstorage)).count).1
  have hpositive (hpos : 0 < machine.ram.count) :
      journal.ready = true ∧ machine.ram.count = journal.kept.length ∧ 0 < journal.kept.length := by
    have hstorage := hready hpos
    exact ⟨h.ready.symm.trans hstorage, hkept hstorage, hkept hstorage ▸ hpos⟩
  obtain ⟨tail, hholds, -⟩ := h.holds
  obtain ⟨first, hfirst, hnumbered⟩ := hholds.numbered
  constructor
  case count_le => exact h.count_le hidle
  case ready => exact hready
  case empty =>
    intro hnone hstorage
    have hnil := List.eq_nil_of_length_eq_zero ((hkept hstorage).symm.trans hnone)
    rw [(h.restored (h.ready.symm.trans hstorage)).nextSequence, hnil]
    rfl
  case oldest_ne_zero =>
    intro hpos
    obtain ⟨hjournal, -, hlength⟩ := hpositive hpos
    rw [(h.getInfo hjournal hlength).1, hnumbered 0 hlength]
    exact hfirst
  case latest =>
    intro hpos
    obtain ⟨hjournal, hcount, hlength⟩ := hpositive hpos
    obtain ⟨holdest, hlatest⟩ := h.getInfo hjournal hlength
    rw [holdest, hlatest, hcount, hnumbered 0 hlength, hnumbered _ (by omega)]
    rfl
  case next =>
    intro hpos
    obtain ⟨hjournal, -, hlength⟩ := hpositive hpos
    rw [(h.restored hjournal).nextSequence, successor_of_pos hlength,
      (h.getInfo hjournal hlength).2]

/-- **Every log is ordered**, over every run. -/
theorem ordered_run {storage : List Slot} (hlength : storage.length = ramCapacity)
    (hnone : ∀ index < ramCapacity, isRecordValid (slotAt storage index) = false)
    (events : List Event) : Ordered (run step { records := storage } events) :=
  (tracks_run (tracks_start hlength hnone) events).ordered
    (count_of_not_ready events { records := storage } fun _ => rfl)

theorem push_accepted (haccepts : log.accepts entry = true) :
    log.pushWithRtcTime entry uptimeMs =
      (true, (log.commit (entry.record uptimeMs log.ram.nextSequence) 9).advance
        (entry.record uptimeMs log.ram.nextSequence)) := by
  obtain ⟨hinput, hstorage⟩ := Bool.and_eq_true_iff.1 haccepts
  rw [Machine.pushWithRtcTime, hinput, hstorage]
  rfl

/-- **An append is the latest record**, under the number that was next. -/
theorem Tracks.appended (h : Tracks machine journal) (haccepts : machine.accepts entry = true) :
    let machine' := (machine.pushWithRtcTime entry uptimeMs).2
    0 < machine'.ram.count ∧ machine'.getInfo.latestSequence = machine.ram.nextSequence := by
  intro machine'
  have hpushed := h.push entry uptimeMs
  obtain ⟨hinput, hstorage⟩ := Bool.and_eq_true_iff.1 haccepts
  have hready : journal.ready = true := h.ready.symm.trans hstorage
  have hkept : (journal.push entry uptimeMs).kept =
      makeRoom journal.kept ++ [entry.record uptimeMs (successor journal.kept)] := by
    rw [Journal.push, hinput, hready]
    rfl
  have hready' : (journal.push entry uptimeMs).ready = true := by
    rw [Journal.push]
    split <;> exact hready
  have hpos : 0 < (journal.push entry uptimeMs).kept.length := by
    rw [hkept, List.length_append]
    exact Nat.succ_pos _
  refine ⟨(hpushed.restored hready').count.1 ▸ hpos, ?_⟩
  rw [(hpushed.getInfo hready' hpos).2, (h.restored hready).nextSequence]
  simp only [hkept, List.length_append, List.length_singleton, Nat.add_sub_cancel,
    List.getElem_concat_length]
  rfl

/-! ## The wrap -/

namespace Machine

/-- The records lie on both sides of the wrap. -/
def straddles (log : Machine) : Prop :=
  0 < log.ram.count ∧ log.getInfo.latestSequence < log.getInfo.oldestSequence

instance (log : Machine) : Decidable log.straddles := inferInstanceAs (Decidable (_ ∧ _))

end Machine

def lastSequence : UInt32 := 0xFFFFFFFF

/-- The numbers of the records, as plain ones. -/
theorem Ordered.toNat_latest (h : Ordered log) (hpos : 0 < log.ram.count) :
    log.getInfo.oldestSequence.toNat + log.ram.count =
      log.getInfo.latestSequence.toNat + if log.straddles then 2 ^ 32 else 1 := by
  have hcount := h.count_le
  have holdest := log.getInfo.oldestSequence.toNat_lt
  have hnear : log.ram.count - 1 < 2 ^ 31 := by
    unfold ramCapacity at hcount
    omega
  have hnumber := toNat_sequenceAfter (h.oldest_ne_zero hpos) hnear
  rw [← h.latest hpos] at hnumber
  have hwrap : log.straddles ↔ log.getInfo.latestSequence.toNat < log.getInfo.oldestSequence.toNat :=
    and_iff_right hpos
  unfold ramCapacity at hcount
  -- the numbers alone matter from here on
  generalize log.getInfo.latestSequence.toNat = latest at *
  generalize log.getInfo.oldestSequence.toNat = oldest at *
  by_cases hstraddles : log.straddles
  · have hless := hwrap.1 hstraddles
    rw [if_pos hstraddles]
    split at hnumber <;> omega
  · have hmore := mt hwrap.2 hstraddles
    rw [if_neg hstraddles]
    split at hnumber <;> omega

/-! ## The information -/

namespace Sync

variable {sync : State} {env : Env} {bytes : Bytes}

/-- A fragment that does not complete the information. -/
theorem step_infoFragment {start : State} {received : Finset (Fin logInfoFragmentCount)}
    (h : Collecting start .info bytes received sync) (index : Fin logInfoFragmentCount)
    (hmissing : insert index received ≠ Finset.univ) :
    Collecting start .info bytes (insert index received)
        (step sync (.message (fragmentMessage .info bytes index) env)) ∧
      (step sync (.message (fragmentMessage .info bytes index) env)).protocolErrorCount =
        sync.protocolErrorCount := by
  have hput := h.put index
  have hafter : step sync (.message (fragmentMessage .info bytes index) env) =
      sync.put .info index (piece bytes index) :=
    (handleMessage_fragment h.pendingKind index.2).trans (if_neg (mt hput.length_eq_iff.1 hmissing))
  rw [hafter]
  exact ⟨hput, rfl⟩

/-- **The fragments of the information, in order**, are put together. -/
theorem run_infoFragments (hkind : sync.pendingKind = some .info)
    (hclear : sync.infoFragments = .clear _) (hsize : bytes.length = logInfoWireSize) :
    ∃ full : State, Collecting sync .info bytes Finset.univ full ∧
      full.protocolErrorCount = sync.protocolErrorCount ∧
      run step sync (arriving env (fragments logInfoFragmentBase bytes logInfoFragmentCount)) =
        full.completeInfo env := by
  have hstart : Collecting sync .info bytes ∅ sync := by
    refine ⟨hkind, rfl, rfl, fun i => ?_, rfl, rfl⟩
    change sync.infoFragments[i.1] = _
    simp [hclear, Fragments.clear]
  have hfirst := (@step_infoFragment _ env) hstart (0 : Fin 3) (by decide)
  have hsecond := (@step_infoFragment _ env) hfirst.1 (1 : Fin 3) (by decide)
  generalize hone : step sync (.message (fragmentMessage .info bytes (0 : Fin 3)) env) = one at *
  generalize htwo : step one (.message (fragmentMessage .info bytes (1 : Fin 3)) env) = two at *
  have hthree : Completed sync .info bytes two (fragmentMessage .info bytes (2 : Fin 3)) env
      (two.put .info (2 : Fin 3) (piece bytes (2 : Fin 3))) :=
    hsecond.1.last hsize (2 : Fin 3) (by decide)
  refine ⟨_, hthree.collected, hsecond.2.trans hfirst.2, ?_⟩
  have hevents : arriving env (fragments logInfoFragmentBase bytes logInfoFragmentCount) =
      [.message (fragmentMessage .info bytes (0 : Fin 3)) env,
        .message (fragmentMessage .info bytes (1 : Fin 3)) env,
        .message (fragmentMessage .info bytes (2 : Fin 3)) env] := rfl
  rw [hevents, run_cons, run_cons, run_cons, run_nil, hone, htwo]
  exact hthree.after

theorem resume_errors (sync : State) (info : State.InfoValues) :
    (sync.resume info).protocolErrorCount = sync.protocolErrorCount := by
  unfold State.resume
  split
  · rfl
  · split
    · rfl
    · split <;> rfl

theorem completeInfo_errors
    (hvalid : (State.decodeInfo (sync.infoFragments.join.take logInfoWireSize)).invalid = false) :
    (sync.completeInfo env).protocolErrorCount = sync.protocolErrorCount := by
  unfold State.completeInfo
  dsimp only
  rw [hvalid, if_neg Bool.false_ne_true]
  refine (resume_errors _ _).trans ?_
  dsimp only
  split <;> rfl

/-- The GUI takes over what the log says of itself. -/
def InfoAccepted (log : Machine) : Prop :=
  ∀ (sync : State) (env : Env), sync.pendingKind = some .info → sync.infoFragments = .clear _ →
    let after := run step sync (arriving env
      (fragments logInfoFragmentBase (wireInfo log.getInfo) logInfoFragmentCount))
    after.protocolErrorCount = sync.protocolErrorCount ∧ after.infoRequired = false ∧
      after.latestSequence = log.getInfo.latestSequence.toNat

/-- What the log says of itself is refused when its records straddle the
wrap, and only then. -/
theorem valuesOf_invalid (hcount : log.ram.count ≤ ramCapacity) :
    (valuesOf log.getInfo).invalid = decide log.straddles := by
  have hcapacity : ¬(valuesOf log.getInfo).capacity < (valuesOf log.getInfo).count :=
    Nat.not_lt_of_le hcount
  rw [State.InfoValues.invalid, decide_eq_false hcapacity, Bool.or_false]
  exact (Bool.decide_and _ _).symm

theorem infoAccepted_iff (h : Ordered log) : InfoAccepted log ↔ ¬log.straddles := by
  have hvalues := decodeInfo_wireInfo h.count_le
  have hinvalid := valuesOf_invalid h.count_le
  have hjoin {sync full : State} (hfull : Collecting sync .info (wireInfo log.getInfo) Finset.univ full) :
      State.decodeInfo (full.infoFragments.join.take logInfoWireSize) = valuesOf log.getInfo :=
    (congrArg State.decodeInfo (hfull.join (length_wireInfo log.getInfo))).trans hvalues
  constructor
  · intro haccepted hstraddles
    -- a GUI that has just asked refuses it
    obtain ⟨full, hfull, -, hafter⟩ := @run_infoFragments { pendingKind := some .info } { now := 0 }
      (wireInfo log.getInfo) rfl rfl (length_wireInfo _)
    obtain ⟨-, hrequired, -⟩ := haccepted { pendingKind := some .info } { now := 0 } rfl rfl
    have hinformed := (@completeInfo_informed _ { now := 0 }) (hjoin hfull)
    rw [hafter, hinformed.infoRequired, hinvalid, decide_eq_true hstraddles] at hrequired
    cases hrequired
  · intro hstraddles sync env hkind hclear
    obtain ⟨full, hfull, herrors, hafter⟩ := (@run_infoFragments _ env) hkind hclear
      (length_wireInfo log.getInfo)
    have hvalid : (valuesOf log.getInfo).invalid = false := by
      rw [hinvalid, decide_eq_false hstraddles]
    have hinformed := (@completeInfo_informed _ env) (hjoin hfull)
    dsimp only
    rw [hafter]
    refine ⟨(completeInfo_errors (hjoin hfull ▸ hvalid)).trans herrors, ?_,
      hinformed.latestSequence hvalid⟩
    rw [hinformed.infoRequired, hvalid]

/-! ## The heartbeat -/

/-- The GUI accepts the heartbeat, and finds the log's oldest record where
the log has it. -/
def HeartbeatAccepted (log : Machine) : Prop :=
  (∀ (sync : State) (alive : UInt8) (env : Env),
    let after := step sync (.message (heartbeatMessage log.getInfo alive) env)
    after.protocolErrorCount = sync.protocolErrorCount ∧ after.heartbeatReady = true ∧
      after.heartbeatLatestSequence = log.getInfo.latestSequence.toNat ∧
      after.heartbeatRecordCount = log.getInfo.count) ∧
  (0 < log.ram.count →
    State.oldestAvailable log.getInfo.latestSequence.toNat log.getInfo.count =
      log.getInfo.oldestSequence.toNat)

theorem heartbeat_read (h : Ordered log) (sync : State) (alive : UInt8) (env : Env) :
    let after := step sync (.message (heartbeatMessage log.getInfo alive) env)
    after.protocolErrorCount = sync.protocolErrorCount ∧ after.heartbeatReady = true ∧
      after.heartbeatLatestSequence = log.getInfo.latestSequence.toNat ∧
      after.heartbeatRecordCount = log.getInfo.count := by
  have hfollow (sync : State) (latest count : Nat) :
      let after := sync.followHeartbeat latest count env
      after.protocolErrorCount = sync.protocolErrorCount ∧
        after.heartbeatReady = sync.heartbeatReady ∧
        after.heartbeatLatestSequence = sync.heartbeatLatestSequence ∧
        after.heartbeatRecordCount = sync.heartbeatRecordCount := by
    unfold State.followHeartbeat
    dsimp only
    repeat' split
    all_goals exact ⟨rfl, rfl, rfl, rfl⟩
  intro after
  have hafter : after = _ := handleMessage_heartbeat h.count_le
  rw [hafter]
  exact hfollow _ _ _

theorem heartbeatAccepted_iff (h : Ordered log) : HeartbeatAccepted log ↔ ¬log.straddles := by
  constructor
  · rintro ⟨-, hconsistent⟩ hstraddles
    have hoffset := hconsistent hstraddles.1
    have hlatest := h.toNat_latest hstraddles.1
    have hcount : log.getInfo.count = log.ram.count := rfl
    have hpos := hstraddles.1
    have hwide := h.count_le
    rw [if_pos hstraddles] at hlatest
    rw [State.oldestAvailable, hcount, if_pos hpos] at hoffset
    have hless : log.getInfo.latestSequence.toNat < log.getInfo.oldestSequence.toNat := hstraddles.2
    unfold ramCapacity at hwide
    omega
  · intro hstraddles
    refine ⟨heartbeat_read h, fun hpos => ?_⟩
    have hlatest := h.toNat_latest hpos
    have hcount : log.getInfo.count = log.ram.count := rfl
    rw [if_neg hstraddles] at hlatest
    rw [State.oldestAvailable, hcount, if_pos hpos]
    omega

/-! ## The next append -/

/-- The GUI has what the log has, and waits for the next record. -/
structure CaughtUp (sync : State) (log : Machine) : Prop where
  bootstrapComplete : sync.bootstrapComplete = true
  infoRequired : sync.infoRequired = false
  pendingKind : sync.pendingKind = none
  latestSequence : sync.latestSequence = log.getInfo.latestSequence.toNat
  nextSequence : sync.nextSequence =
    if log.ram.count = 0 then none else some (log.getInfo.latestSequence.toNat + 1 : Int)
  lastSaved_le : sync.lastSavedSequence ≤ log.getInfo.latestSequence.toNat

/-- A GUI that was caught up asks for the appended record next: after the
heartbeat of the log, at its next turn. -/
def AppendRequested (log : Machine) : Prop :=
  ∀ (entry : Entry) (uptimeMs : UInt32), log.accepts entry = true →
    ∀ sync, CaughtUp sync log → ∀ (alive : UInt8) (env env' : Env),
      State.canSend env' = true → env'.enabled = true → env'.now - env.now < heartbeatTimeout →
        let log' := (log.pushWithRtcTime entry uptimeMs).2
        let after := run step sync
          [.message (heartbeatMessage log'.getInfo alive) env, .process env']
        after.pendingKind = some .record ∧
          after.pendingSequence = some (log.ram.nextSequence.toNat : Int)

variable {env' : Env} {alive : UInt8} {info : Info}

/-- A turn soon after a heartbeat. -/
theorem process_heard (hkind : sync.pendingKind = none) (hready : sync.heartbeatReady = true)
    (htime : sync.lastHeartbeatTime = some env.now) (hactive : sync.heartbeatTimeoutActive = false)
    (hsend : State.canSend env' = true) (henabled : env'.enabled = true)
    (hsoon : env'.now - env.now < heartbeatTimeout) :
    sync.process env' =
      if sync.infoRequired then
        if sync.nextInfoTime ≤ env'.now then
          { sync.requestInfo env' with nextInfoTime := env'.now + infoRetryDelay }
        else sync
      else match sync.nextSequence with
        | none => sync
        | some next => if next ≤ sync.latestSequence then sync.requestRecord next env' else sync := by
  have hbus : env'.bus = true := (Bool.and_eq_true_iff.1 hsend).1
  have hstays : sync.updateHeartbeatTimeout env' = sync := by
    rw [State.updateHeartbeatTimeout, htime]
    exact if_neg fun hlate => Nat.not_le_of_lt hsoon hlate.1
  rw [State.process, if_neg (by simp [hbus, henabled]), hstays]
  dsimp only
  rw [hkind]
  dsimp only
  exact if_neg (by simp [hready, htime, hactive])

/-- **What follows the latest number is asked for**, when the heartbeat
says that it is there. -/
theorem CaughtUp.requests (h : CaughtUp sync log) (hcount : info.count ≤ ramCapacity)
    (hpos : 0 < info.count)
    (hlatest : info.latestSequence.toNat = log.getInfo.latestSequence.toNat + 1)
    (hone : log.ram.count = 0 → info.count = 1) (hsend : State.canSend env' = true)
    (henabled : env'.enabled = true) (hsoon : env'.now - env.now < heartbeatTimeout) :
    let after := run step sync [.message (heartbeatMessage info alive) env, .process env']
    after.pendingKind = some .record ∧
      after.pendingSequence = some (info.latestSequence.toNat : Int) := by
  have hoffset : State.oldestAvailable info.latestSequence.toNat info.count ≤
      info.latestSequence.toNat := by
    rw [State.oldestAvailable, if_pos hpos]
    omega
  -- the record asked for is the one behind those the GUI has
  have hrequested : State.requestedSequence (sync.heard info alive env)
      (State.oldestAvailable info.latestSequence.toNat info.count) = info.latestSequence.toNat := by
    have hnextHeard : (sync.heard info alive env).nextSequence = sync.nextSequence := rfl
    have hsavedHeard : (sync.heard info alive env).lastSavedSequence = sync.lastSavedSequence := rfl
    rw [State.requestedSequence, hnextHeard, hsavedHeard, h.nextSequence]
    by_cases hempty : log.ram.count = 0
    · have hnothing : log.getInfo.latestSequence.toNat = 0 := by
        rw [(getInfo_empty hempty).2]
        rfl
      have hunsaved : ¬0 < sync.lastSavedSequence := by
        have hsaved := h.lastSaved_le
        omega
      rw [if_pos hempty]
      dsimp only
      rw [if_neg hunsaved, State.oldestAvailable, if_pos hpos, hone hempty]
      omega
    · rw [if_neg hempty]
      dsimp only
      omega
  obtain ⟨followed, hfollowed, hkind, hready, htime, hactive, hrequired, hnext, hlatest'⟩ :
      ∃ followed : State, (sync.heard info alive env).followHeartbeat info.latestSequence.toNat
          info.count env = followed ∧
        followed.pendingKind = none ∧ followed.heartbeatReady = true ∧
        followed.lastHeartbeatTime = some env.now ∧ followed.heartbeatTimeoutActive = false ∧
        followed.infoRequired = false ∧
        followed.nextSequence = some (info.latestSequence.toNat : Int) ∧
        followed.latestSequence = info.latestSequence.toNat := by
    have hbootstrap : (sync.heard info alive env).bootstrapComplete = true := h.bootstrapComplete
    have hbehind : (sync.heard info alive env).latestSequence = log.getInfo.latestSequence.toNat :=
      h.latestSequence
    rw [State.followHeartbeat, if_neg (by simp [hbootstrap]), hbehind, if_neg (by omega),
      if_pos (by omega)]
    dsimp only
    rw [hrequested, if_neg (not_lt.2 hoffset)]
    exact ⟨_, rfl, h.pendingKind, rfl, rfl, rfl, h.infoRequired, rfl, rfl⟩
  intro after
  have hafter : after = followed.requestRecord info.latestSequence.toNat env' := by
    change State.process (sync.handleMessage (heartbeatMessage info alive) env) env' = _
    rw [handleMessage_heartbeat hcount, hfollowed,
      process_heard hkind hready htime hactive hsend henabled hsoon, hrequired,
      if_neg Bool.false_ne_true, hnext, hlatest']
    exact if_pos (Int.le_refl _)
  rw [hafter, requestRecord_sent _ _ hsend]
  exact ⟨rfl, rfl⟩

/-- **A number that goes back is taken for a log started over**: the
information is asked for and no record. -/
theorem CaughtUp.startsOver (h : CaughtUp sync log) (hcount : info.count ≤ ramCapacity)
    (hlatest : info.latestSequence.toNat < log.getInfo.latestSequence.toNat)
    (hsend : State.canSend env' = true) (henabled : env'.enabled = true)
    (hsoon : env'.now - env.now < heartbeatTimeout) (hafter : env.now ≤ env'.now) :
    (run step sync [.message (heartbeatMessage info alive) env, .process env']).pendingKind =
      some .info := by
  obtain ⟨followed, hfollowed, hkind, hready, htime, hactive, hrequired, hnext⟩ :
      ∃ followed : State, (sync.heard info alive env).followHeartbeat info.latestSequence.toNat
          info.count env = followed ∧
        followed.pendingKind = none ∧ followed.heartbeatReady = true ∧
        followed.lastHeartbeatTime = some env.now ∧ followed.heartbeatTimeoutActive = false ∧
        followed.infoRequired = true ∧ followed.nextInfoTime = env.now := by
    have hbootstrap : (sync.heard info alive env).bootstrapComplete = true := h.bootstrapComplete
    have hahead : (sync.heard info alive env).latestSequence = log.getInfo.latestSequence.toNat :=
      h.latestSequence
    rw [State.followHeartbeat, if_neg (by simp [hbootstrap]), hahead, if_pos hlatest]
    exact ⟨_, rfl, h.pendingKind, rfl, rfl, rfl, rfl, rfl⟩
  change (State.process (sync.handleMessage (heartbeatMessage info alive) env) env').pendingKind = _
  rw [handleMessage_heartbeat hcount, hfollowed,
    process_heard hkind hready htime hactive hsend henabled hsoon, hrequired, if_pos rfl,
    if_pos (hnext ▸ hafter), requestInfo_sent _ hsend]

/-- The log with an append more. -/
theorem appended {entry : Entry} {uptimeMs : UInt32} {journal : Journal} (htracks : Tracks log journal)
    (haccepts : log.accepts entry = true) :
    let log' := (log.pushWithRtcTime entry uptimeMs).2
    log'.ram.count ≤ ramCapacity ∧ 0 < log'.ram.count ∧
      (log.ram.count = 0 → log'.ram.count = 1) ∧
      log'.getInfo.latestSequence = log.ram.nextSequence := by
  intro log'
  obtain ⟨hpos, hlatest⟩ := htracks.appended haccepts
  have hready : log'.ram.debug.storageReady = true := by
    change (log.pushWithRtcTime entry uptimeMs).2.ram.debug.storageReady = true
    rw [push_accepted haccepts]
    exact (Bool.and_eq_true_iff.1 haccepts).2
  refine ⟨(htracks.push entry uptimeMs).count_le fun hnot => ?_, hpos, fun hempty => ?_, hlatest⟩
  · exact absurd (hnot.symm.trans hready) nofun
  · change (log.pushWithRtcTime entry uptimeMs).2.ram.count = 1
    rw [push_accepted haccepts]
    change (if decide (ramCapacity ≤ log.ram.count) = true then log.ram.count
      else log.ram.count + 1) = 1
    rw [hempty]
    rfl

theorem appendRequested_iff {journal : Journal} (htracks : Tracks log journal)
    (hidle : log.ram.debug.storageReady = false → log.ram.count = 0) :
    AppendRequested log ↔ log.getInfo.latestSequence ≠ lastSequence := by
  have h := htracks.ordered hidle
  have hlast : lastSequence.toNat = 2 ^ 32 - 1 := rfl
  constructor
  · intro hrequested hwraps
    -- the next number is one, which the GUI takes for a log started over
    have hpos : 0 < log.ram.count := by
      by_contra hnone
      rw [(getInfo_empty (Nat.eq_zero_of_not_pos hnone)).2] at hwraps
      exact absurd hwraps (by decide)
    have haccepts : log.accepts bootEntry = true := by
      rw [Machine.accepts, h.ready hpos]
      rfl
    have hone : log.ram.nextSequence = 1 := by
      rw [h.next hpos, hwraps]
      rfl
    obtain ⟨hcount, -, -, hlatest⟩ := appended htracks haccepts
    let sync : State := {
      bootstrapComplete := true
      infoRequired := false
      latestSequence := lastSequence.toNat
      nextSequence := some (lastSequence.toNat + 1 : Int) }
    have hcaught : CaughtUp sync log := by
      refine ⟨rfl, rfl, rfl, ?_, ?_, Nat.zero_le _⟩
      · rw [hwraps]
      · rw [hwraps, if_neg (Nat.ne_of_gt hpos)]
    obtain ⟨hkind, -⟩ := hrequested bootEntry 0 haccepts sync hcaught 0 { now := 0 } { now := 0 } rfl
      rfl (by decide)
    have hback : ((log.pushWithRtcTime bootEntry 0).2.getInfo.latestSequence).toNat <
        log.getInfo.latestSequence.toNat := by
      rw [hlatest, hone, hwraps]
      decide
    rw [hcaught.startsOver hcount hback rfl rfl (by decide) (Nat.le_refl _)] at hkind
    cases hkind
  · intro hwraps entry uptimeMs haccepts sync hcaught alive env env' hsend henabled hsoon log' after
    obtain ⟨hcount, hpos, hone, hlatest⟩ := (@appended _ _ uptimeMs) htracks haccepts
    have hnext : log.ram.nextSequence.toNat = log.getInfo.latestSequence.toNat + 1 := by
      by_cases hempty : log.ram.count = 0
      · rw [h.empty hempty (Bool.and_eq_true_iff.1 haccepts).2, (getInfo_empty hempty).2]
        rfl
      · have hinside : log.getInfo.latestSequence.toNat + 1 ≠ 2 ^ 32 := by
          intro htop
          exact hwraps (UInt32.toNat_inj.1 (hlast ▸ by omega))
        rw [h.next (Nat.pos_of_ne_zero hempty), toNat_nextSequence, if_neg hinside]
    have hrequests := (@CaughtUp.requests _ _ env _ alive) hcaught hcount hpos
      (hlatest ▸ hnext) hone hsend henabled hsoon
    rw [hlatest] at hrequests
    exact hrequests

/-! ## Agreement -/

/-- The GUI agrees with the log on the order of its records. -/
structure Agrees (log : Machine) : Prop where
  info : InfoAccepted log
  heartbeat : HeartbeatAccepted log
  append : AppendRequested log

theorem agrees_iff {journal : Journal} (htracks : Tracks log journal)
    (hidle : log.ram.debug.storageReady = false → log.ram.count = 0) :
    Agrees log ↔ ¬log.straddles ∧ log.getInfo.latestSequence ≠ lastSequence := by
  have h := htracks.ordered hidle
  rw [← infoAccepted_iff h, ← appendRequested_iff htracks hidle]
  constructor
  · exact fun hagrees => ⟨hagrees.info, hagrees.append⟩
  · rintro ⟨hinfo, happend⟩
    exact ⟨hinfo, (heartbeatAccepted_iff h).2 ((infoAccepted_iff h).1 hinfo), happend⟩

/-- **The two agree away from the wrap, and only there.** Over every run of
the log: its information and its heartbeat are accepted, and a GUI that was
caught up asks for the next append, exactly when neither the records nor
the next append lie on both sides of the wrap. -/
theorem agrees_awayFromWrap {storage : List Slot} (hlength : storage.length = ramCapacity)
    (hnone : ∀ index < ramCapacity, isRecordValid (slotAt storage index) = false)
    (events : List Log.Event) :
    let log := run Log.step { records := storage } events
    Agrees log ↔ ¬log.straddles ∧ log.getInfo.latestSequence ≠ lastSequence :=
  agrees_iff (tracks_run (tracks_start hlength hnone) events)
    (count_of_not_ready events { records := storage } fun _ => rfl)

/-- The log with one record. -/
theorem agrees_awayFromWrap_first :
    let log := run Log.step { records := clearRetainedStorage } [.init, .push bootEntry 10]
    Agrees log ↔ ¬log.straddles ∧ log.getInfo.latestSequence ≠ lastSequence :=
  agrees_awayFromWrap (List.length_replicate ..) clearedStorage_invalid _

/-! ## At the wrap -/

/-- A log that has had so many appends and no reset. -/
def pushed (n : Nat) : Machine :=
  run Log.step { records := clearRetainedStorage } (.init :: List.replicate n (.push bootEntry 0))

/-- Its journal. -/
def pushedJournal (n : Nat) : Journal :=
  run Journal.step { ready := true } (List.replicate n (.push bootEntry 0))

theorem pushed_tracks (n : Nat) : Tracks (pushed n) (pushedJournal n) :=
  tracks_run (tracks_start (List.length_replicate ..) clearedStorage_invalid) _

theorem pushed_idle (n : Nat) :
    (pushed n).ram.debug.storageReady = false → (pushed n).ram.count = 0 :=
  count_of_not_ready _ { records := clearRetainedStorage } fun _ => rfl

theorem pushedJournal_succ (n : Nat) :
    pushedJournal (n + 1) = (pushedJournal n).push bootEntry 0 := by
  rw [pushedJournal, List.replicate_succ', run_append]
  rfl

/-- Each append takes the next number, and the journal fills up. -/
theorem pushedJournal_numbered (n : Nat) :
    (pushedJournal n).ready = true ∧ successor (pushedJournal n).kept = sequenceAfter 1 n ∧
      (pushedJournal n).kept.length = min n ramCapacity := by
  induction n with
  | zero => exact ⟨rfl, rfl, rfl⟩
  | succ n ih =>
    obtain ⟨hready, hnext, hlength⟩ := ih
    have hkept : ((pushedJournal n).push bootEntry 0) = { pushedJournal n with
        kept := makeRoom (pushedJournal n).kept ++
          [bootEntry.record 0 (successor (pushedJournal n).kept)] } := if_pos (by rw [hready]; rfl)
    rw [pushedJournal_succ, hkept]
    refine ⟨hready, ?_, ?_⟩
    · rw [successor_append, record_sequence, hnext]
      rfl
    · rw [List.length_append, List.length_singleton, makeRoom]
      split
      · omega
      · rw [List.length_tail]
        unfold ramCapacity at *
        omega

theorem pushedJournal_kept (n : Nat) :
    (pushedJournal (n + 1)).kept =
      makeRoom (pushedJournal n).kept ++ [bootEntry.record 0 (sequenceAfter 1 n)] := by
  obtain ⟨hready, hnext, -⟩ := pushedJournal_numbered n
  have hpushed : (pushedJournal n).push bootEntry 0 = _ := if_pos (by rw [hready]; rfl)
  rw [pushedJournal_succ, hpushed, hnext]

/-- The last numbers are kept. -/
theorem pushedJournal_sequences (n : Nat) :
    (pushedJournal n).kept.map (·.sequence) =
      ((List.range n).map (sequenceAfter 1)).drop (n - ramCapacity) := by
  induction n with
  | zero => rfl
  | succ n ih =>
    have hlength := (pushedJournal_numbered n).2.2
    have hdropped : (pushedJournal n).kept.length + 1 - ramCapacity + (n - ramCapacity) =
        n + 1 - ramCapacity := by omega
    rw [pushedJournal_kept, makeRoom_eq_drop (by omega), List.map_append, List.map_drop, ih,
      List.drop_drop, Nat.add_comm (n - ramCapacity), hdropped, List.range_succ, List.map_append,
      List.drop_append_of_le_length]
    · rfl
    · rw [List.length_map, List.length_range]
      unfold ramCapacity
      omega

theorem toNat_sequenceAfter_one (n : Nat) (hn : n + 1 < 2 ^ 32) :
    (sequenceAfter 1 n).toNat = n + 1 := by
  induction n with
  | zero => rfl
  | succ n ih =>
    have hbefore := ih (Nat.lt_of_succ_lt hn)
    rw [sequenceAfter, toNat_nextSequence, hbefore, if_neg (Nat.ne_of_lt hn)]

theorem pushed_count (n : Nat) : (pushed n).ram.count = min n ramCapacity := by
  obtain ⟨hready, -, hlength⟩ := pushedJournal_numbered n
  exact ((pushed_tracks n).restored hready).count.1.trans hlength

theorem pushed_latest (n : Nat) :
    (pushed (n + 1)).getInfo.latestSequence = sequenceAfter 1 n := by
  have hordered := (pushed_tracks (n + 1)).ordered (pushed_idle _)
  obtain ⟨hready, hnext, -⟩ := pushedJournal_numbered (n + 1)
  have hpos : 0 < (pushed (n + 1)).ram.count := by
    rw [pushed_count]
    exact Nat.lt_min.2 ⟨Nat.succ_pos n, by decide⟩
  have hsame : nextSequence (pushed (n + 1)).getInfo.latestSequence =
      nextSequence (sequenceAfter 1 n) := by
    rw [← hordered.next hpos, ((pushed_tracks (n + 1)).restored hready).nextSequence, hnext]
    rfl
  have hlatest : (pushed (n + 1)).getInfo.latestSequence ≠ 0 := by
    rw [hordered.latest hpos]
    exact sequenceAfter_ne_zero (hordered.oldest_ne_zero hpos) _
  rw [← previousSequence_nextSequence hlatest, hsame,
    previousSequence_nextSequence (sequenceAfter_ne_zero (by decide) n)]

/-- **The log answers for each of the last numbers.** -/
theorem pushed_reads {n sequence : Nat} (hbound : n < 2 ^ 32) (hpos : 1 ≤ sequence)
    (hle : sequence ≤ n) (hrecent : n < sequence + ramCapacity) :
    ∃ record, (pushed n).readBySequence (UInt32.ofNat sequence) = some record ∧
      isRecordValid record.words = true := by
  have hnumber : sequenceAfter 1 (sequence - 1) = UInt32.ofNat sequence := by
    have hword : sequence < UInt32.size := Nat.lt_of_le_of_lt hle hbound
    apply UInt32.toNat_inj.1
    rw [toNat_sequenceAfter_one _ (by omega), UInt32.toNat_ofNat_of_lt' hword,
      Nat.sub_add_cancel hpos]
  have hkept : UInt32.ofNat sequence ∈ (pushedJournal n).kept.map (·.sequence) := by
    rw [pushedJournal_sequences, ← hnumber, List.mem_iff_getElem]
    refine ⟨sequence - 1 - (n - ramCapacity), ?_, ?_⟩
    · rw [List.length_drop, List.length_map, List.length_range]
      omega
    · rw [List.getElem_drop, List.getElem_map, List.getElem_range]
      congr 1
      omega
  obtain ⟨record, hrecord, hsame⟩ := List.mem_map.1 hkept
  obtain ⟨tail, hholds, haligned⟩ := (pushed_tracks n).holds
  have hreadable := hholds.readable (haligned (pushedJournal_numbered n).1)
  have hread := (pushed_tracks n).readBySequence (pushed_idle n) (hreadable ▸ hrecord)
  exact ⟨record, hsame ▸ hread.1, hread.2⟩

/-- **At the wrap the GUI loses the log.** With the highest number there,
the next append is not asked for; and when the records lie on both sides,
the information is refused. -/
theorem atWrap_disagrees :
    ¬AppendRequested (pushed (2 ^ 32 - 2 + 1)) ∧ ¬InfoAccepted (pushed (2 ^ 32 - 2 + 1 + 1)) := by
  have htop : (sequenceAfter 1 (2 ^ 32 - 2)).toNat = 2 ^ 32 - 1 :=
    toNat_sequenceAfter_one _ (by decide)
  have hlast : sequenceAfter 1 (2 ^ 32 - 2) = lastSequence := UInt32.toNat_inj.1 htop
  generalize 2 ^ 32 - 2 = n at *
  constructor
  · rw [appendRequested_iff (pushed_tracks _) (pushed_idle _), not_not, pushed_latest, hlast]
  · have hordered := (pushed_tracks (n + 1 + 1)).ordered (pushed_idle _)
    have hnumber : (pushed (n + 1 + 1)).getInfo.latestSequence = 1 := by
      rw [pushed_latest, sequenceAfter, hlast]
      rfl
    have hcount : 1 < (pushed (n + 1 + 1)).ram.count := by
      rw [pushed_count]
      exact Nat.lt_min.2 ⟨Nat.succ_lt_succ (Nat.succ_pos n), by decide⟩
    rw [infoAccepted_iff hordered, not_not]
    by_contra hinside
    -- two records up to number one cannot both be on this side
    have hlatest := hordered.toNat_latest (Nat.lt_of_succ_lt hcount)
    have holdest := mt UInt32.toNat_inj.1 (hordered.oldest_ne_zero (Nat.lt_of_succ_lt hcount))
    have hone : (1 : UInt32).toNat = 1 := rfl
    have hzero : (0 : UInt32).toNat = 0 := rfl
    rw [if_neg hinside, hnumber, hone] at hlatest
    rw [hzero] at holdest
    omega

end Sync

end Log

end CanGui
