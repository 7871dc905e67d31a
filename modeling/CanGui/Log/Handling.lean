import CanGui.Log.Growth
/-!
# Event log — what a step of the GUI can do

One lemma for each operation of the synchroniser: the cases it
distinguishes and what the state is in each.
-/

namespace CanGui

namespace Log

namespace Sync

variable {sync : State} {env : Env}

/-! ## Heartbeats -/

/-- What following a heartbeat can do. -/
theorem followHeartbeat_cases (sync : State) (latestSequence recordCount : Nat) (env : Env) :
    let oldest := State.oldestAvailable latestSequence recordCount
    let after := sync.followHeartbeat latestSequence recordCount env
    ((sync.bootstrapComplete = false ∨ latestSequence = sync.latestSequence) ∧ after = sync) ∨
    (sync.bootstrapComplete = true ∧ latestSequence < sync.latestSequence ∧
      after = { sync with infoRequired := true, nextInfoTime := env.now, nextSequence := none }) ∨
    (sync.bootstrapComplete = true ∧ sync.latestSequence < latestSequence ∧
      sync.requestedSequence oldest < oldest ∧
      after = { sync with infoRequired := true, nextInfoTime := env.now }) ∨
    (sync.bootstrapComplete = true ∧ sync.latestSequence < latestSequence ∧
      oldest ≤ sync.requestedSequence oldest ∧
      after = { sync with
        nextSequence := some (sync.requestedSequence oldest)
        latestSequence := latestSequence }) := by
  intro oldest after
  by_cases hbootstrap : sync.bootstrapComplete = false
  · exact .inl ⟨.inl hbootstrap, if_pos hbootstrap⟩
  · have hcomplete : sync.bootstrapComplete = true := eq_true_of_ne_false hbootstrap
    have hafter : after = _ := if_neg hbootstrap
    rcases Nat.lt_trichotomy latestSequence sync.latestSequence with hless | hsame | hmore
    · exact .inr (.inl ⟨hcomplete, hless, hafter.trans (if_pos hless)⟩)
    · rw [if_neg (Nat.not_lt_of_le (Nat.le_of_eq hsame.symm)),
        if_neg (Nat.not_lt_of_le (Nat.le_of_eq hsame))] at hafter
      exact .inl ⟨.inr hsame, hafter⟩
    · rw [if_neg (Nat.not_lt_of_lt hmore), if_pos hmore] at hafter
      by_cases hgone : sync.requestedSequence oldest < oldest
      · exact .inr (.inr (.inl ⟨hcomplete, hmore, hgone, hafter.trans (if_pos hgone)⟩))
      · exact .inr (.inr (.inr ⟨hcomplete, hmore, not_lt.1 hgone, hafter.trans (if_neg hgone)⟩))

/-! ## The information -/

/-- The state in which the next request is put right: `_complete_info` has
taken over what the log says of itself. -/
def State.renewed (sync : State) (info : State.InfoValues) : State :=
  let sync := { sync with pendingKind := none, infoFragments := .clear _ }
  let sync :=
    if sync.lastSavedSequence ≠ 0 ∧ info.latestSequence < sync.lastSavedSequence then
      { sync with
        savedSequences := []
        recordRetries := []
        lastSavedSequence := 0
        nextSequence := none }
    else sync
  { sync with
    latestSequence := info.latestSequence
    infoRequired := false
    bootstrapComplete := true }

/-- What is decoded when the fragments are complete. -/
def State.told (sync : State) : State.InfoValues :=
  State.decodeInfo (sync.infoFragments.join.take logInfoWireSize)

theorem completeInfo_cases (sync : State) (env : Env) :
    (sync.told.invalid = true ∧ sync.completeInfo env = { sync with
      pendingKind := none
      infoFragments := .clear _
      protocolErrorCount := sync.protocolErrorCount + 1
      lastError := some (.invalidInfo sync.told.version sync.told.recordSize sync.told.count
        sync.told.capacity)
      infoRequired := true
      nextInfoTime := env.now + infoRetryDelay }) ∨
    (sync.told.invalid = false ∧ sync.completeInfo env =
      { (sync.renewed sync.told).resume sync.told with lastError := none }) := by
  by_cases hinvalid : sync.told.invalid = true
  · exact .inl ⟨hinvalid, if_pos hinvalid⟩
  · exact .inr ⟨eq_false_of_ne_true hinvalid, if_neg hinvalid⟩

theorem resume_cases (sync : State) (info : State.InfoValues) :
    (info.count = 0 ∧ sync.resume info = { sync with nextSequence := none }) ∨
    (0 < info.count ∧ sync.nextSequence = none ∧
      sync.resume info = { sync with nextSequence := some info.oldestSequence }) ∨
    (∃ next : Int, 0 < info.count ∧ sync.nextSequence = some next ∧ next < info.oldestSequence ∧
      sync.resume info = { sync with
        missedCount := sync.missedCount + (info.oldestSequence - next).toNat
        nextSequence := some info.oldestSequence }) ∨
    (∃ next : Int, 0 < info.count ∧ sync.nextSequence = some next ∧ info.oldestSequence ≤ next ∧
      sync.resume info = sync) := by
  rw [State.resume]
  rcases Nat.eq_zero_or_pos info.count with hnone | hpos
  · exact .inl ⟨hnone, if_pos hnone⟩
  · rw [if_neg (Nat.ne_of_gt hpos)]
    cases hnext : sync.nextSequence with
    | none => exact .inr (.inl ⟨hpos, rfl, rfl⟩)
    | some next =>
      by_cases hgone : next < info.oldestSequence
      · exact .inr (.inr (.inl ⟨next, hpos, rfl, hgone, if_pos hgone⟩))
      · exact .inr (.inr (.inr ⟨next, hpos, rfl, not_lt.1 hgone, if_neg hgone⟩))

/-- **A fragment of the information** is kept while it is waited for. -/
theorem handleMessage_infoFragment (bytes : Bytes) (index : Fin logInfoFragmentCount) :
    sync.handleMessage (fragmentMessage .info bytes index) env =
      if sync.pendingKind = some .info then
        let sync := { sync with
          infoFragments := sync.infoFragments.setIfInBounds index (some (piece bytes index)) }
        if sync.infoFragments.length = logInfoFragmentCount then sync.completeInfo env else sync
      else sync := by
  by_cases hkind : sync.pendingKind = some .info
  · rw [if_pos hkind]
    exact handleMessage_fragment hkind index.2
  · obtain ⟨hrange, -⟩ := info_header index index.2
    have hid : (fragmentMessage .info bytes index).arbitrationId = logResponseTxId := rfl
    have hbase : Kind.info.fragmentBase = logInfoFragmentBase := rfl
    rw [if_neg hkind, State.handleMessage]
    dsimp only
    rw [fragmentMessage_length, if_neg (not_not.2 rfl), hid, if_neg (by decide),
      if_neg (not_not.2 rfl), fragmentMessage_header, hbase, if_pos hrange,
      State.handleInfoFragment, if_pos hkind]

/-! ## Other frames -/

/-- The header of a frame that answers. -/
def headerOf (data : Payload) : UInt8 := Bytes.at' data.toList 0

/-- The frame reads as a fragment of the information. -/
def readsAsInfo (data : Payload) : Bool :=
  decide (logInfoFragmentBase ≤ headerOf data ∧ headerOf data ≤ logInfoFragmentBase + 2)

/-- The frame reads as the answer that there is no record. -/
def readsAsError (data : Payload) : Bool := headerOf data == logErrorFrame

/-- What a frame that answers can do. -/
theorem handleMessage_payload (data : Payload) :
    (readsAsInfo data = true ∧ sync.handleMessage (messageOf data) env = sync.handleInfoFragment
      (headerOf data - logInfoFragmentBase).toNat data.toList env) ∨
    (sync.handleMessage (messageOf data) env = sync.handleRecordFragment
      (headerOf data - logRecordFragmentBase).toNat data.toList env) ∨
    (readsAsError data = true ∧
      sync.handleMessage (messageOf data) env = sync.handleErrorFrame data.toList env) ∨
    sync.handleMessage (messageOf data) env = sync.protocolError (.unknownHeader (headerOf data)) := by
  have hlength : (messageOf data).data.length = 8 := data.length_toList
  have hmessage : sync.handleMessage (messageOf data) env =
      if logInfoFragmentBase ≤ headerOf data ∧ headerOf data ≤ logInfoFragmentBase + 2 then
        sync.handleInfoFragment (headerOf data - logInfoFragmentBase).toNat data.toList env
      else if logRecordFragmentBase ≤ headerOf data ∧
          headerOf data ≤ logRecordFragmentBase + 4 then
        sync.handleRecordFragment (headerOf data - logRecordFragmentBase).toNat data.toList env
      else if headerOf data = logErrorFrame then sync.handleErrorFrame data.toList env
      else sync.protocolError (.unknownHeader (headerOf data)) := by
    have hid : (messageOf data).arbitrationId = logResponseTxId := rfl
    rw [State.handleMessage, if_neg (not_not.2 hlength), hid, if_neg (by decide),
      if_neg (not_not.2 rfl)]
    rfl
  rw [hmessage]
  by_cases hinfo : logInfoFragmentBase ≤ headerOf data ∧ headerOf data ≤ logInfoFragmentBase + 2
  · exact .inl ⟨decide_eq_true hinfo, if_pos hinfo⟩
  · rw [if_neg hinfo]
    split
    · exact .inr (.inl rfl)
    · split
      · next herror => exact .inr (.inr (.inl ⟨beq_iff_eq.2 herror, rfl⟩))
      · exact .inr (.inr (.inr rfl))

/-- A frame that bears the header of a record is a record's fragment. -/
theorem handleMessage_recordFragment (record : Record) (index : Fin logRecordFragmentCount) :
    sync.handleMessage (fragmentMessage .record (bytesOf record.words) index) env =
      sync.handleRecordFragment index
        (fragment logRecordFragmentBase (bytesOf record.words) index).toList env := by
  obtain ⟨hnotInfo, hrange, hvalue⟩ := record_header index index.2
  have hid : (fragmentMessage .record (bytesOf record.words) index).arbitrationId =
      logResponseTxId := rfl
  have hbase : Kind.record.fragmentBase = logRecordFragmentBase := rfl
  have hdata : (fragmentMessage .record (bytesOf record.words) index).data =
      (fragment logRecordFragmentBase (bytesOf record.words) index).toList := rfl
  rw [State.handleMessage, fragmentMessage_length, if_neg (not_not.2 rfl), hid, if_neg (by decide),
    if_neg (not_not.2 rfl), fragmentMessage_header, hbase, if_neg hnotInfo, if_pos hrange, hvalue,
    hdata]

/-- It is kept while a record is waited for. -/
theorem handleMessage_recordFragment_put (record : Record) (index : Fin logRecordFragmentCount) :
    sync.handleMessage (fragmentMessage .record (bytesOf record.words) index) env =
      if sync.pendingKind = some .record then
        let sync := sync.put .record index (piece (bytesOf record.words) index)
        if sync.recordFragments.length = logRecordFragmentCount then sync.completeRecord env else sync
      else sync := by
  by_cases hkind : sync.pendingKind = some .record
  · rw [if_pos hkind]
    exact handleMessage_fragment hkind index.2
  · rw [if_neg hkind, handleMessage_recordFragment, State.handleRecordFragment, if_pos hkind]

theorem handleMessage_notFound (sequence : UInt32) :
    sync.handleMessage (messageOf (notFoundPayload sequence)) env =
      sync.handleErrorFrame (notFoundPayload sequence).toList env := rfl

/-! ## Records -/

/-- What comes of the fragments of a record. -/
theorem completeRecord_cases (sync : State) (env : Env) :
    (∃ description crcError, sync.completeRecord env =
      sync.taken.rejectRecord sync.pendingSequence description crcError) ∨
    (∃ record, Checked record (sync.recordFragments.join.take logRecordSize) sync.pendingSequence ∧
      sync.completeRecord env = sync.taken.acceptRecord record env) := by
  generalize hcompleted : sync.completeRecord env = after
  rw [State.completeRecord] at hcompleted
  split at hcompleted
  · exact .inl ⟨_, _, hcompleted.symm⟩
  · next record hunpack =>
    split at hcompleted
    · exact .inl ⟨_, _, hcompleted.symm⟩
    · next hpassed =>
      obtain ⟨hmagic, hcommit, hcrc, hsequence⟩ := failedCheck_eq_none.1 hpassed
      exact .inr ⟨record, ⟨hunpack, hmagic, hcommit, hcrc, hsequence⟩, hcompleted.symm⟩

/-- What comes of a record that passed its checks. -/
theorem acceptRecord_cases (sync : State) (record : Record) (env : Env) :
    let sequence := record.sequence.toNat
    let after := sync.acceptRecord record env
    (sequence ∈ sync.savedSequences ∧ after = sync.recordSaved sequence) ∨
    (sequence ∉ sync.savedSequences ∧ (after = sync ∨
      after = { sync with
        writeErrorCount := sync.writeErrorCount + 1, lastError := some .writeFailed })) ∨
    (sequence ∉ sync.savedSequences ∧ after = State.recordSaved { sync with
      savedCount := sync.savedCount + 1
      lastError := none
      rows := sync.rows ++ [rowOf record env.hostTime]
      savedSequences := sequence :: sync.savedSequences } sequence) := by
  intro sequence after
  by_cases hin : sequence ∈ sync.savedSequences
  · exact .inl ⟨hin, acceptRecord_saved hin⟩
  · by_cases hout : env.enabled = false ∨ env.writable = false
    · refine .inr (.inl ⟨hin, ?_⟩)
      have hafter : after = (sync.writeRecord record env).2 := acceptRecord_refused hin hout
      rw [hafter, State.writeRecord]
      split
      · exact .inl rfl
      · next henabled =>
        rw [if_neg (by simp [hout.resolve_left henabled])]
        exact .inr rfl
    · obtain ⟨henabled, hwritable⟩ := not_or.1 hout
      exact .inr (.inr ⟨hin, acceptRecord_written hin (eq_true_of_ne_false henabled)
        (eq_true_of_ne_false hwritable)⟩)

/-! ## The turn -/

theorem updateHeartbeatTimeout_cases (sync : State) (env : Env) :
    sync.updateHeartbeatTimeout env = sync ∨
    sync.updateHeartbeatTimeout env = { sync with
      heartbeatTimeoutActive := true
      heartbeatTimeoutCount := sync.heartbeatTimeoutCount + 1 } := by
  unfold State.updateHeartbeatTimeout
  dsimp only
  split
  · exact .inr rfl
  · exact .inl rfl

/-- What a turn can do, on the state with the heartbeat's timeout. -/
theorem process_cases (sync : State) (env : Env) :
    let ticked := sync.updateHeartbeatTimeout env
    let after := sync.process env
    after = sync ∨ after = ticked ∨
    (∃ kind, sync.pendingKind = some kind ∧ after = ticked.requestTimedOut kind env) ∨
    (sync.pendingKind = none ∧ sync.infoRequired = true ∧
      after = { ticked.requestInfo env with nextInfoTime := env.now + infoRetryDelay }) ∨
    (∃ next, sync.pendingKind = none ∧ sync.infoRequired = false ∧ sync.nextSequence = some next ∧
      next ≤ sync.latestSequence ∧ after = ticked.requestRecord next env) := by
  intro ticked after
  have hsame : ticked.pendingKind = sync.pendingKind ∧ ticked.infoRequired = sync.infoRequired ∧
      ticked.nextSequence = sync.nextSequence ∧ ticked.latestSequence = sync.latestSequence := by
    rcases updateHeartbeatTimeout_cases sync env with hticked | hticked
    · exact ⟨congrArg _ hticked, congrArg _ hticked, congrArg _ hticked, congrArg _ hticked⟩
    · exact ⟨(congrArg _ hticked :), (congrArg _ hticked :), (congrArg _ hticked :),
        (congrArg _ hticked :)⟩
  obtain ⟨hkind, hrequired, hnext, hlatest⟩ := hsame
  have hafter : after = sync.process env := rfl
  rw [State.process] at hafter
  split at hafter
  · exact .inl hafter
  · dsimp only at hafter
    rw [← hkind, ← hrequired, ← hnext, ← hlatest]
    split at hafter
    · next kind hpending =>
      split at hafter
      · exact .inr (.inr (.inl ⟨kind, hpending, hafter⟩))
      · exact .inr (.inl hafter)
    · next hpending =>
      split at hafter
      · exact .inr (.inl hafter)
      · split at hafter
        · next hinfo =>
          split at hafter
          · exact .inr (.inr (.inr (.inl ⟨hpending, hinfo, hafter⟩)))
          · exact .inr (.inl hafter)
        · next hinfo =>
          split at hafter
          · exact .inr (.inl hafter)
          · next next hsome =>
            split at hafter
            · next hbehind =>
              exact .inr (.inr (.inr (.inr ⟨next, hpending, eq_false_of_ne_true hinfo, hsome,
                hbehind, hafter⟩)))
            · exact .inr (.inl hafter)

/-- Asking for the information, when a command can be sent. -/
theorem requestInfo_cases (sync : State) (env : Env) :
    sync.requestInfo env = sync ∨
    sync.requestInfo env = { sync with
      infoFragments := .clear _
      pendingKind := some .info
      pendingSequence := none
      requestDeadline := env.now + requestTimeout } := by
  rw [State.requestInfo]
  split
  · exact .inl rfl
  · exact .inr rfl

theorem requestRecord_cases (sync : State) (sequence : Int) (env : Env) :
    sync.requestRecord sequence env = sync ∨
    sync.requestRecord sequence env = { sync with
      recordFragments := .clear _
      pendingKind := some .record
      pendingSequence := some sequence
      requestDeadline := env.now + requestTimeout } := by
  rw [State.requestRecord]
  split
  · exact .inl rfl
  · exact .inr rfl

end Sync

end Log

end CanGui
