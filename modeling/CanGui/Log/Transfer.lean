import CanGui.Log.Collection
import CanGui.Log.Journal
/-!
# Event log — from the firmware to the file

A record that is asked for and put together is written, unless there is a
row of its number already or none can be written. What is written passed
the checks, whatever the frames were; and the log's information is read as
it was sent.
-/

namespace CanGui

namespace Log

namespace Sync

variable {sync start : State} {message : Message} {env : Env} {record : Record} {kind : Kind}
  {bytes : Bytes}

/-! ## What is done with a record -/

/-- The record these bytes are passes its checks. -/
structure Checked (record : Record) (raw : Bytes) (requested : Option Int) : Prop where
  unpack : Sync.unpack raw = some record
  magic : record.magic = logRecordMagic
  commitMarker : record.commitMarker = logCommitMarker
  crc16 : record.crc16.toNat = calculateCrc16 (raw.take 28)
  sequence : requested = some (record.sequence.toNat : Int)

theorem failedCheck_eq_none {raw : Bytes} {requested : Option Int} :
    State.failedCheck record (calculateCrc16 (raw.take 28)) requested = none ↔
      record.magic = logRecordMagic ∧ record.commitMarker = logCommitMarker ∧
        record.crc16.toNat = calculateCrc16 (raw.take 28) ∧
        requested = some (record.sequence.toNat : Int) := by
  unfold State.failedCheck
  split
  · next h => simp [h]
  · next hmagic =>
    split
    · next h => simp [h]
    · next hcommit =>
      split
      · next h => simp [h]
      · next hcrc =>
        split
        · next h => simp [h]
        · next hsequence =>
          simp [not_not.1 hmagic, not_not.1 hcommit, not_not.1 hcrc, not_not.1 hsequence]

/-- **What the firmware stores passes the checks** of who asks for it. -/
theorem checked_of_valid {requested : Option Int} (hvalid : isRecordValid record.words = true)
    (hsequence : requested = some (record.sequence.toNat : Int)) :
    Checked record (bytesOf record.words) requested := by
  unfold isRecordValid at hvalid
  simp only [recordOf_words, Bool.and_eq_true, beq_iff_eq] at hvalid
  obtain ⟨⟨hmagic, hcommit⟩, hcrc⟩ := hvalid
  have hsum : record.crc16.toNat = calculateCrc16 ((bytesOf record.words).take 28) := by
    rw [← toNat_calculateCrc16, ← hcrc]
    rfl
  exact ⟨unpack_bytesOf record, hmagic, hcommit, hsum, hsequence⟩

/-- What a record is put together from has been taken. -/
def State.taken (sync : State) : State :=
  { sync with pendingKind := none, pendingSequence := none, recordFragments := .clear _ }

theorem completeRecord_checked
    (h : Checked record (sync.recordFragments.join.take logRecordSize) sync.pendingSequence) :
    sync.completeRecord env = sync.taken.acceptRecord record env := by
  obtain ⟨hunpack, hmagic, hcommit, hcrc, hsequence⟩ := h
  unfold State.completeRecord
  dsimp only
  rw [hunpack]
  dsimp only
  rw [failedCheck_eq_none.2 ⟨hmagic, hcommit, hcrc, hsequence⟩]
  rfl

/-- What comes of a record that is accepted: a row, unless there is one of
its number or none can be written. -/
structure Accepted (start : State) (record : Record) (env : Env) (after : State) : Prop where
  rows : after.rows =
    if record.sequence.toNat ∈ start.savedSequences ∨ env.enabled = false ∨ env.writable = false then
      start.rows
    else start.rows ++ [rowOf record env.hostTime]
  goesOn : record.sequence.toNat ∈ start.savedSequences ∨ env.enabled = true ∧ env.writable = true →
    record.sequence.toNat ∈ after.savedSequences ∧
      after.lastSavedSequence = record.sequence.toNat ∧
      after.nextSequence = some (record.sequence.toNat + 1 : Int) ∧ after.lastError = none
  pendingKind : after.pendingKind = none

theorem writeRecord_done (henabled : env.enabled = true) (hwritable : env.writable = true) :
    sync.writeRecord record env = (true, { sync with
      savedCount := sync.savedCount + 1
      lastError := none
      rows := sync.rows ++ [rowOf record env.hostTime] }) := by
  rw [State.writeRecord, henabled, hwritable]
  rfl

theorem writeRecord_refused (sync : State) (record : Record)
    (h : env.enabled = false ∨ env.writable = false) :
    (sync.writeRecord record env).1 = false ∧ (sync.writeRecord record env).2.rows = sync.rows ∧
      (sync.writeRecord record env).2.pendingKind = sync.pendingKind := by
  unfold State.writeRecord
  split
  · exact ⟨rfl, rfl, rfl⟩
  · next henabled =>
    rw [if_neg (by simp [h.resolve_left henabled])]
    exact ⟨rfl, rfl, rfl⟩

theorem acceptRecord_saved (hin : record.sequence.toNat ∈ sync.savedSequences) :
    sync.acceptRecord record env = sync.recordSaved record.sequence.toNat := if_pos hin

theorem acceptRecord_refused (hnew : record.sequence.toNat ∉ sync.savedSequences)
    (h : env.enabled = false ∨ env.writable = false) :
    sync.acceptRecord record env = (sync.writeRecord record env).2 := by
  unfold State.acceptRecord
  dsimp only
  rw [if_neg hnew, if_pos (writeRecord_refused sync record h).1]

theorem acceptRecord_written (hnew : record.sequence.toNat ∉ sync.savedSequences)
    (henabled : env.enabled = true) (hwritable : env.writable = true) :
    sync.acceptRecord record env = State.recordSaved { sync with
      savedCount := sync.savedCount + 1
      lastError := none
      rows := sync.rows ++ [rowOf record env.hostTime]
      savedSequences := record.sequence.toNat :: sync.savedSequences } record.sequence.toNat := by
  unfold State.acceptRecord
  dsimp only
  rw [if_neg hnew, writeRecord_done henabled hwritable, if_neg (show ¬true = false from nofun)]

theorem acceptRecord_accepted (hrows : sync.rows = start.rows)
    (hsaved : sync.savedSequences = start.savedSequences) (hkind : sync.pendingKind = none) :
    Accepted start record env (sync.acceptRecord record env) := by
  by_cases hin : record.sequence.toNat ∈ sync.savedSequences
  · rw [acceptRecord_saved hin]
    have hstart : record.sequence.toNat ∈ start.savedSequences := hsaved ▸ hin
    exact ⟨hrows.trans (if_pos (.inl hstart)).symm, fun _ => ⟨hin, rfl, rfl, rfl⟩, hkind⟩
  · have hstart : record.sequence.toNat ∉ start.savedSequences := hsaved ▸ hin
    by_cases hout : env.enabled = false ∨ env.writable = false
    · obtain ⟨-, hsame, hpending⟩ := writeRecord_refused sync record hout
      rw [acceptRecord_refused hin hout]
      refine ⟨(hsame.trans hrows).trans (if_pos (.inr hout)).symm, fun h => ?_,
        hpending.trans hkind⟩
      simp only [hstart, false_or] at h
      simp [h] at hout
    · obtain ⟨henabled, hwritable⟩ := not_or.1 hout
      rw [acceptRecord_written hin (eq_true_of_ne_false henabled) (eq_true_of_ne_false hwritable)]
      refine ⟨?_, fun _ => ⟨List.mem_cons_self, rfl, rfl, rfl⟩, hkind⟩
      rw [if_neg (not_or.2 ⟨hstart, hout⟩), ← hrows]
      rfl

/-! ## What is written was checked -/

theorem completeInfo_rows (sync : State) (env : Env) : (sync.completeInfo env).rows = sync.rows := by
  have hresume (sync : State) (info : State.InfoValues) : (sync.resume info).rows = sync.rows := by
    unfold State.resume
    split
    · rfl
    · split
      · rfl
      · split <;> rfl
  unfold State.completeInfo
  dsimp only
  split
  · rfl
  · refine (hresume _ _).trans ?_
    dsimp only
    split <;> rfl

theorem rejectRecord_rows (sync : State) (sequence : Option Int) (description : SyncError)
    (crcError : Bool) : (sync.rejectRecord sequence description crcError).rows = sync.rows := by
  unfold State.rejectRecord
  dsimp only
  split <;> rfl

theorem acceptRecord_rows (hrows : (sync.acceptRecord record env).rows ≠ sync.rows) :
    (sync.acceptRecord record env).rows = sync.rows ++ [rowOf record env.hostTime] := by
  by_cases hin : record.sequence.toNat ∈ sync.savedSequences
  · exact absurd (congrArg State.rows (acceptRecord_saved hin)) hrows
  · by_cases hout : env.enabled = false ∨ env.writable = false
    · rw [acceptRecord_refused hin hout] at hrows
      exact absurd (writeRecord_refused sync record hout).2.1 hrows
    · obtain ⟨henabled, hwritable⟩ := not_or.1 hout
      exact congrArg State.rows (acceptRecord_written hin (eq_true_of_ne_false henabled)
        (eq_true_of_ne_false hwritable))

theorem completeRecord_rows (hrows : (sync.completeRecord env).rows ≠ sync.rows) :
    ∃ record, Checked record (sync.recordFragments.join.take logRecordSize) sync.pendingSequence ∧
      (sync.completeRecord env).rows = sync.rows ++ [rowOf record env.hostTime] := by
  unfold State.completeRecord at hrows
  dsimp only at hrows
  split at hrows
  · exact absurd (rejectRecord_rows _ _ _ _) hrows
  · next record hunpack =>
    split at hrows
    · exact absurd (rejectRecord_rows _ _ _ _) hrows
    · next hpassed =>
      obtain ⟨hmagic, hcommit, hcrc, hsequence⟩ := failedCheck_eq_none.1 hpassed
      have hchecked : Checked record (sync.recordFragments.join.take logRecordSize)
          sync.pendingSequence := ⟨hunpack, hmagic, hcommit, hcrc, hsequence⟩
      refine ⟨record, hchecked, ?_⟩
      rw [completeRecord_checked hchecked]
      exact acceptRecord_rows hrows

theorem process_rows (sync : State) (env : Env) : (sync.process env).rows = sync.rows := by
  have hheartbeat : (sync.updateHeartbeatTimeout env).rows = sync.rows := by
    unfold State.updateHeartbeatTimeout
    dsimp only
    split <;> rfl
  have hinfo (sync : State) : (sync.requestInfo env).rows = sync.rows := by
    unfold State.requestInfo
    split <;> rfl
  have hrecord (sync : State) (sequence : Int) :
      (sync.requestRecord sequence env).rows = sync.rows := by
    unfold State.requestRecord
    split <;> rfl
  unfold State.process
  split
  · rfl
  · dsimp only
    split
    · split
      · exact hheartbeat
      · exact hheartbeat
    · split
      · exact hheartbeat
      · split
        · split
          · exact (hinfo _).trans hheartbeat
          · exact hheartbeat
        · split
          · exact hheartbeat
          · split
            · exact (hrecord _ _).trans hheartbeat
            · exact hheartbeat

/-- **A row is written only of a record that passed the checks**, and
whose number is the one asked for — whatever the frames were. -/
theorem written_checked (sync : State) (event : Event)
    (hrows : (step sync event).rows ≠ sync.rows) :
    ∃ message env record, event = .message message env ∧ sync.pendingKind = some .record ∧
      Checked record (sync.assembled .record message) sync.pendingSequence ∧
      (step sync event).rows = sync.rows ++ [rowOf record env.hostTime] := by
  cases event with
  | process env => exact absurd (process_rows sync env) hrows
  | message message env =>
    refine ⟨message, env, ?_⟩
    change (sync.handleMessage message env).rows ≠ sync.rows at hrows
    change ∃ record, _ ∧ _ ∧ _ ∧ (sync.handleMessage message env).rows = _
    unfold State.handleMessage State.handleRecordFragment State.handleInfoFragment at *
    dsimp only at *
    split at hrows
    · exact absurd rfl hrows
    · next hlength =>
      rw [if_neg hlength]
      split at hrows
      · exact absurd (handleHeartbeat_untouched _ _ _).rows hrows
      · next hheartbeat =>
        rw [if_neg hheartbeat]
        split at hrows
        · exact absurd rfl hrows
        · next hid =>
          rw [if_neg hid]
          split at hrows
          · split at hrows
            · exact absurd rfl hrows
            · split at hrows
              · exact absurd (completeInfo_rows _ _) hrows
              · exact absurd rfl hrows
          · next hinfo =>
            rw [if_neg hinfo]
            split at hrows
            · next hrecord =>
              rw [if_pos hrecord]
              split at hrows
              · exact absurd rfl hrows
              · next hkind =>
                rw [if_neg hkind]
                split at hrows
                · next hlength =>
                  rw [if_pos hlength]
                  obtain ⟨record, hchecked, hwritten⟩ := completeRecord_rows hrows
                  exact ⟨record, rfl, not_not.1 hkind, hchecked, hwritten⟩
                · exact absurd rfl hrows
            · split at hrows
              · exact absurd rfl hrows
              · exact absurd rfl hrows

/-! ## From the firmware -/

/-- The answer is requested. -/
def State.request (sync : State) (kind : Kind) (sequence : UInt32) (env : Env) : State :=
  match kind with
  | .info => sync.requestInfo env
  | .record => sync.requestRecord sequence.toNat env

/-- These events bring what was sent, each frame at least once and in any
order, and beside it only what may come beside. -/
structure Brings (kind : Kind) (sent : List Payload) (deadline : Nat) (arrivals : List Event) :
    Prop where
  only : ∀ event ∈ arrivals, event.beside kind deadline = true ∨
    ∃ payload ∈ sent, ∃ env, event = .message (messageOf payload) env
  each : ∀ payload ∈ sent, ∃ env, .message (messageOf payload) env ∈ arrivals

/-- **A requested answer is put together.** -/
theorem completed_request (hkind : start.pendingKind = some kind)
    (hclear : start.fragments kind = .clear _) (hsize : bytes.length = kind.size)
    {arrivals : List Event} (hbrings : Brings kind
      (Log.fragments kind.fragmentBase bytes kind.fragmentCount) start.requestDeadline arrivals) :
    ∃ before message env later full, arrivals = before ++ .message message env :: later ∧
      Completed start kind bytes (run step start before) message env full := by
  refine completed hkind hclear hsize (fun event hevent => ?_) fun i hi => ?_
  · rcases hbrings.only event hevent with hbeside | ⟨payload, hpayload, env, rfl⟩
    · exact .inl hbeside
    · obtain ⟨i, hi, rfl⟩ := List.mem_map.1 hpayload
      exact .inr ⟨i, List.mem_range.1 hi, env, rfl⟩
  · exact hbrings.each _ (List.mem_map_of_mem (List.mem_range.2 hi))

/-- What the information says. -/
def valuesOf (info : Info) : State.InfoValues where
  version := logVersion
  recordSize := logRecordSize.toUInt8
  count := info.count
  capacity := info.capacity
  oldestSequence := info.oldestSequence.toNat
  latestSequence := info.latestSequence.toNat

theorem length_wireInfo (info : Info) : (wireInfo info).length = logInfoWireSize := rfl

/-- **The information is read as it was sent.** -/
theorem decodeInfo_wireInfo {log : Machine} (hcount : log.ram.count ≤ ramCapacity) :
    State.decodeInfo (wireInfo log.getInfo) = valuesOf log.getInfo := by
  have hwidth : log.ram.count.toUInt16.toNat = log.ram.count :=
    Nat.mod_eq_of_lt (Nat.lt_of_le_of_lt hcount (by decide))
  have hlayout (info : Info) : wireInfo info = logVersion :: info.recordSize.toUInt8 ::
      (writeLe16 info.count.toUInt16 ++ (writeLe16 info.capacity.toUInt16 ++
        (writeLe32 info.oldestSequence ++ (writeLe32 info.latestSequence ++
          writeLe32 info.overwriteCount)))) := by
    simp only [wireInfo, List.append_assoc, List.cons_append, List.nil_append]
  rw [hlayout]
  change State.InfoValues.mk logVersion _ (readLe16 (writeLe16 log.ram.count.toUInt16 ++ _)).toNat
    (readLe16 (writeLe16 ramCapacity.toUInt16 ++ _)).toNat
    (readLe32 (writeLe32 log.getInfo.oldestSequence ++ _)).toNat
    (readLe32 (writeLe32 log.getInfo.latestSequence ++ _)).toNat = _
  rw [readLe16_writeLe16, readLe16_writeLe16, readLe32_writeLe32, readLe32_writeLe32, hwidth]
  rfl

/-- What comes of the information: it is taken over, unless it is one the
synchroniser does not believe. -/
structure Informed (values : State.InfoValues) (after : State) : Prop where
  pendingKind : after.pendingKind = none
  infoRequired : after.infoRequired = values.invalid
  latestSequence : values.invalid = false → after.latestSequence = values.latestSequence

theorem completeInfo_informed {values : State.InfoValues}
    (h : State.decodeInfo (sync.infoFragments.join.take logInfoWireSize) = values) :
    Informed values (sync.completeInfo env) := by
  have hresume (sync : State) (info : State.InfoValues) :
      (sync.resume info).pendingKind = sync.pendingKind ∧
        (sync.resume info).infoRequired = sync.infoRequired ∧
        (sync.resume info).latestSequence = sync.latestSequence := by
    unfold State.resume
    split
    · exact ⟨rfl, rfl, rfl⟩
    · split
      · exact ⟨rfl, rfl, rfl⟩
      · split <;> exact ⟨rfl, rfl, rfl⟩
  unfold State.completeInfo
  dsimp only
  rw [h]
  split
  · next hinvalid => exact ⟨rfl, hinvalid.symm, fun hvalid => absurd hvalid (by simp [hinvalid])⟩
  · next hvalid =>
    obtain ⟨hkind, hrequired, hlatest⟩ := hresume _ _
    refine ⟨hkind.trans ?_, hrequired.trans (eq_false_of_ne_true hvalid).symm, fun _ => hlatest⟩
    dsimp only
    split <;> rfl

end Sync

/-! ### The log that sends -/

variable {machine : Machine} {journal : Journal} {record : Record}

/-- A log that is not ready has nothing to read. -/
theorem count_of_not_ready (events : List Event) (start : Machine)
    (hstart : start.ram.debug.storageReady = false → start.ram.count = 0) :
    let log := run step start events
    log.ram.debug.storageReady = false → log.ram.count = 0 := by
  refine run_invariant (I := fun machine : Machine =>
    machine.ram.debug.storageReady = false → machine.ram.count = 0)
    (fun machine event h => ?_) events start hstart
  have hpush (entry : Entry) (uptimeMs : UInt32) :
      (machine.pushWithRtcTime entry uptimeMs).2.ram.debug.storageReady = false →
        (machine.pushWithRtcTime entry uptimeMs).2.ram.count = 0 := by
    unfold Machine.pushWithRtcTime
    split
    · exact h
    · split
      · exact h
      · next hready => exact fun hnot => absurd hnot hready
  cases event with
  | push entry uptimeMs => exact hpush _ _
  | pushWithRtcTime entry uptimeMs => exact hpush _ _
  | interruptedPush entry uptimeMs stores =>
    intro _
    change (machine.interruptedPush entry uptimeMs stores).ram.count = 0
    unfold Machine.interruptedPush
    split <;> rfl
  | reset => exact fun _ => rfl
  | init =>
    intro hnot
    change (recover machine { storageReady := true }).ram.debug.storageReady = false at hnot
    unfold recover at hnot
    dsimp only at hnot
    split at hnot <;> cases hnot

/-- The numbers of a journal are distinct. -/
theorem Holds.find_sequence {records : List Slot} {kept : List Record} {tail : Nat}
    (h : Holds records kept tail) (hrecord : record ∈ kept) :
    kept.find? (·.sequence == record.sequence) = some record := by
  obtain ⟨i, hi, rfl⟩ := List.getElem_of_mem hrecord
  refine List.find?_eq_some_iff_getElem.2 ⟨beq_self_eq_true _, i, hi, rfl, fun j hj => ?_⟩
  have hnewer := h.newer_iff hi (Nat.lt_trans hj hi)
  rw [decide_eq_true hj] at hnewer
  simp only [Bool.not_eq_true', beq_eq_false_iff_ne]
  intro hsame
  rw [hsame, isSequenceNewer, UInt32.sub_self] at hnewer
  revert hnewer
  decide

/-- **What can be read is there under its number**, and valid. -/
theorem Tracks.readBySequence (h : Tracks machine journal)
    (hidle : machine.ram.debug.storageReady = false → machine.ram.count = 0)
    (hrecord : record ∈ machine.readable) :
    machine.readBySequence record.sequence = some record ∧ isRecordValid record.words = true := by
  cases hready : machine.ram.debug.storageReady with
  | false =>
    rw [Machine.readable, hidle hready] at hrecord
    exact absurd hrecord List.not_mem_nil
  | true =>
    have hready := h.ready.symm.trans hready
    obtain ⟨tail, hholds, haligned⟩ := h.holds
    rw [hholds.readable (haligned hready)] at hrecord
    have hrestored := h.restored hready
    rw [hrestored.readBySequence _ (hrestored.nonzero record hrecord)]
    exact ⟨hholds.find_sequence hrecord, hholds.valid record hrecord⟩

theorem Tracks.count_le (h : Tracks machine journal)
    (hidle : machine.ram.debug.storageReady = false → machine.ram.count = 0) :
    machine.ram.count ≤ ramCapacity := by
  cases hready : machine.ram.debug.storageReady with
  | false => exact hidle hready ▸ Nat.zero_le _
  | true =>
    have hcount := (h.restored (h.ready.symm.trans hready)).count
    exact hcount.1 ▸ hcount.2

/-! ## The transfer -/

namespace Sync

open Transport (Result)

/-- The frames the transport took between these two. -/
def sentBy (sender sender' : Sender) : List Payload := sender'.taken.drop sender.taken.length

theorem requestInfo_sent (sync : State) (hsend : State.canSend env = true) :
    sync.requestInfo env = { sync with
      infoFragments := .clear _
      pendingKind := some .info
      pendingSequence := none
      requestDeadline := env.now + requestTimeout } := if_neg (by rw [hsend]; decide)

theorem requestRecord_sent (sync : State) (sequence : Int) (hsend : State.canSend env = true) :
    sync.requestRecord sequence env = { sync with
      recordFragments := .clear _
      pendingKind := some .record
      pendingSequence := some sequence
      requestDeadline := env.now + requestTimeout } := if_neg (by rw [hsend]; decide)

section Asked

variable {log : Machine} {sync : State} {record : Record} {sender : Sender}
  {results : Nat → Result} {arrivals : List Event}

/-- A valid record that is asked for under its number arrives. -/
theorem record_arrives (hread : log.readBySequence record.sequence = some record)
    (hvalid : isRecordValid record.words = true) (hsend : State.canSend env = true)
    (hdone : (sender.sendRecord log record.sequence results).1 = true)
    (hbrings : Brings .record (sentBy sender (sender.sendRecord log record.sequence results).2)
      (env.now + requestTimeout) arrivals) :
    let start := sync.requestRecord record.sequence.toNat env
    ∃ before message env later, arrivals = before ++ .message message env :: later ∧
      (run step start before).assembled .record message = bytesOf record.words ∧
      Accepted sync record env (step (run step start before) (.message message env)) := by
  intro start
  have hsent : sentBy sender (sender.sendRecord log record.sequence results).2 =
      Log.fragments logRecordFragmentBase (bytesOf record.words) logRecordFragmentCount := by
    rw [sentBy, sendRecord_done sender hread hdone, List.drop_left]
  have hstart := requestRecord_sent sync record.sequence.toNat hsend
  have hkind : start.pendingKind = some .record := congrArg State.pendingKind hstart
  have hsequence : start.pendingSequence = some (record.sequence.toNat : Int) :=
    (congrArg State.pendingSequence hstart :)
  have hclear : start.fragments .record = .clear _ := congrArg State.recordFragments hstart
  have hdeadline : start.requestDeadline = env.now + requestTimeout :=
    (congrArg State.requestDeadline hstart :)
  have hrows : start.rows = sync.rows := (congrArg State.rows hstart :)
  have hsaved : start.savedSequences = sync.savedSequences :=
    (congrArg State.savedSequences hstart :)
  rw [hsent, ← hdeadline] at hbrings
  obtain ⟨before, message, env, later, full, hsplit, hcompleted⟩ :=
    completed_request hkind hclear (length_bytesOf record.words) hbrings
  refine ⟨before, message, env, later, hsplit, hcompleted.assembled, ?_⟩
  have hfull := hcompleted.collected
  have hchecked := checked_of_valid hvalid (hfull.pendingSequence.trans hsequence)
  rw [← hfull.join (length_bytesOf record.words)] at hchecked
  rw [hcompleted.after]
  change Accepted sync record env (full.completeRecord env)
  rw [completeRecord_checked hchecked]
  exact acceptRecord_accepted (hfull.rows.trans hrows) (hfull.savedSequences.trans hsaved) rfl

/-- The information that is asked for arrives. -/
theorem info_arrives (hcount : log.ram.count ≤ ramCapacity) (hsend : State.canSend env = true)
    (hdone : (sender.sendInfo log results).1 = true)
    (hbrings : Brings .info (sentBy sender (sender.sendInfo log results).2)
      (env.now + requestTimeout) arrivals) :
    let start := sync.requestInfo env
    ∃ before message env later, arrivals = before ++ .message message env :: later ∧
      State.decodeInfo ((run step start before).assembled .info message) = valuesOf log.getInfo ∧
      Informed (valuesOf log.getInfo) (step (run step start before) (.message message env)) := by
  intro start
  have hsent : sentBy sender (sender.sendInfo log results).2 =
      Log.fragments logInfoFragmentBase (wireInfo log.getInfo) logInfoFragmentCount := by
    rw [sentBy, sendInfo_done sender log hdone, List.drop_left]
  have hstart := requestInfo_sent sync hsend
  have hkind : start.pendingKind = some .info := congrArg State.pendingKind hstart
  have hclear : start.fragments .info = .clear _ := congrArg State.infoFragments hstart
  have hdeadline : start.requestDeadline = env.now + requestTimeout :=
    (congrArg State.requestDeadline hstart :)
  rw [hsent, ← hdeadline] at hbrings
  obtain ⟨before, message, env, later, full, hsplit, hcompleted⟩ :=
    completed_request hkind hclear (length_wireInfo log.getInfo) hbrings
  have hvalues := decodeInfo_wireInfo hcount
  refine ⟨before, message, env, later, hsplit, ?_, ?_⟩
  · rw [hcompleted.assembled, hvalues]
  · rw [hcompleted.after]
    refine completeInfo_informed ?_
    have hjoin := hcompleted.collected.join (length_wireInfo log.getInfo)
    exact (congrArg State.decodeInfo hjoin).trans hvalues

end Asked

/-- **From the log to the file.** Over every run of the log: the fragments
of any record that can be read, with its number asked for, are put together
to its bytes in whatever order and however often they come, and the record
is accepted. Whatever the frames are, a row is written only of a record
that passed the checks under the number asked for. And the fragments of the
information are read as the log gave it. -/
theorem transferred {storage : List Slot} (hlength : storage.length = ramCapacity)
    (hnone : ∀ index < ramCapacity, isRecordValid (slotAt storage index) = false)
    (events : List Log.Event) (sender : Sender) (results : Nat → Result) (sync : State) (env : Env)
    (hsend : State.canSend env = true) (arrivals : List Event) :
    let log := run Log.step { records := storage } events
    let deadline := env.now + requestTimeout
    (∀ record ∈ log.readable,
      let answer := sender.sendRecord log record.sequence results
      let start := sync.requestRecord record.sequence.toNat env
      answer.1 = true → Brings .record (sentBy sender answer.2) deadline arrivals →
        ∃ before message env later, arrivals = before ++ .message message env :: later ∧
          (run step start before).assembled .record message = bytesOf record.words ∧
          Accepted sync record env (step (run step start before) (.message message env))) ∧
      (∀ event, (step sync event).rows ≠ sync.rows →
        ∃ message env record, event = .message message env ∧ sync.pendingKind = some .record ∧
          Checked record (sync.assembled .record message) sync.pendingSequence ∧
          (step sync event).rows = sync.rows ++ [rowOf record env.hostTime]) ∧
      (let answer := sender.sendInfo log results
        let start := sync.requestInfo env
        answer.1 = true → Brings .info (sentBy sender answer.2) deadline arrivals →
          ∃ before message env later, arrivals = before ++ .message message env :: later ∧
            State.decodeInfo ((run step start before).assembled .info message) =
              valuesOf log.getInfo ∧
            Informed (valuesOf log.getInfo)
              (step (run step start before) (.message message env))) := by
  intro log deadline
  have htracks := tracks_run (tracks_start hlength hnone) events
  have hidle := count_of_not_ready events { records := storage } fun _ => rfl
  refine ⟨fun record hrecord => ?_, written_checked sync, ?_⟩
  · intro answer start hdone hbrings
    obtain ⟨hread, hvalid⟩ := htracks.readBySequence hidle hrecord
    exact record_arrives hread hvalid hsend hdone hbrings
  · intro answer start hdone hbrings
    exact info_arrives (htracks.count_le hidle) hsend hdone hbrings

/-! ## Two transfers -/

/-- Frames that come at one time. -/
def arriving (env : Env) (frames : List Payload) : List Event :=
  frames.map fun payload => .message (messageOf payload) env

theorem brings_arriving {sent frames : List Payload} {deadline : Nat} (env : Env)
    (honly : frames ⊆ sent) (heach : sent ⊆ frames) :
    Brings kind sent deadline (arriving env frames) where
  only event hevent := by
    obtain ⟨payload, hpayload, rfl⟩ := List.mem_map.1 hevent
    exact .inr ⟨payload, honly hpayload, env, rfl⟩
  each payload hpayload := ⟨env, List.mem_map_of_mem (heach hpayload)⟩

theorem clearedStorage_invalid : ∀ index < ramCapacity,
    isRecordValid (slotAt clearRetainedStorage index) = false := by
  decide +kernel

/-- A first entry. -/
def bootEntry : Entry := ⟨0, 0, 0x0100, 0, 7, 9⟩

/-- Its fragments, the last first and each twice, are put together. -/
theorem transferred_backwards :
    let log := run Log.step { records := clearRetainedStorage } [.init, .push bootEntry 10]
    let record := bootEntry.record 10 1
    let sent := sentBy {} (({} : Sender).sendRecord log 1 fun _ => .ok).2
    let start := ({} : State).requestRecord 1 { now := 0 }
    record ∈ log.readable ∧
      ∃ before message env later,
        arriving { now := 5, hostTime := "noon" } (sent.reverse ++ sent) =
          before ++ .message message env :: later ∧
        (run step start before).assembled .record message = bytesOf record.words ∧
        Accepted {} record env (step (run step start before) (.message message env)) := by
  have hrecord : bootEntry.record 10 1 ∈
      (run Log.step { records := clearRetainedStorage } [.init, .push bootEntry 10]).readable := by
    decide +kernel
  exact ⟨hrecord, (transferred (List.length_replicate ..) clearedStorage_invalid
    [.init, .push bootEntry 10] {} (fun _ => .ok) {} { now := 0 } rfl
    (arriving { now := 5, hostTime := "noon" }
      ((sentBy {} (({} : Sender).sendRecord (run Log.step { records := clearRetainedStorage }
        [.init, .push bootEntry 10]) 1 fun _ => .ok).2).reverse ++
      sentBy {} (({} : Sender).sendRecord (run Log.step { records := clearRetainedStorage }
        [.init, .push bootEntry 10]) 1 fun _ => .ok).2))).1 (bootEntry.record 10 1) hrecord
    (by decide +kernel)
    (brings_arriving _ (by decide +kernel) (by decide +kernel))⟩

/-- **A number saved before is not written again**, though the record is
another: the log has started over since, and has as many records as the
GUI had saved. -/
theorem restarted_notWritten :
    let firstLog := run Log.step { records := clearRetainedStorage }
      [.init, .push bootEntry 10, .push bootEntry 20]
    let secondLog := run Log.step { records := clearRetainedStorage }
      [.init, .push { bootEntry with data0 := 8 } 30]
    let record := ({ bootEntry with data0 := 8 } : Entry).record 30 1
    let sender : Sender := {}
    let infoOf log := sentBy sender (sender.sendInfo log fun _ => .ok).2
    let answerOf log sequence := sentBy sender (sender.sendRecord log sequence fun _ => .ok).2
    let env : Env := { now := 5, hostTime := "noon" }
    let heartbeat : Message := ⟨logHeartbeatRxId, [logVersion, heartbeatFlagReady, 2, 0, 0, 0, 2, 0]⟩
    let start := run step {} (
      [.message heartbeat env, .process env] ++ arriving env (infoOf firstLog) ++
      [.process env] ++ arriving env (answerOf firstLog 1) ++
      [.process env] ++ arriving env (answerOf secondLog 2) ++
      [.process { env with now := 600 }] ++ arriving env (infoOf secondLog) ++
      [.process { env with now := 600 }])
    let after := run step start (arriving env (answerOf secondLog 1))
    record ∈ secondLog.readable ∧ start.pendingKind = some .record ∧
      start.pendingSequence = some record.sequence.toNat ∧ start.requestDeadline = 1600 ∧
      after.rows = start.rows ∧ ∀ row ∈ after.rows, row ≠ rowOf record "noon" := by
  decide +kernel

end Sync

end Log

end CanGui
