import CanGui.Log.Handling
/-!
# Event log — the next record is read

A turn of the GUI, an answer of the log and the five frames of the answer
delivered: so the record the GUI goes on from is read, if the log has it
and nothing is lost, and the GUI goes on from the number after it. Rounds
of this kind read a log from any of its numbers to the last.
-/

namespace CanGui

namespace Log

namespace Sync

variable {link : Link} {record : Record} {frames : List Sent} {env : Env} {epoch n : Nat}
  {index : Fin Kind.record.fragmentCount} {sync start : State} {sequence : Int}

theorem missedBetween_nil {before after : State} (h : after.missedCount = before.missedCount) :
    State.missedBetween before after = [] := by
  rw [State.missedBetween, h, Nat.sub_self]
  rfl

theorem acceptRecord_missedCount (sync : State) (record : Record) (env : Env) :
    (sync.acceptRecord record env).missedCount = sync.missedCount := by
  rcases acceptRecord_cases sync record env with
    ⟨-, hafter⟩ | ⟨-, hafter | hafter⟩ | ⟨-, hafter⟩ <;>
    exact (congrArg State.missedCount hafter :)

/-! ## The fragments are delivered -/

variable {received : Finset (Fin Kind.record.fragmentCount)}

/-- A fragment that does not complete the record is kept, and nothing else
changes. -/
theorem Link.deliver_more (hframes : link.frames = ⟨epoch, .recordFragment record index⟩ :: frames)
    (h : Collecting start .record (bytesOf record.words) received link.sync)
    (hmissing : insert index received ≠ Finset.univ) :
    ∃ sync : State, link.deliver env = { link with frames, sync } ∧
      Collecting start .record (bytesOf record.words) (insert index received) sync ∧
      sync.taken = link.sync.taken := by
  have hput := h.put index
  have hsync : link.sync.handleMessage (fragmentMessage .record (bytesOf record.words) index) env =
      link.sync.put .record index (piece (bytesOf record.words) index) :=
    (handleMessage_fragment h.pendingKind index.2).trans (if_neg (mt hput.length_eq_iff.1 hmissing))
  have hmissed : link.sync.missedBetween
      (link.sync.put .record index (piece (bytesOf record.words) index)) = [] :=
    missedBetween_nil rfl
  have hrows : (link.sync.put .record index (piece (bytesOf record.words) index)).rows.drop
      link.sync.rows.length = [] := List.drop_length
  refine ⟨_, ?_, hput, rfl⟩
  unfold Link.deliver
  rw [hframes]
  unfold Link.take
  dsimp only [Frame.message]
  rw [hsync, hmissed, hrows, List.map_nil, List.map_nil, List.append_nil, List.append_nil]
  rfl

/-- What a round leaves of the rest of the link. -/
structure SameBeside (before after : Link) : Prop where
  log : after.log = before.log
  requests : after.requests = before.requests
  firstRequested : after.firstRequested = before.firstRequested
  counted : after.counted = before.counted

/-- The last fragment completes the record, and it is taken. -/
theorem Link.deliver_last (hframes : link.frames = ⟨epoch, .recordFragment record index⟩ :: frames)
    (h : Collecting start .record (bytesOf record.words) received link.sync)
    (hfull : insert index received = Finset.univ) (hvalid : isRecordValid record.words = true)
    (hsequence : link.sync.pendingSequence = some (record.sequence.toNat : Int)) :
    (link.deliver env).sync = link.sync.taken.acceptRecord record env ∧
      (link.deliver env).frames = frames ∧ SameBeside link (link.deliver env) := by
  have hlast : Completed start .record (bytesOf record.words) link.sync
      (fragmentMessage .record (bytesOf record.words) index) env _ :=
    h.last (length_bytesOf record.words) index hfull
  have hchecked : Checked record
      ((link.sync.put .record index (piece (bytesOf record.words) index)).recordFragments.join.take
        logRecordSize) link.sync.pendingSequence :=
    (hlast.collected.join (length_bytesOf record.words)).symm ▸ checked_of_valid hvalid hsequence
  have hsync : link.sync.handleMessage (fragmentMessage .record (bytesOf record.words) index) env =
      link.sync.taken.acceptRecord record env := hlast.after.trans (completeRecord_checked hchecked)
  have hmissed : link.sync.missedBetween (link.sync.taken.acceptRecord record env) = [] :=
    missedBetween_nil (acceptRecord_missedCount _ _ _)
  unfold Link.deliver
  rw [hframes]
  unfold Link.take
  dsimp only [Frame.message]
  rw [hsync, hmissed, List.map_nil, List.append_nil]
  exact ⟨rfl, rfl, rfl, rfl, rfl, rfl⟩

/-- The fragments of a record up to one that is still to come. -/
theorem Link.run_more {indices : List (Fin Kind.record.fragmentCount)}
    (hframes : link.frames =
      indices.map (fun index => ⟨epoch, .recordFragment record index⟩) ++ frames)
    (h : Collecting start .record (bytesOf record.words) received link.sync)
    (hmissing : index ∉ received ∧ index ∉ indices) :
    ∃ sync : State,
      run Link.step link (List.replicate indices.length (.deliver env)) =
        { link with frames, sync } ∧
      Collecting start .record (bytesOf record.words) (received ∪ indices.toFinset) sync ∧
      sync.taken = link.sync.taken := by
  induction indices generalizing link received with
  | nil =>
    refine ⟨link.sync, ?_, ?_, rfl⟩
    · rw [List.map_nil, List.nil_append] at hframes
      rw [← hframes]
      rfl
    · simpa using h
  | cons first indices ih =>
    have hfirst : index ≠ first := fun heq => hmissing.2 (heq ▸ List.mem_cons_self)
    have hrest : index ∉ insert first received ∧ index ∉ indices := by
      refine ⟨?_, fun hin => hmissing.2 (List.mem_cons_of_mem _ hin)⟩
      rw [Finset.mem_insert]
      exact not_or.2 ⟨hfirst, hmissing.1⟩
    have hnotAll : insert first received ≠ Finset.univ := by
      intro hall
      exact hrest.1 (hall ▸ Finset.mem_univ index)
    obtain ⟨one, hone, hcollecting, htaken⟩ :=
      @Link.deliver_more _ _ _ env _ _ _ _ hframes h hnotAll
    obtain ⟨sync, hrun, hall, hsame⟩ :=
      @ih { link with frames := _, sync := one } _ rfl hcollecting hrest
    refine ⟨sync, ?_, ?_, hsame.trans htaken⟩
    · rw [List.length_cons, List.replicate_succ, run_cons]
      dsimp only [Link.step]
      rw [hone]
      exact hrun
    · rw [List.toFinset_cons, Finset.union_insert, ← Finset.insert_union]
      exact hall

/-- **The fragments of a record that is waited for, delivered in order, are
taken as that record.** -/
theorem Link.run_deliver
    (hframes : link.frames = (List.finRange logRecordFragmentCount).map fun index =>
      ⟨epoch, .recordFragment record index⟩)
    (hkind : link.sync.pendingKind = some .record)
    (hclear : link.sync.recordFragments = .clear _) (hvalid : isRecordValid record.words = true)
    (hsequence : link.sync.pendingSequence = some (record.sequence.toNat : Int)) :
    (run Link.step link (List.replicate 5 (.deliver env))).sync =
        link.sync.taken.acceptRecord record env ∧
      (run Link.step link (List.replicate 5 (.deliver env))).frames = [] ∧
      SameBeside link (run Link.step link (List.replicate 5 (.deliver env))) := by
  have hstart : Collecting link.sync .record (bytesOf record.words) ∅ link.sync := by
    refine ⟨hkind, rfl, rfl, fun i => ?_, rfl, rfl⟩
    change link.sync.recordFragments[i.1] = _
    simp [hclear, Fragments.clear]
  have hlastFrame : link.frames = ([0, 1, 2, 3] : List (Fin 5)).map
      (fun index => ⟨epoch, .recordFragment record index⟩) ++
        [⟨epoch, .recordFragment record (4 : Fin 5)⟩] := hframes.trans rfl
  have hmissing : (4 : Fin 5) ∉ (∅ : Finset (Fin 5)) ∧
      (4 : Fin 5) ∉ ([0, 1, 2, 3] : List (Fin 5)) := by
    decide
  have hfull : insert (4 : Fin 5) (∅ ∪ ([0, 1, 2, 3] : List (Fin 5)).toFinset) = Finset.univ := by
    decide
  obtain ⟨sync, hrun, hcollecting, htaken⟩ :=
    @Link.run_more _ _ _ env _ (4 : Fin 5) _ _ _ hlastFrame hstart hmissing
  obtain ⟨hsync, hdone, hsame⟩ := @Link.deliver_last
    { link with frames := [⟨epoch, .recordFragment record (4 : Fin 5)⟩], sync } _ _ env _ _ _ _ rfl
    hcollecting hfull hvalid (hcollecting.pendingSequence.trans hsequence)
  have hrun : run Link.step link (List.replicate 4 (.deliver env)) = _ := hrun
  have hevents : List.replicate 5 (Link.Event.deliver env) =
    List.replicate 4 (.deliver env) ++ [.deliver env] := rfl
  rw [hevents, run_append, hrun, run_cons, run_nil]
  exact ⟨hsync.trans (congrArg (State.acceptRecord · record env) htaken), hdone,
    hsame.log, hsame.requests, hsame.firstRequested, hsame.counted⟩

/-! ## A round -/

/-- A turn of the GUI, an answer of the log, and its frames delivered. -/
def round (env : Env) : List Link.Event :=
  .process env :: .serve :: List.replicate 5 (.deliver env)

/-- The GUI can ask, and save what it reads. -/
structure Env.Works (env : Env) : Prop where
  bus : env.bus = true
  sent : env.sent = true
  enabled : env.enabled = true
  writable : env.writable = true

/-- The GUI hears the log, waits for no answer and goes on from a number. -/
structure State.GoesOn (sync : State) (env : Env) (next : Int) : Prop where
  pendingKind : sync.pendingKind = none
  infoRequired : sync.infoRequired = false
  ready : sync.heartbeatReady = true
  heard : ∃ time, sync.lastHeartbeatTime = some time ∧ env.now - time < heartbeatTimeout
  active : sync.heartbeatTimeoutActive = false
  next : sync.nextSequence = some next

/-- It asks for that number. -/
theorem State.GoesOn.process (h : sync.GoesOn env sequence) (hworks : env.Works)
    (hbehind : sequence ≤ sync.latestSequence) :
    sync.process env = { sync with
      recordFragments := .clear _
      pendingKind := some .record
      pendingSequence := some sequence
      requestDeadline := env.now + requestTimeout } := by
  obtain ⟨time, htime, hrecent⟩ := h.heard
  have hticked : sync.updateHeartbeatTimeout env = sync := by
    unfold State.updateHeartbeatTimeout
    dsimp only
    rw [htime, Option.getD_some, if_neg (fun hlate => Nat.not_le.2 hrecent hlate.1)]
  have hsend : State.canSend env = true := by
    rw [State.canSend, hworks.bus, hworks.sent]
    rfl
  unfold State.process
  rw [if_neg (by simp [hworks.bus, hworks.enabled]), hticked]
  dsimp only
  rw [h.pendingKind]
  dsimp only
  rw [if_neg (by simp [h.ready, htime, h.active]), if_neg (by simp [h.infoRequired])]
  split
  · next hnone =>
    rw [h.next] at hnone
    cases hnone
  · next next hnext =>
    obtain rfl := Option.some.inj (h.next.symm.trans hnext)
    rw [if_pos hbehind, requestRecord_sent sync sequence hsend]

/-- A record that is accepted is written or was, and the GUI goes on from the
next number. -/
theorem State.GoesOn.accept {next : Int} (h : sync.GoesOn env next) (hworks : env.Works)
    (record : Record) :
    (sync.acceptRecord record env).GoesOn env (record.sequence.toNat + 1) ∧
      (sync.acceptRecord record env).latestSequence = sync.latestSequence ∧
      ((sync.acceptRecord record env).rows = sync.rows ∨
        (sync.acceptRecord record env).rows = sync.rows ++ [rowOf record env.hostTime]) := by
  by_cases hin : record.sequence.toNat ∈ sync.savedSequences
  · rw [acceptRecord_saved hin]
    exact ⟨⟨h.pendingKind, h.infoRequired, h.ready, h.heard, h.active, rfl⟩, rfl, .inl rfl⟩
  · rw [acceptRecord_written hin hworks.enabled hworks.writable]
    exact ⟨⟨h.pendingKind, h.infoRequired, h.ready, h.heard, h.active, rfl⟩, rfl, .inr rfl⟩

theorem sequenceWord_natCast {next : Nat} (h : next < 2 ^ 32) :
    sequenceWord next = UInt32.ofNat next := by
  rw [sequenceWord]
  congr 1
  omega

theorem readBySequence_sequence {machine : Machine} {number : UInt32}
    (hread : machine.readBySequence number = some record) : record.sequence = number := by
  rw [Machine.readBySequence] at hread
  split at hread
  · cases hread
  · have hfound := List.find?_some hread
    exact beq_iff_eq.1 hfound

/-- Nothing is under way, and the log can answer. -/
structure Link.Quiet (link : Link) : Prop where
  requests : link.requests = []
  frames : link.frames = []
  ready : link.log.ram.debug.storageReady = true

/-- **A round reads the next record**, when the log has it. -/
theorem Link.Quiet.reads {next : Nat} (h : link.Quiet) (hgoesOn : link.sync.GoesOn env next)
    (hworks : env.Works) (hbehind : next ≤ link.sync.latestSequence) (hlt : next < 2 ^ 32)
    (hread : link.log.readBySequence (UInt32.ofNat next) = some record)
    (hvalid : isRecordValid record.words = true) :
    let after := run Link.step link (round env)
    after.Quiet ∧ after.sync.GoesOn env (next + 1 : Nat) ∧ after.log = link.log ∧
      after.sync.latestSequence = link.sync.latestSequence ∧
      after.firstRequested = (link.firstRequested.orElse fun _ => some (next : Int)) ∧
      after.counted = link.counted ∧
      (after.sync.rows = link.sync.rows ∨
        after.sync.rows = link.sync.rows ++ [rowOf record env.hostTime]) ∧
      record.sequence.toNat = next := by
  have hsequence : record.sequence.toNat = next := by
    rw [readBySequence_sequence hread]
    exact UInt32.toNat_ofNat_of_lt' hlt
  have hasked := hgoesOn.process hworks (Int.ofNat_le.2 hbehind)
  have hrequests :
      State.asked link.sync (link.sync.process env) = [.record (UInt32.ofNat next)] := by
    rw [State.asked, hasked, hgoesOn.pendingKind]
    dsimp only
    rw [Option.getD_some, sequenceWord_natCast hlt]
  set served : Link := (link.process env).serve with hserved
  -- after the request and the answer every fragment of the record is on its way
  have hserve : served = { link with
      sync := link.sync.process env
      requests := []
      frames := (List.finRange logRecordFragmentCount).map fun index =>
        ⟨link.epoch, .recordFragment record index⟩
      firstRequested := link.firstRequested.orElse fun _ => some (next : Int) } := by
    rw [hserved, Link.process, hrequests, h.requests, List.nil_append, Link.serve]
    dsimp only
    rw [Link.send, if_pos h.ready, answer, hread, h.frames, hasked, List.nil_append, List.map_map]
    rfl
  have hfragments : served.frames = (List.finRange logRecordFragmentCount).map fun index =>
      ⟨link.epoch, .recordFragment record index⟩ := by
    rw [hserve]
  have hsync : served.sync = link.sync.process env := by rw [hserve]
  have hsame : SameBeside { link with firstRequested := served.firstRequested } served := by
    rw [hserve]
    exact ⟨rfl, h.requests.symm, rfl, rfl⟩
  have hfirst : served.firstRequested = link.firstRequested.orElse fun _ => some (next : Int) := by
    rw [hserve]
  rw [hasked] at hsync
  obtain ⟨hafter, hdone, hlog, hnone, hkept, hcounted⟩ := @Link.run_deliver _ _ env _ hfragments
    (by rw [hsync]) (by rw [hsync]) hvalid (by rw [hsync, hsequence])
  have htaken : served.sync.taken.GoesOn env next := by
    rw [hsync]
    exact ⟨rfl, hgoesOn.infoRequired, hgoesOn.ready, hgoesOn.heard, hgoesOn.active, hgoesOn.next⟩
  obtain ⟨hgoes, hlatest, hrows⟩ := htaken.accept hworks record
  rw [hsequence] at hgoes
  have hready := h.ready
  -- what is left of the round delivers the fragments, one after the other
  have hrun : run Link.step link (round env) =
      run Link.step served (List.replicate 5 (.deliver env)) := rfl
  rw [hrun]
  refine ⟨⟨?_, hdone, ?_⟩, ?_, ?_, ?_, ?_, ?_, ?_, hsequence⟩
  · exact hnone.trans (hsame.requests.trans h.requests)
  · rw [hlog, hsame.log]
    exact hready
  · rw [hafter]
    exact hgoes
  · exact hlog.trans hsame.log
  · rw [hafter, hlatest, hsync]
    rfl
  · exact hkept.trans hfirst
  · exact hcounted.trans hsame.counted
  · rw [hafter, hsync]
    rw [hsync] at hrows
    exact hrows

/-- **Rounds read the log on**, number after number, as far as it has the
records. -/
theorem Link.Quiet.reads_on {next : Nat} (k : Nat) (h : link.Quiet)
    (hgoesOn : link.sync.GoesOn env next) (hworks : env.Works)
    (hbehind : next + k ≤ link.sync.latestSequence + 1) (hlt : next + k ≤ 2 ^ 32)
    (hread : ∀ number, next ≤ number → number < next + k → ∃ record,
      link.log.readBySequence (UInt32.ofNat number) = some record ∧
        isRecordValid record.words = true) :
    let after := run Link.step link (List.replicate k (round env)).flatten
    after.sync.GoesOn env (next + k : Nat) ∧
      after.sync.latestSequence = link.sync.latestSequence ∧
      (∀ first, link.firstRequested = some first → after.firstRequested = some first) ∧
      after.counted = link.counted ∧
      ∃ rows, after.sync.rows = link.sync.rows ++ rows ∧ ∀ row ∈ rows, next ≤ row.sequence := by
  induction k generalizing link next with
  | zero =>
    refine ⟨hgoesOn, rfl, fun _ hfirst => hfirst, rfl, [], ?_, nofun⟩
    exact (List.append_nil _).symm
  | succ k ih =>
    obtain ⟨record, hrecord, hvalid⟩ := hread next (Nat.le_refl next) (by omega)
    obtain ⟨hquiet, hgoes, hlog, hlatest, hkept, hcounted, hrows, hsequence⟩ :=
      h.reads hgoesOn hworks (by omega) (by omega) hrecord hvalid
    obtain ⟨hdone, hlast, hfirst, hnone, rows, hmore, hnumbers⟩ :=
      @ih (run Link.step link (round env)) (next + 1) hquiet hgoes (by rw [hlatest]; omega)
        (by omega) fun number hle hnumber => by
          rw [hlog]
          exact hread number (by omega) (by omega)
    have hcount : next + (k + 1) = next + 1 + k := by omega
    rw [List.replicate_succ, List.flatten_cons, run_append, hcount]
    refine ⟨hdone, hlast.trans hlatest, ?_, hnone.trans hcounted, ?_⟩
    · intro first hsome
      refine hfirst first (hkept.trans ?_)
      rw [hsome]
      rfl
    · rcases hrows with hsame | hrow
      · exact ⟨rows, by rw [hmore, hsame], fun row hin => Nat.le_of_succ_le (hnumbers row hin)⟩
      · refine ⟨rowOf record env.hostTime :: rows, by rw [hmore, hrow, List.append_assoc]; rfl, ?_⟩
        intro row hin
        rcases List.mem_cons.1 hin with rfl | hin
        · exact Nat.le_of_eq hsequence.symm
        · exact Nat.le_of_succ_le (hnumbers row hin)

end Sync

end Log

end CanGui
