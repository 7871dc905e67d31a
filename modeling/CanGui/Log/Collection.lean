import CanGui.Log.Layout
/-!
# Event log — an answer put together

What the synchroniser asks for is put together from its fragments in
whatever order and however often they come, with whatever comes beside
them while there is time.
-/

namespace CanGui

namespace Log

namespace Sync

/-! ## The two kinds of answer -/

def Kind.fragmentBase : Kind → UInt8
  | .info => logInfoFragmentBase
  | .record => logRecordFragmentBase

def Kind.fragmentCount : Kind → Nat
  | .info => logInfoFragmentCount
  | .record => logRecordFragmentCount

def Kind.lastHeader : Kind → UInt8
  | .info => logInfoFragmentBase + 2
  | .record => logRecordFragmentBase + 4

/-- How long the message is. -/
def Kind.size : Kind → Nat
  | .info => logInfoWireSize
  | .record => logRecordSize

/-- The frame a fragment travels in. -/
def messageOf (payload : Payload) : Message := ⟨logResponseTxId, payload.toList⟩

/-- A fragment of such an answer, or the answer that there is none. -/
def Message.concerns (kind : Kind) (message : Message) : Bool :=
  decide (message.data.length = 8) && message.arbitrationId == logResponseTxId &&
    (decide (kind.fragmentBase ≤ message.data.at' 0 ∧ message.data.at' 0 ≤ kind.lastHeader) ||
      message.data.at' 0 == logErrorFrame)

/-- The index a fragment bears. -/
def Message.fragmentIndex (kind : Kind) (message : Message) : Nat :=
  (message.data.at' 0 - kind.fragmentBase).toNat

namespace State

def fragments (sync : State) : (kind : Kind) → Fragments kind.fragmentCount
  | .info => sync.infoFragments
  | .record => sync.recordFragments

/-- A fragment is kept at its index. -/
def put (sync : State) (kind : Kind) (index : Nat) (data : Bytes) : State :=
  match kind with
  | .info => { sync with infoFragments := sync.infoFragments.setIfInBounds index (some data) }
  | .record => { sync with recordFragments := sync.recordFragments.setIfInBounds index (some data) }

def complete (sync : State) (kind : Kind) (env : Env) : State :=
  match kind with
  | .info => sync.completeInfo env
  | .record => sync.completeRecord env

/-- What is put together when this message is the last. -/
def assembled (sync : State) (kind : Kind) (message : Message) : Bytes :=
  let sync := sync.put kind (message.fragmentIndex kind) (message.data.drop 1)
  (sync.fragments kind).join.take kind.size

end State

variable {sync start : State} {message : Message} {env : Env} {record : Record} {kind : Kind}
  {bytes : Bytes} {index : Nat}

theorem fragments_put (data : Bytes) : (sync.put kind index data).fragments kind =
    (sync.fragments kind).setIfInBounds index (some data) := by
  cases kind <;> rfl

/-! ## What comes beside -/

/-- What a message beside the answer leaves alone. -/
structure Untouched (sync sync' : State) : Prop where
  pendingKind : sync'.pendingKind = sync.pendingKind
  pendingSequence : sync'.pendingSequence = sync.pendingSequence
  requestDeadline : sync'.requestDeadline = sync.requestDeadline
  infoFragments : sync'.infoFragments = sync.infoFragments
  recordFragments : sync'.recordFragments = sync.recordFragments
  savedSequences : sync'.savedSequences = sync.savedSequences
  rows : sync'.rows = sync.rows

theorem Untouched.refl (sync : State) : Untouched sync sync :=
  ⟨rfl, rfl, rfl, rfl, rfl, rfl, rfl⟩

theorem Untouched.fragments {sync' : State} (h : Untouched sync sync') (kind : Kind) :
    sync'.fragments kind = sync.fragments kind := by
  cases kind with
  | info => exact h.infoFragments
  | record => exact h.recordFragments

theorem protocolError_untouched (sync : State) (error : SyncError) :
    Untouched sync (sync.protocolError error) := ⟨rfl, rfl, rfl, rfl, rfl, rfl, rfl⟩

theorem followHeartbeat_untouched (sync : State) (latestSequence recordCount : Nat) (env : Env) :
    Untouched sync (sync.followHeartbeat latestSequence recordCount env) := by
  unfold State.followHeartbeat
  split
  · exact .refl sync
  · split
    · exact ⟨rfl, rfl, rfl, rfl, rfl, rfl, rfl⟩
    · split
      · dsimp only
        split <;> exact ⟨rfl, rfl, rfl, rfl, rfl, rfl, rfl⟩
      · exact .refl sync

theorem handleHeartbeat_untouched (sync : State) (data : Bytes) (env : Env) :
    Untouched sync (sync.handleHeartbeat data env) := by
  unfold State.handleHeartbeat
  dsimp only
  split
  · exact ⟨rfl, rfl, rfl, rfl, rfl, rfl, rfl⟩
  · split
    · exact ⟨rfl, rfl, rfl, rfl, rfl, rfl, rfl⟩
    · obtain ⟨h1, h2, h3, h4, h5, h6, h7⟩ := followHeartbeat_untouched _ _ _ _
      exact ⟨h1, h2, h3, h4, h5, h6, h7⟩

/-- **A message beside the answer that is awaited changes nothing of
it.** -/
theorem handleMessage_untouched (hmessage : message.concerns kind = false)
    (hkind : sync.pendingKind = some kind) : Untouched sync (sync.handleMessage message env) := by
  unfold State.handleMessage
  dsimp only
  split
  · exact protocolError_untouched _ _
  · next hlength =>
    split
    · exact handleHeartbeat_untouched _ _ _
    · split
      · exact protocolError_untouched _ _
      · next hid =>
        -- a fragment of either kind is the awaited one's, or is passed over
        split
        · next hinfo =>
          cases kind with
          | info =>
            simp [Message.concerns, Kind.fragmentBase, Kind.lastHeader, not_not.1 hlength,
              not_not.1 hid, hinfo] at hmessage
          | record =>
            rw [State.handleInfoFragment, if_pos (by simp [hkind])]
            exact .refl sync
        · split
          · next hrecord =>
            cases kind with
            | info =>
              rw [State.handleRecordFragment, if_pos (by simp [hkind])]
              exact .refl sync
            | record =>
              simp [Message.concerns, Kind.fragmentBase, Kind.lastHeader, not_not.1 hlength,
                not_not.1 hid, hrecord] at hmessage
          · split
            · next herror =>
              simp [Message.concerns, not_not.1 hlength, not_not.1 hid, herror] at hmessage
            · exact protocolError_untouched _ _

/-- **While there is time, the periodic call does not touch a request.** -/
theorem process_untouched (hkind : sync.pendingKind = some kind)
    (htime : env.now < sync.requestDeadline) : Untouched sync (sync.process env) := by
  have hheartbeat : Untouched sync (sync.updateHeartbeatTimeout env) := by
    unfold State.updateHeartbeatTimeout
    dsimp only
    split
    · exact ⟨rfl, rfl, rfl, rfl, rfl, rfl, rfl⟩
    · exact .refl sync
  unfold State.process
  split
  · exact .refl sync
  · dsimp only
    rw [hheartbeat.pendingKind, hkind, hheartbeat.requestDeadline]
    dsimp only
    rw [if_neg (Nat.not_le_of_lt htime)]
    exact hheartbeat

/-- What may happen beside an answer that is awaited. -/
def Event.beside (kind : Kind) (deadline : Nat) : Event → Bool
  | .message message _ => !message.concerns kind
  | .process env => decide (env.now < deadline)

theorem step_untouched {event : Event} (hkind : sync.pendingKind = some kind)
    (hbeside : event.beside kind sync.requestDeadline = true) :
    Untouched sync (step sync event) := by
  cases event with
  | message message env =>
    exact handleMessage_untouched (Bool.not_eq_true' _ ▸ hbeside) hkind
  | process env => exact process_untouched hkind (of_decide_eq_true hbeside)

/-! ## The fragments of an answer -/

/-- The frame of a fragment. -/
def fragmentMessage (kind : Kind) (bytes : Bytes) (index : Nat) : Message :=
  messageOf (fragment kind.fragmentBase bytes index)

theorem fragmentMessage_data (kind : Kind) (bytes : Bytes) (index : Nat) :
    (fragmentMessage kind bytes index).data =
      (kind.fragmentBase ||| index.toUInt8) :: piece bytes index :=
  fragment_toList _ _ _

theorem fragmentMessage_header (kind : Kind) (bytes : Bytes) (index : Nat) :
    (fragmentMessage kind bytes index).data.at' 0 = kind.fragmentBase ||| index.toUInt8 := by
  rw [fragmentMessage_data]
  rfl

theorem fragmentMessage_drop (kind : Kind) (bytes : Bytes) (index : Nat) :
    (fragmentMessage kind bytes index).data.drop 1 = piece bytes index := by
  rw [fragmentMessage_data]
  rfl

theorem fragmentMessage_length (kind : Kind) (bytes : Bytes) (index : Nat) :
    (fragmentMessage kind bytes index).data.length = 8 := by
  rw [fragmentMessage_data, List.length_cons, piece, List.length_map, List.length_range]
  rfl

/-- The headers of the two kinds are apart, and tell the index. -/
theorem info_header : ∀ index < logInfoFragmentCount,
    let header := logInfoFragmentBase ||| index.toUInt8
    (logInfoFragmentBase ≤ header ∧ header ≤ logInfoFragmentBase + 2) ∧
      (header - logInfoFragmentBase).toNat = index := by
  decide

theorem record_header : ∀ index < logRecordFragmentCount,
    let header := logRecordFragmentBase ||| index.toUInt8
    ¬(logInfoFragmentBase ≤ header ∧ header ≤ logInfoFragmentBase + 2) ∧
      (logRecordFragmentBase ≤ header ∧ header ≤ logRecordFragmentBase + 4) ∧
      (header - logRecordFragmentBase).toNat = index := by
  decide

theorem fragmentMessage_range (hindex : index < kind.fragmentCount) :
    kind.fragmentBase ≤ kind.fragmentBase ||| index.toUInt8 ∧
      kind.fragmentBase ||| index.toUInt8 ≤ kind.lastHeader := by
  cases kind with
  | info => exact (info_header index hindex).1
  | record => exact (record_header index hindex).2.1

theorem fragmentMessage_concerns (hindex : index < kind.fragmentCount) :
    (fragmentMessage kind bytes index).concerns kind = true := by
  have hrange := fragmentMessage_range hindex
  have hid : (fragmentMessage kind bytes index).arbitrationId = logResponseTxId := rfl
  rw [Message.concerns, fragmentMessage_length, hid, fragmentMessage_header]
  simp [hrange]

theorem fragmentMessage_index (hindex : index < kind.fragmentCount) :
    (fragmentMessage kind bytes index).fragmentIndex kind = index := by
  rw [Message.fragmentIndex, fragmentMessage_header]
  cases kind with
  | info => exact (info_header index hindex).2
  | record => exact (record_header index hindex).2.2

/-- **A fragment of what is awaited is kept**, and completes it when there
is one at each index. -/
theorem handleMessage_fragment (hkind : sync.pendingKind = some kind)
    (hindex : index < kind.fragmentCount) :
    sync.handleMessage (fragmentMessage kind bytes index) env =
      if ((sync.put kind index (piece bytes index)).fragments kind).length = kind.fragmentCount then
        (sync.put kind index (piece bytes index)).complete kind env
      else sync.put kind index (piece bytes index) := by
  have hid : (fragmentMessage kind bytes index).arbitrationId = logResponseTxId := rfl
  unfold State.handleMessage
  dsimp only
  rw [fragmentMessage_length, if_neg (not_not.2 rfl), hid, if_neg (by decide),
    if_neg (not_not.2 rfl), fragmentMessage_header]
  cases kind with
  | info =>
    obtain ⟨hrange, hvalue⟩ := info_header index hindex
    have hbase : Kind.info.fragmentBase = logInfoFragmentBase := rfl
    rw [hbase, if_pos hrange, hvalue, State.handleInfoFragment, if_neg (not_not.2 hkind),
      fragmentMessage_drop]
    rfl
  | record =>
    obtain ⟨hnotInfo, hrange, hvalue⟩ := record_header index hindex
    have hbase : Kind.record.fragmentBase = logRecordFragmentBase := rfl
    rw [hbase, if_neg hnotInfo, if_pos hrange, hvalue, State.handleRecordFragment,
      if_neg (not_not.2 hkind), fragmentMessage_drop]
    rfl

/-! ## Putting it together -/

/-- The answer is awaited and these of its fragments are there. -/
structure Collecting (start : State) (kind : Kind) (bytes : Bytes)
    (received : Finset (Fin kind.fragmentCount)) (sync : State) : Prop where
  pendingKind : sync.pendingKind = some kind
  pendingSequence : sync.pendingSequence = start.pendingSequence
  requestDeadline : sync.requestDeadline = start.requestDeadline
  fragments : ∀ i : Fin kind.fragmentCount, (sync.fragments kind)[i.1] =
    if i ∈ received then some (piece bytes i) else none
  savedSequences : sync.savedSequences = start.savedSequences
  rows : sync.rows = start.rows

variable {received : Finset (Fin kind.fragmentCount)}

theorem Collecting.untouched {sync' : State} (h : Collecting start kind bytes received sync)
    (huntouched : Untouched sync sync') : Collecting start kind bytes received sync' where
  pendingKind := huntouched.pendingKind.trans h.pendingKind
  pendingSequence := huntouched.pendingSequence.trans h.pendingSequence
  requestDeadline := huntouched.requestDeadline.trans h.requestDeadline
  fragments := huntouched.fragments kind ▸ h.fragments
  savedSequences := huntouched.savedSequences.trans h.savedSequences
  rows := huntouched.rows.trans h.rows

/-- A fragment more. -/
theorem Collecting.put (h : Collecting start kind bytes received sync)
    (i : Fin kind.fragmentCount) :
    Collecting start kind bytes (insert i received) (sync.put kind i (piece bytes i)) := by
  have hfragments (j : Fin kind.fragmentCount) :
      ((sync.put kind i (piece bytes i)).fragments kind)[j.1] =
        if j ∈ insert i received then some (piece bytes j) else none := by
    have hget : ((sync.put kind i (piece bytes i)).fragments kind)[j.1] =
        ((sync.fragments kind).setIfInBounds i (some (piece bytes i)))[j.1] := by
      rw [fragments_put]
    rw [hget, Vector.getElem_setIfInBounds, h.fragments j]
    by_cases hij : i.1 = j.1
    · obtain rfl := Fin.ext hij
      simp
    · have hne : j ≠ i := fun heq => hij (congrArg Fin.val heq).symm
      simp [hij, hne]
  cases kind with
  | info =>
    exact ⟨h.pendingKind, h.pendingSequence, h.requestDeadline, hfragments, h.savedSequences, h.rows⟩
  | record =>
    exact ⟨h.pendingKind, h.pendingSequence, h.requestDeadline, hfragments, h.savedSequences, h.rows⟩

theorem Collecting.length_eq_iff (h : Collecting start kind bytes received sync) :
    (sync.fragments kind).length = kind.fragmentCount ↔ received = Finset.univ := by
  rw [Log.length_eq_iff, Finset.eq_univ_iff_forall]
  constructor
  · intro hall i
    have hsome := hall i.1 i.2
    rw [h.fragments i] at hsome
    by_contra hout
    rw [if_neg hout] at hsome
    cases hsome
  · intro hall i hi
    rw [h.fragments ⟨i, hi⟩, if_pos (hall ⟨i, hi⟩)]
    rfl

/-- **With every fragment there, they make the message.** -/
theorem Collecting.join (h : Collecting start kind bytes Finset.univ sync)
    (hsize : bytes.length = kind.size) : (sync.fragments kind).join.take kind.size = bytes := by
  have hall : ∀ i (hi : i < kind.fragmentCount), (sync.fragments kind)[i] = some (piece bytes i) := by
    intro i hi
    have hget := h.fragments ⟨i, hi⟩
    rwa [if_pos (Finset.mem_univ _)] at hget
  have hfits : kind.size ≤ kind.fragmentCount * logFragmentDataSize := by
    cases kind <;> decide
  rw [← hsize]
  exact take_join hall (hsize ▸ hfits)

/-- What an answer is made of, in a run: its fragments, and what comes
beside. -/
def Event.belongs (kind : Kind) (bytes : Bytes) (deadline : Nat) (event : Event) : Prop :=
  event.beside kind deadline = true ∨
    ∃ i < kind.fragmentCount, ∃ env, event = .message (fragmentMessage kind bytes i) env

/-- The fragment an event brings. -/
def Event.fragment (kind : Kind) : Event → Option (Fin kind.fragmentCount)
  | .message message _ =>
    if h : message.concerns kind = true ∧ message.fragmentIndex kind < kind.fragmentCount then
      some ⟨message.fragmentIndex kind, h.2⟩
    else none
  | .process _ => none

theorem fragment_of_message (i : Fin kind.fragmentCount) :
    (Event.message (fragmentMessage kind bytes i) env).fragment kind = some i := by
  have hindex : (fragmentMessage kind bytes i).fragmentIndex kind = i := fragmentMessage_index i.2
  rw [Event.fragment, dif_pos ⟨fragmentMessage_concerns i.2, hindex.symm ▸ i.2⟩]
  exact congrArg some (Fin.ext hindex)

theorem fragment_of_beside {event : Event} {deadline : Nat}
    (h : event.beside kind deadline = true) : event.fragment kind = none := by
  cases event with
  | message message env =>
    have hconcerns : message.concerns kind = false := Bool.not_eq_true' _ ▸ h
    rw [Event.fragment, dif_neg (by simp [hconcerns])]
  | process env => rfl

/-- What brings a fragment is the frame it travels in. -/
theorem Event.belongs.isFragment {event : Event} {deadline : Nat} {i : Fin kind.fragmentCount}
    (h : event.belongs kind bytes deadline) (hfragment : event.fragment kind = some i) :
    ∃ env, event = .message (fragmentMessage kind bytes i) env := by
  rcases h with hbeside | ⟨j, hj, env, rfl⟩
  · rw [fragment_of_beside hbeside] at hfragment
    cases hfragment
  · rw [fragment_of_message ⟨j, hj⟩] at hfragment
    obtain rfl := Option.some.inj hfragment
    exact ⟨env, rfl⟩

theorem Collecting.beside {event : Event} (hevent : event.belongs kind bytes start.requestDeadline)
    (hnone : event.fragment kind = none) (h : Collecting start kind bytes received sync) :
    Collecting start kind bytes received (step sync event) := by
  rcases hevent with hbeside | ⟨j, hj, env, rfl⟩
  · exact h.untouched (step_untouched h.pendingKind (h.requestDeadline ▸ hbeside))
  · rw [fragment_of_message ⟨j, hj⟩] at hnone
    cases hnone

theorem Collecting.more {event : Event} {i : Fin kind.fragmentCount}
    (hevent : event.belongs kind bytes start.requestDeadline)
    (hfragment : event.fragment kind = some i) (h : Collecting start kind bytes received sync)
    (hmissing : insert i received ≠ Finset.univ) :
    Collecting start kind bytes (insert i received) (step sync event) := by
  obtain ⟨env, rfl⟩ := Event.belongs.isFragment hevent hfragment
  have hput := h.put i
  have hafter : step sync (.message (fragmentMessage kind bytes i) env) =
      sync.put kind i (piece bytes i) :=
    (handleMessage_fragment h.pendingKind i.2).trans (if_neg (mt hput.length_eq_iff.1 hmissing))
  exact hafter ▸ hput

/-- What is to be seen when the last fragment comes. -/
structure Completed (start : State) (kind : Kind) (bytes : Bytes) (sync : State)
    (message : Message) (env : Env) (full : State) : Prop where
  assembled : sync.assembled kind message = bytes
  after : step sync (.message message env) = full.complete kind env
  collected : Collecting start kind bytes Finset.univ full

theorem Collecting.last (h : Collecting start kind bytes received sync)
    (hsize : bytes.length = kind.size) (i : Fin kind.fragmentCount)
    (hfull : insert i received = Finset.univ) :
    Completed start kind bytes sync (fragmentMessage kind bytes i) env
      (sync.put kind i (piece bytes i)) := by
  have hput := h.put i
  have hlength := hput.length_eq_iff.2 hfull
  rw [hfull] at hput
  constructor
  case assembled =>
    rw [State.assembled, fragmentMessage_index i.2, fragmentMessage_drop]
    exact hput.join hsize
  case after => exact (handleMessage_fragment h.pendingKind i.2).trans (if_pos hlength)
  case collected => exact hput

/-- **What is asked for is put together** from its fragments, in whatever
order and however often they come, with whatever comes beside them while
there is time. -/
theorem completed (hkind : start.pendingKind = some kind)
    (hclear : start.fragments kind = .clear _) (hsize : bytes.length = kind.size)
    {arrivals : List Event} (hbelongs : ∀ event ∈ arrivals,
      event.belongs kind bytes start.requestDeadline)
    (hall : ∀ i < kind.fragmentCount, ∃ env,
      .message (fragmentMessage kind bytes i) env ∈ arrivals) :
    ∃ before message env later full, arrivals = before ++ .message message env :: later ∧
      Completed start kind bytes (run step start before) message env full := by
  have hstart : Collecting start kind bytes ∅ start := by
    refine ⟨hkind, rfl, rfl, fun i => ?_, rfl, rfl⟩
    simp [hclear, Fragments.clear]
  have hmissing : (∅ : Finset (Fin kind.fragmentCount)) ≠ Finset.univ := by
    cases kind <;> decide
  have hbrings (i : Fin kind.fragmentCount) (_ : i ∉ (∅ : Finset (Fin kind.fragmentCount))) :
      ∃ event ∈ arrivals, event.fragment kind = some i := by
    obtain ⟨env, henv⟩ := hall i i.2
    exact ⟨_, henv, fragment_of_message i⟩
  obtain ⟨before, event, later, received, i, hsplit, hcollecting, hfragment, hfull, -⟩ :=
    @CanGui.assembled State Event step kind.fragmentCount (Collecting start kind bytes)
      (fun _ _ => True) (fun event => event.belongs kind bytes start.requestDeadline)
      (Event.fragment kind) (fun _ _ _ => Collecting.beside) (fun _ _ _ _ => Collecting.more)
      (fun _ _ _ _ _ _ _ _ => trivial) (fun _ _ _ _ _ => trivial) arrivals start ∅ hbelongs hstart
      hmissing hbrings
  have hevent : event.belongs kind bytes start.requestDeadline :=
    hbelongs event (hsplit ▸ List.mem_append_right _ List.mem_cons_self)
  obtain ⟨env, rfl⟩ := Event.belongs.isFragment hevent hfragment
  exact ⟨before, _, env, later, _, hsplit, hcollecting.last hsize i hfull⟩

end Sync

end Log

end CanGui
