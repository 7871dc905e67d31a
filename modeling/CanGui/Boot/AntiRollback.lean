import CanGui.Common.Run
import CanGui.Boot.Record
/-!
# Boot control — anti-rollback

A run of the boot-control operations with arbitrary arguments, and of
steps that write the state to a record and load it back. Validity is kept
by every step, the minimum security counter only ever grows, and it grows
exactly when a pending image is promoted.
-/

namespace CanGui

namespace BootControl

/-! ## The machine -/

/-- A boot-control operation. `reload` writes the state to the record
`target` and loads the two records, `other` being what the second one
holds. -/
inductive ControlOp where
  | schedule (targetSlot : BootSlot) (securityCounter buildVersion : UInt32)
  | select (slotAValid slotBValid : Bool)
  | confirm (runningSlot : BootSlot) (securityCounter buildVersion : UInt32)
  | reload (target : RecordIndex) (other : Record)
  deriving DecidableEq

/-- The pair of records with `record` at `target`. -/
def recordPair (target : RecordIndex) (record other : Record) : Record × Record :=
  if target = 0 then (record, other) else (other, record)

/-- What loading the state back from the record it was written to gives:
nothing if it cannot be prepared or if Load does not select it. -/
def reload (state : ControlState) (target : RecordIndex) (other : Record) : Option ControlState :=
  match prepareRecord state with
  | .error _ => none
  | .ok record =>
    match loadRecords (recordPair target (markRecordCommitted record) other) with
    | .error _ => none
    | .ok (loaded, selected) => if selected = target then some loaded else none

/-- The result code of an operation. -/
def opResult (state : ControlState) : ControlOp → ControlResult
  | .schedule slot counter build => (scheduleUpdate state slot counter build).1
  | .select aValid bValid => (selectBoot state aValid bValid).result
  | .confirm slot counter build => (confirmRunning state slot counter build).result
  | .reload target other => if (reload state target other).isSome then .ok else .noValidRecord

/-- Whether an operation reports a change of the state. -/
def opChanged (state : ControlState) : ControlOp → Bool
  | .schedule slot counter build => (scheduleUpdate state slot counter build).1 = .ok
  | .select aValid bValid => (selectBoot state aValid bValid).stateChanged
  | .confirm slot counter build => (confirmRunning state slot counter build).stateChanged
  | .reload _ _ => false

def opStep (state : ControlState) : ControlOp → ControlState
  | .schedule slot counter build => (scheduleUpdate state slot counter build).2
  | .select aValid bValid => (selectBoot state aValid bValid).state
  | .confirm slot counter build => (confirmRunning state slot counter build).state
  | .reload target other => (reload state target other).getD state

/-! ## What a step preserves -/

theorem recordAt_recordPair (target : RecordIndex) (record other : Record) :
    recordAt (recordPair target record other) target = record := by
  match target with
  | 0 => rfl
  | 1 => rfl

/-- **The record gives back what was written.** -/
theorem reload_eq {state loaded : ControlState} {target : RecordIndex} {other : Record}
    (h : reload state target other = some loaded) : loaded = state := by
  unfold reload at h
  split at h
  · cases h
  next record hprep =>
  split at h
  · cases h
  next s selected hload =>
  split at h
  · next hsel =>
    cases h
    have hvalid : isStateValid state = true := by
      unfold prepareRecord at hprep
      split at hprep
      · assumption
      · cases hprep
    rw [prepareRecord, if_pos hvalid] at hprep
    cases hprep
    have hdec := decodeRecord_of_load hload
    rw [hsel, recordAt_recordPair] at hdec
    exact Option.some.inj (hdec.symm.trans (decodeRecord_committedRecord hvalid))
  · cases h

/-- Beside a record that does not decode the state is always loaded
back. -/
theorem reload_of_undecodable {state : ControlState} {target : RecordIndex} {other : Record}
    (hvalid : isStateValid state = true) (hother : decodeRecord other = none) :
    reload state target other = some state := by
  have hload : loadRecords (recordPair target (committedRecord state) other) =
      .ok (state, target) := by
    refine load_of_single ?_ ?_
    · rw [recordAt_recordPair]
      exact decodeRecord_committedRecord hvalid
    · match target with
      | 0 => exact hother
      | 1 => exact hother
  have hload' : loadRecords (recordPair target (markRecordCommitted (recordOf state)) other) =
      .ok (state, target) := hload
  simp [reload, prepareRecord, hvalid, hload']

/-- And so it is beside a record of the state it succeeds. -/
theorem reload_of_previous {old state : ControlState} {target : RecordIndex} {other : Record}
    (hvalid : isStateValid state = true) (hother : decodeRecord other = some old)
    (hgen : state.generation = nextGeneration old.generation) :
    reload state target other = some state := by
  have hload : loadRecords (recordPair target (committedRecord state) other) =
      .ok (state, otherRecord (otherRecord target)) := by
    refine load_of_next ?_ ?_ hgen
    · match target with
      | 0 => exact hother
      | 1 => exact hother
    · rw [otherRecord_otherRecord, recordAt_recordPair]
      exact decodeRecord_committedRecord hvalid
  rw [otherRecord_otherRecord] at hload
  have hload' : loadRecords (recordPair target (markRecordCommitted (recordOf state)) other) =
      .ok (state, target) := hload
  simp [reload, prepareRecord, hvalid, hload']

/-- What one step may do to the state. -/
structure Advance (s s' : ControlState) : Prop where
  /-- The minimum counter does not decrease. -/
  counter_le : s.minimumSecurityCounter ≤ s'.minimumSecurityCounter
  /-- The confirmed image changes only to the pending one, and raises the
  minimum counter. -/
  promoted : s'.confirmedImage ≠ s.confirmedImage →
    s'.confirmedImage = s.pendingImage ∧ s.minimumSecurityCounter < s'.minimumSecurityCounter
  /-- An image becomes pending only above the minimum counter. -/
  pending : s'.pendingSlot ≠ .none → s'.pendingImage ≠ s.pendingImage →
    s.minimumSecurityCounter < s'.pendingSecurityCounter
  /-- A change is one generation. -/
  generation : s' ≠ s → s'.generation = nextGeneration s.generation

theorem Advance.refl (s : ControlState) : Advance s s where
  counter_le := UInt32.le_refl _
  promoted h := absurd rfl h
  pending _ h := absurd rfl h
  generation h := absurd rfl h

theorem advance_schedule (s : ControlState) (slot : BootSlot) (counter build : UInt32) :
    Advance s (scheduleUpdate s slot counter build).2 := by
  rcases scheduleUpdate_cases s slot counter build
    with ⟨-, h⟩ | ⟨-, -, -, -, hcounter, h⟩
  · rw [h]
    exact Advance.refl s
  · rw [h]
    exact ⟨UInt32.le_refl _, fun hc => absurd rfl hc, fun _ _ => hcounter, fun _ => rfl⟩

theorem advance_select (s : ControlState) (aValid bValid : Bool) :
    Advance s (selectBoot s aValid bValid).state := by
  rcases selectBoot_cases s aValid bValid
    with ⟨-, h⟩ | ⟨-, -, -, -, h⟩ | ⟨-, -, h⟩ | ⟨-, -, h⟩
  · rw [h]
    exact Advance.refl s
  · rw [h]
    exact ⟨UInt32.le_refl _, fun hc => absurd rfl hc, fun _ hp => absurd rfl hp, fun _ => rfl⟩
  · rw [h]
    exact ⟨UInt32.le_refl _, fun hc => absurd rfl hc, fun hp => absurd rfl hp, fun _ => rfl⟩
  · rw [h]
    exact Advance.refl s

theorem advance_confirm (s : ControlState) (slot : BootSlot) (counter build : UInt32) :
    Advance s (confirmRunning s slot counter build).state := by
  rcases confirmRunning_cases s slot counter build
    with ⟨h, -⟩ | ⟨hvalid, hslot, himage, h⟩
  · rw [h]
    exact Advance.refl s
  · have habove : s.minimumSecurityCounter < counter := by
      have hcounter : s.pendingSecurityCounter = counter :=
        congrArg ImageIdentity.securityCounter himage
      have hpending : s.pendingSlot = slot := congrArg ImageIdentity.slot himage
      obtain ⟨-, -, -, ⟨hnone, -⟩ | ⟨-, -, -, hlt⟩⟩ := isStateValid_iff.1 hvalid
      · exact absurd (hpending.symm.trans hnone) hslot
      · exact hcounter ▸ hlt
    rw [h]
    exact ⟨UInt32.le_of_lt habove, fun _ => ⟨himage.symm, habove⟩,
      fun hp => absurd rfl hp, fun _ => rfl⟩

theorem opStep_reload (s : ControlState) (target : RecordIndex) (other : Record) :
    opStep s (.reload target other) = s := by
  rw [opStep]
  cases h : reload s target other with
  | none => rfl
  | some loaded => exact reload_eq h

/-- **Every step is an advance.** -/
theorem advance_opStep (s : ControlState) (op : ControlOp) : Advance s (opStep s op) := by
  cases op with
  | schedule slot counter build => exact advance_schedule s slot counter build
  | select aValid bValid => exact advance_select s aValid bValid
  | confirm slot counter build => exact advance_confirm s slot counter build
  | reload target other =>
    rw [opStep_reload]
    exact Advance.refl s

/-- **Validity is an invariant.** -/
theorem isStateValid_opStep (s : ControlState) (op : ControlOp) (hs : isStateValid s = true) :
    isStateValid (opStep s op) = true := by
  obtain ⟨hgen, hconf, hmin, hpend⟩ := isStateValid_iff.1 hs
  cases op with
  | schedule slot counter build =>
    rw [opStep]
    rcases scheduleUpdate_cases s slot counter build
      with ⟨-, h⟩ | ⟨hslot, -, hother, -, hcounter, h⟩
    · rw [h]
      exact hs
    · rw [h]
      exact isStateValid_iff.2 ⟨nextGeneration_ne_zero _, hconf, hmin,
        .inr ⟨hslot, hother, UInt8.le_refl _, hcounter⟩⟩
  | select aValid bValid =>
    rw [opStep]
    rcases selectBoot_cases s aValid bValid
      with ⟨-, h⟩ | ⟨-, hp, -, hpos, h⟩ | ⟨-, -, h⟩ | ⟨-, -, h⟩
    · rw [h]
      exact hs
    · rw [h]
      refine isStateValid_iff.2 ⟨nextGeneration_ne_zero _, hconf, hmin, .inr ?_⟩
      rcases hpend with ⟨hnone, -⟩ | ⟨hne, hother, hle, hlt⟩
      · exact absurd hnone hp
      · refine ⟨hne, hother, ?_, hlt⟩
        dsimp only
        simp only [maxPendingAttempts] at hle ⊢
        grind
    · rw [h]
      exact isStateValid_iff.2 ⟨nextGeneration_ne_zero _, hconf, hmin, .inl ⟨rfl, rfl, rfl, rfl⟩⟩
    · rw [h]
      exact hs
  | confirm slot counter build =>
    rw [opStep]
    rcases confirmRunning_cases s slot counter build
      with ⟨h, -⟩ | ⟨-, hslot, -, h⟩
    · rw [h]
      exact hs
    · rw [h]
      exact isStateValid_iff.2 ⟨nextGeneration_ne_zero _, hslot, rfl, .inl ⟨rfl, rfl, rfl, rfl⟩⟩
  | reload target other =>
    rw [opStep_reload]
    exact hs

/-- An operation that fails reports no change. -/
theorem opChanged_of_error {s : ControlState} {op : ControlOp} (h : opResult s op ≠ .ok) :
    opChanged s op = false := by
  cases op with
  | schedule slot counter build => exact decide_eq_false h
  | select aValid bValid =>
    rcases selectBoot_cases s aValid bValid
      with ⟨-, hs⟩ | ⟨-, -, -, -, hs⟩ | ⟨-, -, hs⟩ | ⟨-, -, hs⟩
    · rw [opChanged, hs]
    all_goals exact absurd (by rw [opResult, hs]) h
  | confirm slot counter build =>
    rcases confirmRunning_cases s slot counter build
      with ⟨-, hs⟩ | ⟨-, -, -, hs⟩
    · exact hs
    · exact absurd (by rw [opResult, hs]) h
  | reload target other => rfl

/-- An operation that reports no change makes none. -/
theorem opStep_of_unchanged {s : ControlState} {op : ControlOp} (h : opChanged s op = false) :
    opStep s op = s := by
  cases op with
  | schedule slot counter build =>
    rcases scheduleUpdate_cases s slot counter build
      with ⟨-, hs⟩ | ⟨-, -, -, -, -, hs⟩
    · exact hs
    · rw [opChanged, hs] at h
      cases h
  | select aValid bValid =>
    rcases selectBoot_cases s aValid bValid
      with ⟨-, hs⟩ | ⟨-, -, -, -, hs⟩ | ⟨-, -, hs⟩ | ⟨-, -, hs⟩
    · rw [opStep, hs]
    · rw [opChanged, hs] at h
      cases h
    · rw [opChanged, hs] at h
      cases h
    · rw [opStep, hs]
  | confirm slot counter build =>
    rcases confirmRunning_cases s slot counter build
      with ⟨hs, -⟩ | ⟨-, -, -, hs⟩
    · exact hs
    · rw [opChanged, hs] at h
      cases h
  | reload target other => exact opStep_reload s target other

/-- And one that reports a change has moved the generation on by one. -/
theorem generation_of_changed {s : ControlState} {op : ControlOp} (h : opChanged s op = true) :
    (opStep s op).generation = nextGeneration s.generation := by
  cases op with
  | schedule slot counter build =>
    rcases scheduleUpdate_cases s slot counter build
      with ⟨hs, -⟩ | ⟨-, -, -, -, -, hs⟩
    · exact absurd (of_decide_eq_true h) hs
    · rw [opStep, hs]
  | select aValid bValid =>
    rcases selectBoot_cases s aValid bValid
      with ⟨-, hs⟩ | ⟨-, -, -, -, hs⟩ | ⟨-, -, hs⟩ | ⟨-, -, hs⟩
    · rw [opChanged, hs] at h
      cases h
    · rw [opStep, hs]
    · rw [opStep, hs]
    · rw [opChanged, hs] at h
      cases h
  | confirm slot counter build =>
    rcases confirmRunning_cases s slot counter build
      with ⟨-, hs⟩ | ⟨-, -, -, hs⟩
    · exact Bool.noConfusion (hs.symm.trans h)
    · rw [opStep, hs]
  | reload target other => cases h

theorem isStateValid_initializeControl {slot : BootSlot} {counter build : UInt32}
    {s : ControlState} (h : initializeControl slot counter build = some s) :
    isStateValid s = true := by
  unfold initializeControl at h
  split at h
  · next hslot =>
    cases h
    exact isStateValid_iff.2 ⟨(by decide : (1 : UInt32) ≠ 0), isSlot_iff.1 hslot, rfl,
      .inl ⟨rfl, rfl, rfl, rfl⟩⟩
  · cases h

/-! ## Runs -/

end BootControl

end CanGui
