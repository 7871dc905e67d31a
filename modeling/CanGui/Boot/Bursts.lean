import CanGui.Boot.AntiRollback
import CanGui.Boot.Format
import CanGui.Common.Bursts
/-!
# Boot control — damaged records

A burst is a fault that changes bits of a stored record, no more than 32
in a row. It is told wherever it lies (`decodeRecord_burst`): over the
fields, their CRC-32 or the marker behind it. So what it costs is the
record, and with two of them one change at most
(`burst_costs_one_change`).
-/

namespace CanGui

namespace BootControl

open ShiftRegister (DifferWithin)

/-! ## One record -/

/-- The record after a burst, which may have changed nothing. -/
def Damaged (record damaged : Record) : Prop :=
  DifferWithin 32 record.bytes.bits damaged.bytes.bits

theorem crc_committedRecord (state : ControlState) :
    calculateCrc32 (committedRecord state).bytes crcOffset =
      readLe32 ((committedRecord state).bytes.drop crcOffset) := by
  have hformat := recordFormatOk_committedRecord state
  simp only [recordFormatOk, Bool.and_eq_true, decide_eq_true_eq] at hformat
  exact hformat.2

/-- **A damaged record is told.** It does not decode, or nothing about it
has changed. -/
theorem decodeRecord_burst {record damaged : Record} {state : ControlState}
    (h : decodeRecord record = some state) (hburst : Damaged record damaged) :
    damaged = record ∨ decodeRecord damaged = none := by
  cases hdamaged : decodeRecord damaged with
  | none => exact .inr rfl
  | some state' =>
    left
    obtain ⟨-, rfl⟩ := decodeRecord_eq_some_iff.1 h
    obtain ⟨-, rfl⟩ := decodeRecord_eq_some_iff.1 hdamaged
    have hcovered : (committedRecord state).bytes.take (crcOffset + 4) =
        (committedRecord state').bytes.take (crcOffset + 4) :=
      crc32_burst (by rw [(committedRecord state).size]; decide) (crc_committedRecord state)
        (crc_committedRecord state') hburst
    -- behind the checksum both have the marker
    have hmarker : ∀ state : ControlState,
        (committedRecord state).bytes.drop (crcOffset + 4) = writeLe32 commitMarker :=
      fun _ => rfl
    apply Record.ext
    rw [← List.take_append_drop (crcOffset + 4) (committedRecord state').bytes, ← hcovered,
      hmarker state', ← hmarker state, List.take_append_drop]

/-! ## Two records -/

theorem recordAt_recordPair_other (target : RecordIndex) (record other : Record) :
    recordAt (recordPair target record other) (otherRecord target) = other := by
  match target with
  | 0 => rfl
  | 1 => rfl

/-- The records with what a burst made of one of them. -/
def damageAt (records : Record × Record) (j : RecordIndex) (damaged : Record) : Record × Record :=
  recordPair j damaged (recordAt records (otherRecord j))

theorem recordAt_damageAt (records : Record × Record) (j : RecordIndex) (damaged : Record) :
    recordAt (damageAt records j damaged) j = damaged :=
  recordAt_recordPair j damaged _

theorem recordAt_damageAt_other (records : Record × Record) (j : RecordIndex) (damaged : Record) :
    recordAt (damageAt records j damaged) (otherRecord j) = recordAt records (otherRecord j) :=
  recordAt_recordPair_other j damaged _

/-- A burst in the record that is not selected is of no account. -/
theorem load_damageAt_other {records : Record × Record} {i : RecordIndex} {damaged : Record}
    {state : ControlState} (hselected : decodeRecord (recordAt records i) = some state)
    (hdamaged : decodeRecord damaged = none) :
    loadRecords (damageAt records (otherRecord i) damaged) = .ok (state, i) := by
  have hkept := recordAt_damageAt_other records (otherRecord i) damaged
  rw [otherRecord_otherRecord] at hkept
  refine load_of_single ?_ ?_
  · rw [hkept]
    exact hselected
  · rw [recordAt_damageAt]
    exact hdamaged

/-- A burst in the selected one leaves the state of the other. -/
theorem load_damageAt_selected {records : Record × Record} {i : RecordIndex} {damaged : Record}
    {old : ControlState} (hother : decodeRecord (recordAt records (otherRecord i)) = some old)
    (hdamaged : decodeRecord damaged = none) :
    loadRecords (damageAt records i damaged) = .ok (old, otherRecord i) := by
  refine load_of_single ?_ ?_
  · rw [recordAt_damageAt_other]
    exact hother
  · rw [otherRecord_otherRecord, recordAt_damageAt]
    exact hdamaged

theorem load_of_none {records : Record × Record} {i : RecordIndex}
    (h : decodeRecord (recordAt records i) = none)
    (hother : decodeRecord (recordAt records (otherRecord i)) = none) :
    loadRecords records = .error .noValidRecord := by
  match i with
  | 0 =>
    have h0 : decodeRecord records.1 = none := h
    have h1 : decodeRecord records.2 = none := hother
    simp only [loadRecords, load, h0, h1]
  | 1 =>
    have h1 : decodeRecord records.2 = none := h
    have h0 : decodeRecord records.1 = none := hother
    simp only [loadRecords, load, h0, h1]

theorem loadRecords_damageAt_self (records : Record × Record) (j : RecordIndex) :
    loadRecords (damageAt records j (recordAt records j)) = loadRecords records := by
  match j with
  | 0 => rfl
  | 1 => rfl

/-! ## Runs over the stored records -/

/-- An operation on what is stored: the state is loaded, and if it
changes, its record takes the place of the one that was not selected. -/
def storeStep (records : Record × Record) (op : ControlOp) : Record × Record :=
  match loadRecords records with
  | .error _ => records
  | .ok (state, i) =>
    if opChanged state op then
      recordPair (otherRecord i) (committedRecord (opStep state op)) (recordAt records i)
    else
      records

/-- What the record that is not selected holds after some operations:
nothing as long as nothing has changed, then the state before the last
change. -/
inductive Before (s₀ : ControlState) (ops : List ControlOp) : Option ControlState → Prop where
  | unchanged (h : run opStep s₀ ops = s₀) : Before s₀ ops none
  | changed (before : List ControlOp) (op : ControlOp) (later : List ControlOp)
      (hops : ops = before ++ op :: later)
      (hchange : opChanged (run opStep s₀ before) op = true)
      (hlater : run opStep s₀ ops = opStep (run opStep s₀ before) op) :
      Before s₀ ops (some (run opStep s₀ before))

/-- The records, seen from the operations so far: record `i` holds the
state they led to. -/
structure Stored (s₀ : ControlState) (ops : List ControlOp) (records : Record × Record)
    (i : RecordIndex) : Prop where
  selected : decodeRecord (recordAt records i) = some (run opStep s₀ ops)
  before : Before s₀ ops (decodeRecord (recordAt records (otherRecord i)))

variable {s₀ : ControlState} {ops : List ControlOp} {records : Record × Record} {i : RecordIndex}

/-- What is loaded is the state the operations led to. -/
theorem Stored.load (h : Stored s₀ ops records i) :
    loadRecords records = .ok (run opStep s₀ ops, i) := by
  have hbefore := h.before
  cases hother : decodeRecord (recordAt records (otherRecord i)) with
  | none => exact load_of_single h.selected hother
  | some old =>
    rw [hother] at hbefore
    cases hbefore with
    | changed before op later hops hchange hlater =>
      have hselected : decodeRecord (recordAt records (otherRecord (otherRecord i))) =
          some (run opStep s₀ ops) := by
        rw [otherRecord_otherRecord]
        exact h.selected
      have hgen : (run opStep s₀ ops).generation =
          nextGeneration (run opStep s₀ before).generation := by
        rw [hlater]
        exact generation_of_changed hchange
      have hload := load_of_next hother hselected hgen
      rwa [otherRecord_otherRecord] at hload

/-- One more operation. -/
theorem Stored.step (h : Stored s₀ ops records i) (op : ControlOp) :
    ∃ i', Stored s₀ (ops ++ [op]) (storeStep records op) i' := by
  have hrun : run opStep s₀ (ops ++ [op]) = opStep (run opStep s₀ ops) op := run_append _ _ _
  unfold storeStep
  rw [h.load]
  dsimp only
  split
  · next hchange =>
    have hvalid := isStateValid_opStep _ op (isStateValid_of_decodeRecord h.selected)
    refine ⟨otherRecord i, ?_, ?_⟩
    · rw [recordAt_recordPair, hrun]
      exact decodeRecord_committedRecord hvalid
    · rw [recordAt_recordPair_other, h.selected]
      exact .changed ops op [] rfl hchange hrun
  · next hchange =>
    have hsame : run opStep s₀ (ops ++ [op]) = run opStep s₀ ops := by
      rw [hrun]
      exact opStep_of_unchanged (Bool.eq_false_iff.2 hchange)
    refine ⟨i, by rw [hsame]; exact h.selected, ?_⟩
    have hbefore := h.before
    cases hother : decodeRecord (recordAt records (otherRecord i)) with
    | none =>
      rw [hother] at hbefore
      cases hbefore with
      | unchanged hnone => exact .unchanged (hsame.trans hnone)
    | some old =>
      rw [hother] at hbefore
      cases hbefore with
      | changed before op' later hops hchange' hlater =>
        exact .changed before op' (later ++ [op]) (by rw [hops]; simp) hchange'
          (hsame.trans hlater)

theorem stored_run (hinit : isStateValid s₀ = true) {second : Record}
    (hsecond : decodeRecord second = none) (ops : List ControlOp) :
    ∃ i, Stored s₀ ops (run storeStep (committedRecord s₀, second) ops) i := by
  induction ops using List.reverseRecOn with
  | nil =>
    refine ⟨0, decodeRecord_committedRecord hinit, ?_⟩
    have hnone : decodeRecord
        (recordAt (committedRecord s₀, second) (otherRecord 0)) = none := hsecond
    rw [run_nil, hnone]
    exact .unchanged rfl
  | append_singleton ops op ih =>
    obtain ⟨i, hi⟩ := ih
    rw [run_append]
    exact hi.step op

/-- **A burst costs one change at most.** After any operations on a
provisioned pair of records the state they led to is loaded; and with a
burst in one of the two records it is that state still, or the one before
the last change, or, as long as nothing has changed, none. -/
theorem burst_costs_one_change (slot : BootSlot) (counter build : UInt32) {s₀ : ControlState}
    (hinit : initializeControl slot counter build = some s₀) {second : Record}
    (hsecond : decodeRecord second = none) (ops : List ControlOp) :
    let records := run storeStep (committedRecord s₀, second) ops
    ∃ i, loadRecords records = .ok (run opStep s₀ ops, i) ∧
      ∀ j damaged, (decodeRecord (recordAt records j)).isSome = true →
        Damaged (recordAt records j) damaged →
        loadRecords (damageAt records j damaged) = .ok (run opStep s₀ ops, i) ∨
        j = i ∧ (run opStep s₀ ops = s₀ ∧
            loadRecords (damageAt records j damaged) = .error .noValidRecord ∨
          ∃ before op later, ops = before ++ op :: later ∧
            opChanged (run opStep s₀ before) op = true ∧
            run opStep s₀ ops = opStep (run opStep s₀ before) op ∧
            loadRecords (damageAt records j damaged) =
              .ok (run opStep s₀ before, otherRecord i)) := by
  intro records
  obtain ⟨i, hi⟩ := stored_run (isStateValid_initializeControl hinit) hsecond ops
  refine ⟨i, hi.load, fun j damaged hwritten hburst => ?_⟩
  obtain ⟨state, hstate⟩ := Option.isSome_iff_exists.1 hwritten
  rcases decodeRecord_burst hstate hburst with rfl | hnone
  · left
    rw [loadRecords_damageAt_self]
    exact hi.load
  by_cases hj : j = i
  · right
    subst hj
    refine ⟨rfl, ?_⟩
    have hbefore := hi.before
    cases hother : decodeRecord (recordAt records (otherRecord j)) with
    | none =>
      rw [hother] at hbefore
      cases hbefore with
      | unchanged hsame =>
        refine .inl ⟨hsame, load_of_none (i := j) ?_ ?_⟩
        · rw [recordAt_damageAt]
          exact hnone
        · rw [recordAt_damageAt_other]
          exact hother
    | some old =>
      rw [hother] at hbefore
      cases hbefore with
      | changed before op later hops hchange hlater =>
        exact .inr ⟨before, op, later, hops, hchange, hlater,
          load_damageAt_selected hother hnone⟩
  · left
    rw [eq_otherRecord_of_ne hj]
    exact load_damageAt_other hi.selected hnone

/-- An update scheduled on a new device, whose second record is erased. -/
theorem burst_costs_one_change_schedule :
    let s₀ : ControlState := ⟨1, .a, .none, 0, 7, 7, 0, 100, 0⟩
    let second : Record := ⟨List.replicate 64 0xFF, rfl⟩
    let records := run storeStep (committedRecord s₀, second) [.schedule .b 8 101]
    ∃ i, loadRecords records = .ok (run opStep s₀ [.schedule .b 8 101], i) ∧
      ∀ j damaged, (decodeRecord (recordAt records j)).isSome = true →
        Damaged (recordAt records j) damaged →
        loadRecords (damageAt records j damaged) =
          .ok (run opStep s₀ [.schedule .b 8 101], i) ∨
        j = i ∧ (run opStep s₀ [.schedule .b 8 101] = s₀ ∧
            loadRecords (damageAt records j damaged) = .error .noValidRecord ∨
          ∃ before op later, [.schedule .b 8 101] = before ++ op :: later ∧
            opChanged (run opStep s₀ before) op = true ∧
            run opStep s₀ [.schedule .b 8 101] = opStep (run opStep s₀ before) op ∧
            loadRecords (damageAt records j damaged) =
              .ok (run opStep s₀ before, otherRecord i)) :=
  burst_costs_one_change .a 7 100 rfl (decodeRecord_of_not_committed (by decide)) _

end BootControl

end CanGui
