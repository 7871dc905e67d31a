import CanGui.Log.Link
/-!
# Event log — how it grows

Short of the wrap, a log that is not cleared only takes records behind its
latest one and gives up its oldest ones, whatever resets come in between.
-/

namespace CanGui

namespace Log

variable {machine log : Machine} {journal : Journal} {kept : List Record} {event : Event}

/-- The number of the latest record, zero without one. -/
def latestOf (kept : List Record) : Nat := (kept.getLast?.map (·.sequence.toNat)).getD 0

@[simp] theorem latestOf_nil : latestOf [] = 0 := rfl

@[simp] theorem latestOf_append (kept : List Record) (record : Record) :
    latestOf (kept ++ [record]) = record.sequence.toNat := by
  rw [latestOf, List.getLast?_append_of_ne_nil _ (by simp)]
  rfl

theorem latestOf_of_last (hlast : kept.length - 1 < kept.length) :
    latestOf kept = kept[kept.length - 1].sequence.toNat := by
  rw [latestOf, List.getLast?_eq_getElem?, List.getElem?_eq_getElem hlast]
  rfl

/-- Making room does not give up the latest record. -/
theorem latestOf_makeRoom (kept : List Record) : latestOf (makeRoom kept) = latestOf kept := by
  unfold makeRoom
  split
  · rfl
  · next hfull =>
    rcases kept with _ | ⟨first, _ | ⟨second, rest⟩⟩
    · rfl
    · exact absurd (show 1 < ramCapacity by decide) hfull
    · rw [latestOf, latestOf, List.tail_cons, List.getLast?_cons_cons]

theorem makeRoom_ne_nil (h : kept ≠ []) : makeRoom kept ≠ [] := by
  unfold makeRoom
  split
  · exact h
  · next hfull =>
    rcases kept with _ | ⟨first, _ | ⟨second, rest⟩⟩
    · exact absurd rfl h
    · exact absurd (show 1 < ramCapacity by decide) hfull
    · exact List.cons_ne_nil _ _

/-- A record that is appended goes on from the latest one. -/
theorem toNat_successor (hroom : latestOf kept ≠ lastSequence.toNat) :
    (successor kept).toNat = latestOf kept + 1 := by
  rcases Nat.eq_zero_or_pos kept.length with hnone | hpos
  · obtain rfl := List.eq_nil_of_length_eq_zero hnone
    rfl
  · have hlast : lastSequence.toNat = 2 ^ 32 - 1 := rfl
    rw [latestOf_of_last (Nat.sub_one_lt_of_lt hpos)] at hroom ⊢
    have hlt := kept[kept.length - 1].sequence.toNat_lt
    rw [successor_of_pos hpos, toNat_nextSequence, if_neg]
    intro htop
    rw [hlast] at hroom
    exact hroom (Nat.eq_sub_of_add_eq htop)

/-- The information of a log that is ready. -/
theorem Tracks.toNat_latest (h : Tracks machine journal) (hready : journal.ready = true) :
    machine.getInfo.latestSequence.toNat = latestOf journal.kept ∧
      machine.getInfo.count = journal.kept.length := by
  have hcount := (h.restored hready).count.1
  refine ⟨?_, hcount⟩
  rcases Nat.eq_zero_or_pos journal.kept.length with hnone | hpos
  · rw [(getInfo_empty (hcount.trans hnone)).2, List.eq_nil_of_length_eq_zero hnone]
    rfl
  · rw [(h.getInfo hready hpos).2, latestOf_of_last (Nat.sub_one_lt_of_lt hpos)]

/-- The information names a latest record when there is one. -/
structure Info.Coherent (info : Info) : Prop where
  count_le : info.count ≤ ramCapacity
  named : 0 < info.count ↔ 0 < info.latestSequence.toNat

theorem Info.Coherent.toNat_count {info : Info} (h : info.Coherent) :
    info.count.toUInt16.toNat = info.count :=
  Nat.mod_eq_of_lt (Nat.lt_of_le_of_lt h.count_le (by decide))

theorem Ordered.coherent (h : Ordered log) : log.getInfo.Coherent where
  count_le := h.count_le
  named := by
    constructor
    · intro hpos
      have hlatest : log.getInfo.latestSequence ≠ 0 := by
        rw [h.latest hpos]
        exact sequenceAfter_ne_zero (h.oldest_ne_zero hpos) _
      exact Nat.pos_of_ne_zero fun hzero => hlatest (UInt32.toNat_inj.1 hzero)
    · intro hlatest
      by_contra hnone
      rw [(getInfo_empty (Nat.eq_zero_of_not_pos hnone)).2] at hlatest
      exact absurd hlatest (by decide)

/-! ## What an event does -/

/-- An event that may append. -/
def Event.appends : Event → Bool
  | .push _ _ => true
  | .pushWithRtcTime _ _ => true
  | .interruptedPush _ _ _ => true
  | _ => false

/-- The log grows: it keeps its latest record, and any record it has now
was there or is a later one. -/
structure Grows (kept kept' : List Record) : Prop where
  latest_le : latestOf kept ≤ latestOf kept'
  held : ∀ record ∈ kept', record ∈ kept ∨ latestOf kept < record.sequence.toNat
  ne_nil : kept ≠ [] → kept' ≠ []

theorem Grows.refl (kept : List Record) : Grows kept kept :=
  ⟨Nat.le_refl _, fun _ h => .inl h, id⟩

theorem grows_makeRoom (kept : List Record) : Grows kept (makeRoom kept) where
  latest_le := Nat.le_of_eq (latestOf_makeRoom kept).symm
  held _ h := .inl ((makeRoom_suffix kept).subset h)
  ne_nil := makeRoom_ne_nil

theorem grows_append {record : Record} (hrecord : record.sequence = successor kept)
    (hroom : latestOf kept ≠ lastSequence.toNat) : Grows kept (makeRoom kept ++ [record]) := by
  have hnext : record.sequence.toNat = latestOf kept + 1 := hrecord ▸ toNat_successor hroom
  constructor
  case latest_le =>
    rw [latestOf_append]
    omega
  case held =>
    intro r hr
    rcases List.mem_append.1 hr with hr | hr
    · exact .inl ((makeRoom_suffix kept).subset hr)
    · obtain rfl := List.mem_singleton.1 hr
      exact .inr (by omega)
  case ne_nil => exact fun _ => by simp

/-- What an event does to the records kept. -/
theorem journal_step_cases (journal : Journal) (event : Event) :
    (journal.step event).kept = journal.kept ∨
    (journal.step event).kept = makeRoom journal.kept ∨
    event.appends = true ∧ journal.ready = true ∧ ∃ record, record.sequence = successor journal.kept ∧
      isRecordValid record.words = true ∧
      (journal.step event).kept = makeRoom journal.kept ++ [record] := by
  have hpush (entry : Entry) (uptimeMs : UInt32) :
      (journal.push entry uptimeMs).kept = journal.kept ∨
      journal.ready = true ∧ ∃ record, record.sequence = successor journal.kept ∧
        isRecordValid record.words = true ∧
        (journal.push entry uptimeMs).kept = makeRoom journal.kept ++ [record] := by
    unfold Journal.push
    split
    · next haccepted =>
      exact .inr ⟨(Bool.and_eq_true_iff.1 haccepted).2, _, record_sequence .., record_valid .., rfl⟩
    · exact .inl rfl
  cases event with
  | push entry uptimeMs =>
    rcases hpush { entry with rtcEpochS := 0 } uptimeMs with hsame | ⟨hready, hmore⟩
    · exact .inl hsame
    · exact .inr (.inr ⟨rfl, hready, hmore⟩)
  | pushWithRtcTime entry uptimeMs =>
    rcases hpush entry uptimeMs with hsame | ⟨hready, hmore⟩
    · exact .inl hsame
    · exact .inr (.inr ⟨rfl, hready, hmore⟩)
  | interruptedPush entry uptimeMs stores =>
    rw [Journal.step, Journal.interruptedPush]
    dsimp only
    split
    · next haccepted =>
      split
      · exact .inl rfl
      · split
        · exact .inr (.inl rfl)
        · exact .inr (.inr ⟨rfl, (Bool.and_eq_true_iff.1 haccepted).2, _, record_sequence ..,
            record_valid .., rfl⟩)
    · exact .inl rfl
  | reset => exact .inl rfl
  | init => exact .inl rfl

/-- **A log grows**, short of the wrap. -/
theorem Tracks.grows (h : Tracks machine journal)
    (hroom : event.appends = true → machine.getInfo.latestSequence ≠ lastSequence) :
    Grows journal.kept (journal.step event).kept := by
  rcases journal_step_cases journal event with
    hsame | hroomed | ⟨happends, hready, record, hrecord, -, hmore⟩
  · exact hsame ▸ Grows.refl _
  · exact hroomed ▸ grows_makeRoom _
  · rw [hmore]
    refine grows_append hrecord fun htop => hroom happends (UInt32.toNat_inj.1 ?_)
    rw [(h.toNat_latest hready).1, htop]

/-! ## What was appended -/

/-- The log follows the journal, and what was appended since it was last
cleared is numbered upwards. -/
structure Recorded (machine : Machine) (journal : Journal) : Prop where
  tracks : Tracks machine journal
  idle : machine.ram.debug.storageReady = false → machine.ram.count = 0
  increasing : machine.completed.Pairwise fun earlier later =>
    earlier.sequence.toNat < later.sequence.toNat
  bounded : ∀ record ∈ machine.completed, record.sequence.toNat ≤ latestOf journal.kept

/-- What an event appends. -/
theorem completed_step_cases (h : Tracks machine journal) (event : Event) :
    (step machine event).completed = machine.completed ∨
    event.appends = true ∧ journal.ready = true ∧ ∃ record, record.sequence = successor journal.kept ∧
      (step machine event).completed = machine.completed ++ [record] ∧
      (journal.step event).kept = makeRoom journal.kept ++ [record] := by
  -- the two pushes differ in the time they stamp, and append the same way
  have hpush (entry : Entry) (uptimeMs : UInt32) :
      (machine.pushWithRtcTime entry uptimeMs).2.completed = machine.completed ∨
      journal.ready = true ∧ ∃ record, record.sequence = successor journal.kept ∧
        (machine.pushWithRtcTime entry uptimeMs).2.completed = machine.completed ++ [record] ∧
        (journal.push entry uptimeMs).kept = makeRoom journal.kept ++ [record] := by
    by_cases haccepts : machine.accepts entry = true
    · obtain ⟨hinput, hstorage⟩ := Bool.and_eq_true_iff.1 haccepts
      have hready : journal.ready = true := h.ready.symm.trans hstorage
      have hnext := (h.restored hready).nextSequence
      refine .inr ⟨hready, entry.record uptimeMs (successor journal.kept), record_sequence .., ?_, ?_⟩
      · rw [push_accepted haccepts, hnext]
        rfl
      · rw [Journal.push, hinput, hready]
        rfl
    · refine .inl ?_
      rw [Machine.pushWithRtcTime]
      split
      · rfl
      · next hinput =>
        split
        · rfl
        · next hstorage =>
          exact absurd (Bool.and_eq_true_iff.2
            ⟨eq_true_of_ne_false hinput, eq_true_of_ne_false hstorage⟩) haccepts
  cases event with
  | push entry uptimeMs =>
    rcases hpush { entry with rtcEpochS := 0 } uptimeMs with hsame | ⟨hready, hmore⟩
    · exact .inl hsame
    · exact .inr ⟨rfl, hready, hmore⟩
  | pushWithRtcTime entry uptimeMs =>
    rcases hpush entry uptimeMs with hsame | ⟨hready, hmore⟩
    · exact .inl hsame
    · exact .inr ⟨rfl, hready, hmore⟩
  | interruptedPush entry uptimeMs stores =>
    have haccepts : machine.accepts entry = (entry.isInputValid && journal.ready) := by
      rw [Machine.accepts, h.ready]
    rw [step, Journal.step, Machine.interruptedPush, Journal.interruptedPush, haccepts]
    split
    · next haccepted =>
      have hready := (Bool.and_eq_true_iff.1 haccepted).2
      have hnext := (h.restored hready).nextSequence
      -- nine stores make a record, the ninth is its marker
      by_cases hpart : stores < 9
      · exact .inl (if_pos hpart)
      · refine .inr ⟨rfl, hready, entry.record uptimeMs (successor journal.kept),
          record_sequence .., ?_, ?_⟩
        · rw [← hnext]
          exact if_neg hpart
        · dsimp only
          rw [if_neg (by omega), if_neg hpart]
    · exact .inl rfl
  | reset => exact .inl rfl
  | init =>
    refine .inl ?_
    obtain ⟨tail, hholds, -⟩ := h.holds
    obtain ⟨-, -, -, -, hcompleted, -⟩ := hholds.recover { storageReady := true }
    exact hcompleted

/-- **A step of the log.** -/
theorem Recorded.step (h : Recorded machine journal)
    (hroom : event.appends = true → machine.getInfo.latestSequence ≠ lastSequence) :
    Recorded (Log.step machine event) (journal.step event) := by
  have hgrows := h.tracks.grows hroom
  refine ⟨tracks_step h.tracks event, count_of_not_ready [event] machine h.idle, ?_, ?_⟩
  · rcases completed_step_cases h.tracks event with
      hsame | ⟨happends, hready, record, hrecord, hmore, -⟩
    · exact hsame ▸ h.increasing
    · rw [hmore]
      refine List.pairwise_append.2 ⟨h.increasing, List.pairwise_singleton _ _, ?_⟩
      intro earlier hearlier later hlater
      obtain rfl := List.mem_singleton.1 hlater
      have hbound := h.bounded earlier hearlier
      have hnext := toNat_successor fun htop =>
        hroom happends (UInt32.toNat_inj.1 ((h.tracks.toNat_latest hready).1.trans htop))
      rw [hrecord, hnext]
      omega
  · intro record hrecord
    rcases completed_step_cases h.tracks event with
      hsame | ⟨-, -, record', -, hmore, hkept⟩
    · exact Nat.le_trans (h.bounded record (hsame ▸ hrecord)) hgrows.latest_le
    · rw [hmore] at hrecord
      rcases List.mem_append.1 hrecord with hin | hin
      · exact Nat.le_trans (h.bounded record hin) hgrows.latest_le
      · obtain rfl := List.mem_singleton.1 hin
        rw [hkept, latestOf_append]

/-- What is kept was appended. -/
theorem Recorded.mem_completed (h : Recorded machine journal) {record : Record}
    (hrecord : record ∈ journal.kept) : record ∈ machine.completed :=
  h.tracks.recent.subset hrecord

/-- What can be read is kept. -/
theorem Recorded.mem_kept (h : Recorded machine journal) {record : Record}
    (hrecord : record ∈ machine.readable) : record ∈ journal.kept := by
  cases hready : machine.ram.debug.storageReady with
  | false =>
    rw [Machine.readable, h.idle hready] at hrecord
    exact absurd hrecord List.not_mem_nil
  | true =>
    obtain ⟨tail, hholds, haligned⟩ := h.tracks.holds
    rwa [hholds.readable (haligned (h.tracks.ready.symm.trans hready))] at hrecord

theorem readBySequence_mem {sequence : UInt32} {record : Record}
    (hread : machine.readBySequence sequence = some record) : record ∈ machine.readable := by
  rw [Machine.readBySequence] at hread
  split at hread
  · cases hread
  · exact List.mem_of_find?_eq_some hread

/-- **One record has one number.** -/
theorem Recorded.eq_of_sequence (h : Recorded machine journal) {record record' : Record}
    (hrecord : record ∈ machine.completed) (hrecord' : record' ∈ machine.completed)
    (hsame : record.sequence = record'.sequence) : record = record' := by
  obtain ⟨i, hi, rfl⟩ := List.getElem_of_mem hrecord
  obtain ⟨j, hj, rfl⟩ := List.getElem_of_mem hrecord'
  have hordered := List.pairwise_iff_getElem.1 h.increasing
  rcases Nat.lt_trichotomy i j with hlt | rfl | hlt
  · exact absurd (congrArg UInt32.toNat hsame) (Nat.ne_of_lt (hordered i j hi hj hlt))
  · rfl
  · exact absurd (congrArg UInt32.toNat hsame.symm) (Nat.ne_of_lt (hordered j i hj hi hlt))

theorem Recorded.sequence_pos (h : Recorded machine journal) {record : Record}
    (hrecord : record ∈ journal.kept) : 0 < record.sequence.toNat := by
  obtain ⟨tail, hholds, -⟩ := h.tracks.holds
  obtain ⟨first, hfirst, hnumbered⟩ := hholds.numbered
  obtain ⟨age, hage, rfl⟩ := List.getElem_of_mem hrecord
  rw [hnumbered age hage]
  exact Nat.pos_of_ne_zero fun hzero => sequenceAfter_ne_zero hfirst age (UInt32.toNat_inj.1 hzero)

/-- The information was true of the log, which has only grown since. -/
structure Info.Precedes (info : Info) (kept : List Record) : Prop where
  ordered : info.oldestSequence.toNat ≤ info.latestSequence.toNat
  latest_le : info.latestSequence.toNat ≤ latestOf kept
  oldest_le : ∀ record ∈ kept, info.oldestSequence.toNat ≤ record.sequence.toNat
  available_le : ∀ record ∈ kept,
    Sync.State.oldestAvailable info.latestSequence.toNat info.count ≤ record.sequence.toNat

theorem oldestAvailable_le (latest count : Nat) :
    Sync.State.oldestAvailable latest count ≤ latest + 1 := by
  unfold Sync.State.oldestAvailable
  split <;> omega

theorem Info.Precedes.grows {info : Info} {kept kept' : List Record} (h : info.Precedes kept)
    (hgrows : Grows kept kept') : info.Precedes kept' where
  ordered := h.ordered
  latest_le := Nat.le_trans h.latest_le hgrows.latest_le
  oldest_le record hrecord := by
    have hordered := h.ordered
    have hlatest := h.latest_le
    rcases hgrows.held record hrecord with hin | hnew
    · exact h.oldest_le record hin
    · omega
  available_le record hrecord := by
    have hlatest := h.latest_le
    have hoffset := oldestAvailable_le info.latestSequence.toNat info.count
    rcases hgrows.held record hrecord with hin | hnew
    · exact h.available_le record hin
    · omega

/-- What the log tells of itself is true of it. -/
theorem Recorded.precedes (h : Recorded machine journal)
    (hready : machine.ram.debug.storageReady = true) : machine.getInfo.Precedes journal.kept := by
  have hjournal := h.tracks.ready.symm.trans hready
  have hordered := h.tracks.ordered h.idle
  obtain ⟨hlatest, hcount⟩ := h.tracks.toNat_latest hjournal
  rcases Nat.eq_zero_or_pos journal.kept.length with hnone | hpos
  · have hnil := List.eq_nil_of_length_eq_zero hnone
    have hempty := getInfo_empty (hcount.trans hnone)
    rw [hnil]
    refine ⟨?_, ?_, nofun, nofun⟩
    · rw [hempty.1, hempty.2]
    · rw [hempty.2]
      rfl
  · have holdest := (h.tracks.getInfo hjournal hpos).1
    have hincreasing := h.increasing.sublist h.tracks.recent.sublist
    -- the first record has the least number
    have hleast : ∀ record ∈ journal.kept,
        machine.getInfo.oldestSequence.toNat ≤ record.sequence.toNat := by
      intro record hrecord
      obtain ⟨age, hage, rfl⟩ := List.getElem_of_mem hrecord
      rw [holdest]
      rcases Nat.eq_zero_or_pos age with rfl | hlater
      · exact Nat.le_refl _
      · exact Nat.le_of_lt (List.pairwise_iff_getElem.1 hincreasing 0 age hpos hage hlater)
    have hlast := hleast _ (List.getElem_mem (Nat.sub_lt hpos Nat.zero_lt_one))
    rw [← latestOf_of_last (Nat.sub_one_lt_of_lt hpos), ← hlatest] at hlast
    have hstraddles : ¬machine.straddles := fun hback => Nat.not_lt_of_le hlast hback.2
    have hpositive : 0 < machine.ram.count := Nat.lt_of_lt_of_eq hpos hcount.symm
    have hnumber := hordered.toNat_latest hpositive
    rw [if_neg hstraddles] at hnumber
    refine ⟨hlast, Nat.le_of_eq hlatest, hleast, fun record hrecord => ?_⟩
    have hrecord := hleast record hrecord
    have hsame : machine.getInfo.count = machine.ram.count := rfl
    rw [Sync.State.oldestAvailable, hsame, if_pos hpositive]
    omega

/-! ## Starting over -/

/-- A log on storage without a record. -/
theorem recorded_start {storage : List Slot} (hlength : storage.length = ramCapacity)
    (hnone : ∀ index < ramCapacity, isRecordValid (slotAt storage index) = false) :
    Recorded { records := storage } {} :=
  ⟨tracks_start hlength hnone, fun _ => rfl, List.Pairwise.nil, nofun⟩

/-- A log that is cleared. -/
theorem Recorded.clear (hready : machine.ram.debug.storageReady = true) :
    Recorded machine.clear { kept := [], ready := true } := by
  refine ⟨⟨⟨0, ?_, fun _ => ⟨rfl, rfl, rfl, rfl⟩⟩, hready, List.nil_suffix⟩, fun _ => rfl, ?_, ?_⟩
  · rw [Machine.clear, hready]
    exact holds_cleared
  · rw [Machine.clear, hready]
    exact List.Pairwise.nil
  · rw [Machine.clear, hready]
    exact nofun

/-- Before it is initialised, clearing it leaves its records. -/
theorem Recorded.clear_unready (h : Recorded machine journal)
    (hready : machine.ram.debug.storageReady = false) :
    Recorded machine.clear journal ∧ machine.clear.completed = machine.completed := by
  obtain ⟨tail, hholds, -⟩ := h.tracks.holds
  have hnot : journal.ready = false := h.tracks.ready.symm.trans hready
  have hkept : machine.clear.completed = machine.completed ∧
      machine.clear.records = machine.records := by
    rw [Machine.clear, hready]
    exact ⟨rfl, rfl⟩
  refine ⟨⟨⟨⟨tail, hkept.2 ▸ hholds, fun hjournal => nomatch hnot.symm.trans hjournal⟩,
    hready.trans hnot.symm, hkept.1 ▸ h.tracks.recent⟩, fun _ => rfl, hkept.1 ▸ h.increasing,
    hkept.1 ▸ h.bounded⟩, hkept.1⟩

end Log

end CanGui
