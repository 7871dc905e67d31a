import CanGui.Log.Recovery
/-!
# Event log — runs with resets

What each push, each reset and each initialisation does to the journal,
and that the log follows it over every run: whichever word store a reset
comes after, initialisation finds the journal in storage.
-/

namespace CanGui

namespace Log

namespace Journal

/-- A push keeps one more record, at the cost of the oldest when the
journal is full. -/
def push (journal : Journal) (entry : Entry) (uptimeMs : UInt32) : Journal :=
  if entry.isInputValid && journal.ready then
    { journal with
      kept := makeRoom journal.kept ++ [entry.record uptimeMs (successor journal.kept)] }
  else journal

/-- A push that a reset ends: before its first word store it has done
nothing, then it has made room, and with the last it is complete. -/
def interruptedPush (journal : Journal) (entry : Entry) (uptimeMs : UInt32) (stores : Nat) :
    Journal where
  kept :=
    if entry.isInputValid && journal.ready then
      if stores = 0 then journal.kept
      else if stores < 9 then makeRoom journal.kept
      else makeRoom journal.kept ++ [entry.record uptimeMs (successor journal.kept)]
    else journal.kept
  ready := false

def step (journal : Journal) : Event → Journal
  | .push entry uptimeMs => journal.push { entry with rtcEpochS := 0 } uptimeMs
  | .pushWithRtcTime entry uptimeMs => journal.push entry uptimeMs
  | .interruptedPush entry uptimeMs stores => journal.interruptedPush entry uptimeMs stores
  | .reset => { journal with ready := false }
  | .init => { journal with ready := true }

end Journal

/-- The log follows the journal. -/
structure Tracks (machine : Machine) (journal : Journal) : Prop where
  holds : ∃ tail, Holds machine.records journal.kept tail ∧
    (journal.ready = true → Aligned machine.ram journal.kept tail)
  ready : machine.ram.debug.storageReady = journal.ready
  /-- What is kept was pushed to the end, and last. -/
  recent : journal.kept <:+ machine.completed

variable {machine : Machine} {journal : Journal} {kept : List Record} {tail : Nat}
  {entry : Entry} {record : Record} {uptimeMs : UInt32} {stores : Nat}

/-! ## Storing at the head -/

theorem set_slotAt {records : List Slot} {index : Nat} :
    records.set index (slotAt records index) = records := by
  rcases Nat.lt_or_ge index records.length with hin | hout
  · rw [slotAt, List.getD_eq_getElem?_getD, List.getElem?_eq_getElem hin, Option.getD_some,
      List.set_getElem_self]
  · rw [List.set_eq_of_length_le hout]

/-- The head of a full journal is its oldest slot. -/
theorem head_full (htail : tail < ramCapacity) (hfull : kept.length = ramCapacity) :
    (tail + kept.length) % ramCapacity = tail := by
  rw [hfull]
  unfold ramCapacity at *
  omega

theorem length_makeRoom (hfits : kept.length ≤ ramCapacity) :
    (makeRoom kept).length < ramCapacity := by
  unfold makeRoom
  split
  · assumption
  · rw [List.length_tail]
    unfold ramCapacity at *
    omega

theorem makeRoom_suffix (kept : List Record) : makeRoom kept <:+ kept := by
  unfold makeRoom
  split
  · exact List.suffix_rfl
  · exact List.tail_suffix kept

theorem makeRoom_eq_drop (hfits : kept.length ≤ ramCapacity) :
    makeRoom kept = kept.drop (kept.length + 1 - ramCapacity) := by
  unfold makeRoom
  split
  · next hroom => rw [Nat.sub_eq_zero_of_le hroom, List.drop_zero]
  · next hfull =>
    have hone : kept.length + 1 - ramCapacity = 1 := by omega
    rw [hone, List.drop_one]

/-- Making room does not change the number of the next record. -/
theorem successor_makeRoom (kept : List Record) : successor (makeRoom kept) = successor kept := by
  unfold makeRoom
  split
  · rfl
  · next hfull =>
    rcases kept with _ | ⟨first, _ | ⟨second, rest⟩⟩
    · rfl
    · exact absurd (show 1 < ramCapacity by decide) hfull
    · rw [successor, successor, List.tail_cons, List.getLast?_cons_cons]

/-- **A slot being stored makes room**: what the journal keeps then is
held beside a slot that is not valid. -/
theorem Holds.makeRoom {records : List Slot} (h : Holds records kept tail) {slot : Slot}
    (hslot : isRecordValid slot = false) :
    ∃ tail', Holds (records.set ((tail + kept.length) % ramCapacity) slot) (makeRoom kept) tail' ∧
      (tail' + (Log.makeRoom kept).length) % ramCapacity = (tail + kept.length) % ramCapacity ∧
      (kept.length < ramCapacity → tail' = tail) ∧
      (kept.length = ramCapacity → tail' = (tail + 1) % ramCapacity) := by
  have hfits := h.fits
  have htail := h.tail_lt
  unfold Log.makeRoom
  split
  · next hroom => exact ⟨tail, h.free_invalid hroom hslot, rfl, fun _ => rfl, fun hfull => by omega⟩
  · next hfull =>
    have hfull : kept.length = ramCapacity := Nat.le_antisymm hfits (Nat.le_of_not_lt hfull)
    rw [head_full htail hfull]
    refine ⟨_, h.tail_invalid hfull hslot, ?_, fun hroom => by omega, fun _ => rfl⟩
    rw [List.length_tail, hfull]
    unfold ramCapacity at *
    omega

/-- **The record stored, the journal keeps it.** -/
theorem Holds.push {records : List Slot} (h : Holds records kept tail)
    (hvalid : isRecordValid record.words = true) (hsequence : record.sequence = successor kept) :
    ∃ tail', Holds (records.set ((tail + kept.length) % ramCapacity) record.words)
        (Log.makeRoom kept ++ [record]) tail' ∧
      (tail' + (Log.makeRoom kept).length) % ramCapacity = (tail + kept.length) % ramCapacity ∧
      (kept.length < ramCapacity → tail' = tail) ∧
      (kept.length = ramCapacity → tail' = (tail + 1) % ramCapacity) := by
  -- as if the slot were emptied first
  have hempty : isRecordValid emptySlot = false := isRecordValid_of_last_zero rfl
  obtain ⟨tail', hroom, hhead, hsame, hmoved⟩ := h.makeRoom hempty
  have hstored := hroom.append (length_makeRoom h.fits) hvalid
    (hsequence.trans (successor_makeRoom kept).symm)
  rw [hhead, List.set_set] at hstored
  exact ⟨tail', hstored, hhead, hsame, hmoved⟩

theorem record_valid (entry : Entry) (uptimeMs sequence : UInt32) :
    isRecordValid (entry.record uptimeMs sequence).words = true :=
  isRecordValid_sealed rfl

@[simp] theorem record_sequence (entry : Entry) (uptimeMs sequence : UInt32) :
    (entry.record uptimeMs sequence).sequence = sequence := rfl

theorem successor_append (kept : List Record) (record : Record) :
    successor (kept ++ [record]) = nextSequence record.sequence := by
  rw [successor, List.getLast?_append_of_ne_nil _ (by simp)]
  rfl

/-! ## Each event -/

theorem Tracks.reject (h : Tracks machine journal) : Tracks machine.reject journal where
  holds := by
    obtain ⟨tail, hholds, haligned⟩ := h.holds
    exact ⟨tail, hholds, fun hready => ⟨(haligned hready).tailIndex, (haligned hready).count,
      (haligned hready).headIndex, (haligned hready).nextSequence⟩⟩
  ready := h.ready
  recent := h.recent

/-- **A push that is not interrupted.** -/
theorem Tracks.push (h : Tracks machine journal) (entry : Entry) (uptimeMs : UInt32) :
    Tracks (machine.pushWithRtcTime entry uptimeMs).2 (journal.push entry uptimeMs) := by
  have hready := h.ready
  unfold Machine.pushWithRtcTime Journal.push
  split
  · next hinvalid =>
    rw [hinvalid, Bool.false_and, if_neg Bool.false_ne_true]
    exact h.reject
  · next hvalid =>
    rw [eq_true_of_ne_false hvalid, Bool.true_and]
    split
    · next hnotReady =>
      rw [← hready, hnotReady, if_neg Bool.false_ne_true]
      exact h.reject
    · next hstorage =>
      have hstorage : machine.ram.debug.storageReady = true := eq_true_of_ne_false hstorage
      rw [← hready, hstorage, if_pos rfl]
      obtain ⟨tail, hholds, haligned⟩ := h.holds
      have haligned := haligned (hready.symm.trans hstorage)
      rw [haligned.nextSequence]
      generalize hrecord : entry.record uptimeMs (successor journal.kept) = record
      have hvalid : isRecordValid record.words = true := hrecord ▸ record_valid ..
      have hsequence : record.sequence = successor journal.kept := hrecord ▸ record_sequence ..
      -- the oldest record makes room when the ring is full, and only then the tail moves
      obtain ⟨tail', hstored, hhead, hsame, hmoved⟩ := hholds.push hvalid hsequence
      have hfits := hholds.fits
      have htail := hholds.tail_lt
      have hlength : (Log.makeRoom journal.kept ++ [record]).length =
          (Log.makeRoom journal.kept).length + 1 := List.length_append
      have hcommitted : ((machine.commit record 9).advance record).records =
          machine.records.set ((tail + journal.kept.length) % ramCapacity) record.words := by
        change machine.records.set machine.ram.headIndex _ = _
        rw [commitRecord_all (Nat.le_refl 9), haligned.headIndex]
      constructor
      case holds =>
        refine ⟨tail', hcommitted ▸ hstored, fun _ => ⟨?_, ?_, ?_, ?_⟩⟩
        · change (if decide (ramCapacity ≤ machine.ram.count) = true then
            (machine.ram.tailIndex + 1) % ramCapacity else machine.ram.tailIndex) = tail'
          rw [haligned.count, haligned.tailIndex]
          rcases Nat.lt_or_eq_of_le hfits with hroom | hfull
          · rw [hsame hroom, if_neg (by simpa using hroom)]
          · rw [hmoved hfull, if_pos (by simp [hfull])]
        · change (if decide (ramCapacity ≤ machine.ram.count) = true then machine.ram.count
            else machine.ram.count + 1) = (Log.makeRoom journal.kept ++ [record]).length
          rw [haligned.count, hlength]
          rcases Nat.lt_or_eq_of_le hfits with hroom | hfull
          · rw [if_neg (by simpa using hroom), Log.makeRoom, if_pos hroom]
          · rw [if_pos (by simp [hfull]), Log.makeRoom, if_neg (by omega), List.length_tail]
            unfold ramCapacity at *
            omega
        · change (machine.ram.headIndex + 1) % ramCapacity = _
          rw [haligned.headIndex, ← hhead, hlength]
          unfold ramCapacity
          omega
        · change nextSequence machine.ram.nextSequence = _
          rw [haligned.nextSequence, successor_append, hsequence]
      case ready => exact hstorage
      case recent =>
        obtain ⟨earlier, hearlier⟩ := (makeRoom_suffix journal.kept).trans h.recent
        refine ⟨earlier, ?_⟩
        change earlier ++ (Log.makeRoom journal.kept ++ [record]) = machine.completed ++ [record]
        rw [← List.append_assoc, hearlier]

theorem Tracks.reset (h : Tracks machine journal) :
    Tracks machine.reset { journal with ready := false } where
  holds := by
    obtain ⟨tail, hholds, -⟩ := h.holds
    exact ⟨tail, hholds, nofun⟩
  ready := rfl
  recent := h.recent

/-- **A push that a reset ends**, after any of its word stores. -/
theorem Tracks.interruptedPush (h : Tracks machine journal) (entry : Entry) (uptimeMs : UInt32)
    (stores : Nat) :
    Tracks (machine.interruptedPush entry uptimeMs stores)
      (journal.interruptedPush entry uptimeMs stores) := by
  have haccepts : machine.accepts entry = (entry.isInputValid && journal.ready) := by
    rw [Machine.accepts, h.ready]
  unfold Machine.interruptedPush Journal.interruptedPush
  rw [haccepts]
  split
  · next haccepted =>
    have hready := (Bool.and_eq_true_iff.1 haccepted).2
    obtain ⟨tail, hholds, haligned⟩ := h.holds
    have haligned := haligned hready
    rw [haligned.nextSequence]
    generalize hrecord : entry.record uptimeMs (successor journal.kept) = record
    have hvalid : isRecordValid record.words = true := hrecord ▸ record_valid ..
    have hsequence : record.sequence = successor journal.kept := hrecord ▸ record_sequence ..
    have hcommitted : (machine.commit record stores).reset.records =
        machine.records.set ((tail + journal.kept.length) % ramCapacity)
          (commitRecord (slotAt machine.records ((tail + journal.kept.length) % ramCapacity)) record
            stores) := by
      rw [← haligned.headIndex]
      rfl
    rcases Nat.eq_zero_or_pos stores with rfl | hsome
    · -- nothing was stored
      rw [if_pos rfl]
      rw [commitRecord_zero, set_slotAt] at hcommitted
      exact ⟨⟨tail, hcommitted ▸ hholds, nofun⟩, rfl, h.recent⟩
    · rw [if_neg (Nat.ne_of_gt hsome)]
      split
      -- torn: the slot was made free for it, so the oldest record may be gone
      · next hpart =>
        obtain ⟨tail', hroom, -⟩ := hholds.makeRoom (commitRecord_torn hsome hpart)
        have hcompleted : (machine.commit record stores).reset.completed = machine.completed :=
          if_pos hpart
        exact ⟨⟨tail', hcommitted ▸ hroom, nofun⟩, rfl,
          hcompleted ▸ (makeRoom_suffix journal.kept).trans h.recent⟩
      -- the marker was stored last, so the record is there although the push was not over
      · next hall =>
        rw [commitRecord_all (Nat.le_of_not_lt hall)] at hcommitted
        obtain ⟨tail', hstored, -⟩ := hholds.push hvalid hsequence
        have hcompleted : (machine.commit record stores).reset.completed =
            machine.completed ++ [record] := if_neg hall
        obtain ⟨earlier, hearlier⟩ := (makeRoom_suffix journal.kept).trans h.recent
        refine ⟨⟨tail', hcommitted ▸ hstored, nofun⟩, rfl, earlier, ?_⟩
        rw [hcompleted, ← List.append_assoc, hearlier]
  · exact h.reset

/-- **Initialisation restores the journal.** -/
theorem Tracks.init (h : Tracks machine journal) :
    Tracks (machine.init true) { journal with ready := true } := by
  obtain ⟨tail, hholds, -⟩ := h.holds
  obtain ⟨tail', hfound, haligned, hready, hcompleted, -⟩ :=
    hholds.recover { storageReady := true }
  exact ⟨⟨tail', hfound, fun _ => haligned⟩, hready, hcompleted ▸ h.recent⟩

theorem tracks_step (h : Tracks machine journal) (event : Event) :
    Tracks (step machine event) (journal.step event) := by
  cases event with
  | push entry uptimeMs => exact h.push _ _
  | pushWithRtcTime entry uptimeMs => exact h.push _ _
  | interruptedPush entry uptimeMs stores => exact h.interruptedPush _ _ _
  | reset => exact h.reset
  | init => exact h.init

theorem tracks_run (h : Tracks machine journal) (events : List Event) :
    Tracks (run step machine events) (run Journal.step journal events) := by
  induction events generalizing machine journal with
  | nil => exact h
  | cons event events ih => exact ih (tracks_step h event)

/-! ## What initialisation gives back -/

/-- The log holds the journal and says so. -/
structure Restored (machine : Machine) (kept : List Record) : Prop where
  readOldest : ∀ age, machine.readOldest age = kept[age]?
  readBySequence : ∀ sequence, sequence ≠ 0 →
    machine.readBySequence sequence = kept.find? (·.sequence == sequence)
  count : machine.ram.count = kept.length ∧ kept.length ≤ ramCapacity
  head : machine.ram.headIndex = (machine.ram.tailIndex + machine.ram.count) % ramCapacity
  numbered : kept.IsChain fun earlier later => later.sequence = Log.nextSequence earlier.sequence
  nonzero : ∀ record ∈ kept, record.sequence ≠ 0
  nextSequence : machine.ram.nextSequence = successor kept

theorem Holds.readable (h : Holds machine.records kept tail) (haligned : Aligned machine.ram kept tail) :
    machine.readable = kept := by
  rw [Machine.readable, haligned.count]
  apply List.ext_getElem
  · rw [List.length_map, List.length_range]
  · intro age hage hkept
    rw [List.getElem_map, List.getElem_range, Machine.ofAge, haligned.tailIndex, h.held age hkept,
      recordOf_words]

theorem sequenceAfter_ne_zero {first : UInt32} (hfirst : first ≠ 0) (k : Nat) :
    sequenceAfter first k ≠ 0 := by
  cases k with
  | zero => exact hfirst
  | succ k => exact nextSequence_ne_zero _

theorem Tracks.restored (h : Tracks machine journal) (hready : journal.ready = true) :
    Restored machine journal.kept := by
  obtain ⟨tail, hholds, haligned⟩ := h.holds
  have haligned := haligned hready
  have hreadable := hholds.readable haligned
  obtain ⟨first, hfirst, hnumbered⟩ := hholds.numbered
  constructor
  case readOldest =>
    intro age
    rw [Machine.readOldest, haligned.count]
    split
    · next hout => exact (List.getElem?_eq_none hout).symm
    · next hin =>
      have hin : age < journal.kept.length := Nat.lt_of_not_le hin
      rw [List.getElem?_eq_getElem hin, Machine.ofAge, haligned.tailIndex, hholds.held age hin,
        recordOf_words]
  case readBySequence =>
    intro sequence hsequence
    rw [Machine.readBySequence, if_neg hsequence, hreadable]
  case count => exact ⟨haligned.count, hholds.fits⟩
  case head => rw [haligned.headIndex, haligned.tailIndex, haligned.count]
  case numbered =>
    refine List.isChain_iff_getElem.2 fun age hage => ?_
    rw [hnumbered (age + 1) hage, hnumbered age (Nat.lt_of_succ_lt hage), sequenceAfter]
  case nonzero =>
    intro record hrecord
    obtain ⟨age, hage, rfl⟩ := List.getElem_of_mem hrecord
    rw [hnumbered age hage]
    exact sequenceAfter_ne_zero hfirst age
  case nextSequence => exact haligned.nextSequence

/-- The same log, but for the count of slots that are marked and not
valid. -/
def Machine.withInvalid (machine : Machine) (invalidCount : Nat) : Machine :=
  { machine with
    ram := { machine.ram with
      debug := { machine.ram.debug with invalidRetainedCount := invalidCount } } }

/-- **A second initialisation changes nothing** but, when no record was
found and storage was cleared, the count of marked slots that are not
valid. -/
theorem Tracks.init_init (h : Tracks machine journal) :
    (machine.init true).init true =
        (machine.init true).withInvalid (scan (machine.init true).records ramCapacity).invalidCount ∧
      (journal.kept ≠ [] → (machine.init true).init true = machine.init true) := by
  obtain ⟨tail, hholds, -⟩ := h.holds
  rcases Nat.eq_zero_or_pos journal.kept.length with hnone | hpos
  · have hnone := List.eq_nil_of_length_eq_zero hnone
    rw [hnone] at hholds
    have hfound := hholds.scan_none
    have hcleared := holds_cleared.scan_none
    refine ⟨?_, fun hne => absurd hnone hne⟩
    have hfirst : (machine.init true).records = clearRetainedStorage := by
      rw [Machine.init, if_pos rfl, recover, if_pos hfound]
    generalize hscan : scan (machine.init true).records ramCapacity = scanned
    rw [hfirst] at hscan
    rw [Machine.init, if_pos rfl, recover, hfirst, hscan, if_pos (hscan ▸ hcleared)]
    rw [Machine.init, if_pos rfl, recover, if_pos hfound]
    rfl
  · obtain ⟨hfound, -⟩ := hholds.scan_newest hpos
    have hfirst : (machine.init true).records = machine.records := by
      rw [Machine.init, if_pos rfl, recover, if_neg (by simp [hfound])]
    have hsame : (machine.init true).init true = machine.init true := by
      rw [Machine.init, if_pos rfl, recover, hfirst, if_neg (by simp [hfound])]
      rw [Machine.init, if_pos rfl, recover, if_neg (by simp [hfound])]
    have hcount : (machine.init true).withInvalid (scan machine.records ramCapacity).invalidCount =
        machine.init true := by
      rw [Machine.init, if_pos rfl, recover, if_neg (by simp [hfound])]
      rfl
    rw [hfirst, hcount]
    exact ⟨hsame, fun _ => hsame⟩

theorem tracks_start {storage : List Slot} (hlength : storage.length = ramCapacity)
    (hnone : ∀ index < ramCapacity, isRecordValid (slotAt storage index) = false) :
    Tracks { records := storage } {} where
  holds := by
    refine ⟨0, ⟨hlength, Nat.zero_le _, by decide, nofun, nofun, fun age _ hage => ?_,
      ⟨1, by decide, nofun⟩⟩, nofun⟩
    rw [Nat.zero_add, Nat.mod_eq_of_lt hage]
    exact hnone age hage
  ready := rfl
  recent := List.suffix_rfl

/-- **What is pushed to the end survives.** From storage with no valid
record, over every run of pushes, resets and initialisations, with a reset
after any word store: initialisation gives back the journal, which keeps
the records last pushed to the end, and a second one changes nothing but
the count of marked slots that are not valid. -/
theorem recovery {storage : List Slot} (hlength : storage.length = ramCapacity)
    (hnone : ∀ index < ramCapacity, isRecordValid (slotAt storage index) = false)
    (events : List Event) :
    let machine := (run step { records := storage } events).init true
    let kept := (run Journal.step {} events).kept
    Restored machine kept ∧ kept <:+ machine.completed ∧
      machine.init true = machine.withInvalid (scan machine.records ramCapacity).invalidCount ∧
      (kept ≠ [] → machine.init true = machine) := by
  have htracks := tracks_run (tracks_start hlength hnone) events
  obtain ⟨hagain, hsame⟩ := htracks.init_init
  exact ⟨htracks.init.restored rfl, htracks.init.recent, hagain, hsame⟩

/-! ## One run -/

/-- Storage in which one slot bears the marker and nothing else. -/
def markedStorage : List Slot :=
  (List.replicate ramCapacity emptySlot).set 0 (emptySlot.setIfInBounds 7 0xA55A0000)

theorem markedStorage_invalid : ∀ index < ramCapacity,
    isRecordValid (slotAt markedStorage index) = false := by
  decide +kernel

/-- A power loss at the sixth word store of the second push: the first
record is there, and its number goes on from it. -/
theorem recovery_tornPush :
    let entry : Entry := ⟨1, 0, 0x0100, 0, 7, 9⟩
    let events := [Event.init, .push entry 10, .interruptedPush entry 20 6]
    let machine := (run step { records := markedStorage } events).init true
    let kept := (run Journal.step {} events).kept
    kept = [entry.record 10 1] ∧
      Restored machine kept ∧ kept <:+ machine.completed ∧
      machine.init true = machine.withInvalid (scan machine.records ramCapacity).invalidCount ∧
      (kept ≠ [] → machine.init true = machine) :=
  ⟨by decide +kernel, recovery List.length_set markedStorage_invalid _⟩

/-- **The second initialisation can change a counter.** Where no slot is
valid the first one counts those that bear the marker and clears them, so
that the second counts none. -/
theorem secondInit_recounts :
    (∀ index < ramCapacity, isRecordValid (slotAt markedStorage index) = false) ∧
      let machine := ({ records := markedStorage } : Machine).init true
      machine.ram.debug.invalidRetainedCount = 1 ∧
        (machine.init true).ram.debug.invalidRetainedCount = 0 ∧ machine.init true ≠ machine := by
  refine ⟨markedStorage_invalid, ?_⟩
  decide +kernel

end Log

end CanGui
