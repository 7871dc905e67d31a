import CanGui.Log.Ring
import Mathlib.Tactic.Ring
/-!
# Event log — what a reset leaves

The journal is what the log is for: the last sixty-four records, each
kept until it is overwritten. Storage holds a journal from some slot on;
recovery finds it again wherever it lies, whatever its sequence numbers
are and whichever word store a reset came after.
-/

namespace CanGui

namespace Log

/-! ## Sequence numbers -/

/-- `k` numbers further on. -/
def sequenceAfter (sequence : UInt32) : (k : Nat) → UInt32
  | 0 => sequence
  | k + 1 => nextSequence (sequenceAfter sequence k)

theorem nextSequence_ne_zero (sequence : UInt32) : nextSequence sequence ≠ 0 := by
  unfold nextSequence
  split
  · decide
  · assumption

theorem toNat_nextSequence (sequence : UInt32) :
    (nextSequence sequence).toNat =
      if sequence.toNat + 1 = 2 ^ 32 then 1 else sequence.toNat + 1 := by
  have hlt := sequence.toNat_lt
  have hsum : (sequence + 1).toNat = (sequence.toNat + 1) % 2 ^ 32 := UInt32.toNat_add sequence 1
  unfold nextSequence
  by_cases hwrap : sequence + 1 = 0
  · have hzero : (sequence + 1).toNat = 0 := by rw [hwrap]; rfl
    rw [if_pos hwrap, if_pos (by omega)]
    rfl
  · have hnonzero : (sequence + 1).toNat ≠ 0 := fun h => hwrap (UInt32.toNat_inj.1 h)
    rw [if_neg hwrap, if_neg (by omega), hsum]
    omega

/-- Going back undoes going on. -/
theorem previousSequence_nextSequence {sequence : UInt32} (h : sequence ≠ 0) :
    previousSequence (nextSequence sequence) = sequence := by
  have hlt := sequence.toNat_lt
  have hpos : sequence.toNat ≠ 0 := fun hzero => h (UInt32.toNat_inj.1 hzero)
  have hnext := toNat_nextSequence sequence
  apply UInt32.toNat_inj.1
  unfold previousSequence
  by_cases hone : nextSequence sequence = 1
  · rw [if_pos hone]
    rw [hone] at hnext
    have hmax : (0xFFFFFFFF : UInt32).toNat = 2 ^ 32 - 1 := by decide
    have hunit : (1 : UInt32).toNat = 1 := by decide
    split at hnext <;> omega
  · rw [if_neg hone, UInt32.toNat_sub]
    have hunit : (1 : UInt32).toNat = 1 := by decide
    have hnotone : (nextSequence sequence).toNat ≠ 1 := fun hval => hone (UInt32.toNat_inj.1 hval)
    split at hnext <;> omega

/-- A few numbers on, a sequence number has grown by as many, or by one
more when zero was skipped. -/
theorem toNat_sequenceAfter {sequence : UInt32} (h : sequence ≠ 0) {k : Nat} (hk : k < 2 ^ 31) :
    (sequenceAfter sequence k).toNat =
      if sequence.toNat + k < 2 ^ 32 then sequence.toNat + k
      else sequence.toNat + k + 1 - 2 ^ 32 := by
  have hlt := sequence.toNat_lt
  have hpos : sequence.toNat ≠ 0 := fun hzero => h (UInt32.toNat_inj.1 hzero)
  induction k with
  | zero =>
    rw [if_pos (by omega)]
    rfl
  | succ k ih =>
    have ih := ih (by omega)
    rw [sequenceAfter, toNat_nextSequence, ih]
    split <;> split <;> split <;> omega

/-- **The later of two near numbers is the newer.** -/
theorem isSequenceNewer_after {sequence : UInt32} (h : sequence ≠ 0) {i j : Nat}
    (hi : i < 2 ^ 16) (hj : j < 2 ^ 16) :
    isSequenceNewer (sequenceAfter sequence i) (sequenceAfter sequence j) = decide (j < i) := by
  have hlt := sequence.toNat_lt
  have hpos : sequence.toNat ≠ 0 := fun hzero => h (UInt32.toNat_inj.1 hzero)
  have hvi := toNat_sequenceAfter h (Nat.lt_trans hi (by decide))
  have hvj := toNat_sequenceAfter h (Nat.lt_trans hj (by decide))
  rw [isSequenceNewer, decide_eq_decide, toInt32_pos_iff, UInt32.toNat_sub, hvi, hvj]
  split <;> split <;> omega

/-! ## The journal in storage -/

/-- The records the log keeps, the oldest first, and whether it takes
more. -/
structure Journal where
  kept : List Record := []
  ready : Bool := false
  deriving DecidableEq, Repr

/-- The number the next record gets. -/
def successor (kept : List Record) : UInt32 :=
  match kept.getLast? with
  | none => 1
  | some record => nextSequence record.sequence

/-- Room for one more. -/
def makeRoom (kept : List Record) : List Record :=
  if kept.length < ramCapacity then kept else kept.tail

/-- Storage holds the records from slot `tail` on, and no others. -/
structure Holds (records : List Slot) (kept : List Record) (tail : Nat) : Prop where
  length : records.length = ramCapacity
  fits : kept.length ≤ ramCapacity
  tail_lt : tail < ramCapacity
  held : ∀ age (h : age < kept.length),
    slotAt records ((tail + age) % ramCapacity) = kept[age].words
  valid : ∀ record ∈ kept, isRecordValid record.words = true
  free : ∀ age, kept.length ≤ age → age < ramCapacity →
    isRecordValid (slotAt records ((tail + age) % ramCapacity)) = false
  /-- The numbers are consecutive. -/
  numbered : ∃ first, first ≠ 0 ∧
    ∀ age (h : age < kept.length), kept[age].sequence = sequenceAfter first age

variable {records : List Slot} {kept : List Record} {tail age index : Nat} {slot : Slot}

/-- Every slot has an age. -/
def ageOf (tail index : Nat) : Nat := (index + ramCapacity - tail) % ramCapacity

theorem ageOf_lt : ageOf tail index < ramCapacity := Nat.mod_lt _ (by decide)

theorem slot_ageOf (htail : tail < ramCapacity) (hindex : index < ramCapacity) :
    (tail + ageOf tail index) % ramCapacity = index := by
  unfold ageOf ramCapacity at *
  omega

theorem ageOf_slot (htail : tail < ramCapacity) (hage : age < ramCapacity) :
    ageOf tail ((tail + age) % ramCapacity) = age := by
  unfold ageOf ramCapacity at *
  omega

/-- The valid slots are those of the journal. -/
theorem Holds.valid_iff (h : Holds records kept tail) (hindex : index < ramCapacity) :
    isRecordValid (slotAt records index) = true ↔ ageOf tail index < kept.length := by
  have hslot := slot_ageOf h.tail_lt hindex
  constructor
  · intro hvalid
    by_contra hout
    have hfree := h.free _ (Nat.le_of_not_lt hout) ageOf_lt
    rw [hslot, hvalid] at hfree
    cases hfree
  · intro hin
    have hheld := h.held _ hin
    rw [hslot] at hheld
    rw [hheld]
    exact h.valid _ (List.getElem_mem hin)

/-- The record at a valid slot. -/
theorem Holds.sequence_at (h : Holds records kept tail) (hindex : index < ramCapacity)
    (hin : ageOf tail index < kept.length) :
    (recordOf (slotAt records index)).sequence = kept[ageOf tail index].sequence := by
  have hheld := h.held _ hin
  rw [slot_ageOf h.tail_lt hindex] at hheld
  rw [hheld, recordOf_words]

/-- **Newer is younger**, among the records of a journal. -/
theorem Holds.newer_iff (h : Holds records kept tail) {i j : Nat} (hi : i < kept.length)
    (hj : j < kept.length) :
    isSequenceNewer kept[i].sequence kept[j].sequence = decide (j < i) := by
  obtain ⟨first, hfirst, hnumbered⟩ := h.numbered
  have hfits := h.fits
  rw [hnumbered i hi, hnumbered j hj]
  exact isSequenceNewer_after hfirst (Nat.lt_of_lt_of_le hi (Nat.le_trans hfits (by decide)))
    (Nat.lt_of_lt_of_le hj (Nat.le_trans hfits (by decide)))

/-! ## The first loop -/

/-- What the loop has found below an index. -/
structure Scanned (kept : List Record) (tail : Nat) (n : Nat) (scan : Scan) : Prop where
  none : scan.found = false → ∀ index < n, kept.length ≤ ageOf tail index
  newest : scan.found = true → ∃ h : ageOf tail scan.newestIndex < kept.length,
    scan.newestIndex < n ∧ scan.newestSequence = kept[ageOf tail scan.newestIndex].sequence ∧
      ∀ index < n, ageOf tail index < kept.length →
        ageOf tail index ≤ ageOf tail scan.newestIndex

theorem scanned (h : Holds records kept tail) :
    ∀ n ≤ ramCapacity, Scanned kept tail n (scan records n) := by
  intro n
  induction n with
  | zero => exact fun _ => ⟨fun _ index hindex => absurd hindex (Nat.not_lt_zero index), nofun⟩
  | succ n ih =>
    intro hn
    have hscan := ih (Nat.le_of_succ_le hn)
    have hvalid := h.valid_iff hn
    rw [scan, scanSlot]
    split
    · next hinvalid =>
      -- not a record: nothing changes but the count of such slots
      have hout : kept.length ≤ ageOf tail n := by
        by_contra hin
        rw [hvalid.2 (Nat.lt_of_not_le hin)] at hinvalid
        cases hinvalid
      have hkept : Scanned kept tail (n + 1) (scan records n) := by
        constructor
        · intro hfound index hindex
          rcases Nat.lt_succ_iff_lt_or_eq.1 hindex with hlt | rfl
          · exact hscan.none hfound index hlt
          · exact hout
        · intro hfound
          obtain ⟨hlt, hbelow, hsequence, hmax⟩ := hscan.newest hfound
          refine ⟨hlt, Nat.lt_succ_of_lt hbelow, hsequence, fun index hindex hin => ?_⟩
          rcases Nat.lt_succ_iff_lt_or_eq.1 hindex with hlt' | rfl
          · exact hmax index hlt' hin
          · exact absurd hin (Nat.not_lt_of_le hout)
      split
      · exact ⟨hkept.none, hkept.newest⟩
      · exact hkept
    · next hnotinvalid =>
      have hin := hvalid.1 (eq_true_of_ne_false hnotinvalid)
      have hsequence := h.sequence_at hn hin
      rw [hsequence]
      split
      · next hnewer =>
        refine ⟨nofun, fun _ => ⟨hin, Nat.lt_succ_self n, rfl, fun index hindex hin' => ?_⟩⟩
        rcases Nat.lt_succ_iff_lt_or_eq.1 hindex with hlt | rfl
        · rcases hnewer with hnotfound | hnewer
          · exact absurd hin' (Nat.not_lt_of_le (hscan.none hnotfound index hlt))
          · cases hfound : (scan records n).found with
            | false => exact absurd hin' (Nat.not_lt_of_le (hscan.none hfound index hlt))
            | true =>
              obtain ⟨hold, -, hseq, hmax⟩ := hscan.newest hfound
              rw [hseq, h.newer_iff hin hold] at hnewer
              exact Nat.le_of_lt (Nat.lt_of_le_of_lt (hmax index hlt hin') (of_decide_eq_true hnewer))
        · exact Nat.le_refl _
      · next hnotnewer =>
        obtain ⟨hfound, hnewer⟩ := not_or.1 hnotnewer
        have hfound : (scan records n).found = true := eq_true_of_ne_false hfound
        obtain ⟨hold, hbelow, hseq, hmax⟩ := hscan.newest hfound
        refine ⟨fun hnone => absurd (hnone.symm.trans hfound) nofun, fun _ =>
          ⟨hold, Nat.lt_succ_of_lt hbelow, hseq, fun index hindex hin' => ?_⟩⟩
        rcases Nat.lt_succ_iff_lt_or_eq.1 hindex with hlt | rfl
        · exact hmax index hlt hin'
        · rw [hseq, h.newer_iff hin hold] at hnewer
          exact Nat.le_of_not_lt fun hlt => hnewer (decide_eq_true hlt)

/-- **The scan finds the youngest record.** -/
theorem Holds.scan_newest (h : Holds records kept tail) (hpos : 0 < kept.length) :
    (scan records ramCapacity).found = true ∧
      (scan records ramCapacity).newestIndex = (tail + (kept.length - 1)) % ramCapacity ∧
      (scan records ramCapacity).newestSequence = kept[kept.length - 1].sequence := by
  have hscan := scanned h ramCapacity (Nat.le_refl _)
  have hlast : kept.length - 1 < ramCapacity := by have := h.fits; omega
  have hlastSlot := ageOf_slot h.tail_lt hlast
  have hslot : (tail + (kept.length - 1)) % ramCapacity < ramCapacity := Nat.mod_lt _ (by decide)
  cases hfound : (scan records ramCapacity).found with
  | false =>
    have hnone := hscan.none hfound _ hslot
    omega
  | true =>
    obtain ⟨hage, hbelow, hsequence, hmax⟩ := hscan.newest hfound
    have hle := hmax _ hslot (by omega)
    have hnewest : ageOf tail (scan records ramCapacity).newestIndex = kept.length - 1 := by omega
    refine ⟨rfl, ?_, ?_⟩
    · rw [← hnewest, slot_ageOf h.tail_lt hbelow]
    · rw [hsequence]
      simp only [hnewest]

theorem Holds.scan_none (h : Holds records [] tail) : (scan records ramCapacity).found = false := by
  have hscan := scanned h ramCapacity (Nat.le_refl _)
  cases hfound : (scan records ramCapacity).found with
  | false => rfl
  | true =>
    obtain ⟨hage, -⟩ := hscan.newest hfound
    exact absurd hage (Nat.not_lt_zero _)

/-! ## The second loop -/

/-- **Counting back from a record finds those before it**, and stops at
the oldest. -/
theorem Holds.countBack (h : Holds records kept tail) :
    ∀ age (hage : age < kept.length),
      countBack records (ramCapacity - (kept.length - 1 - age)) ((tail + age) % ramCapacity)
        kept[age].sequence = age + 1 := by
  have hfits := h.fits
  obtain ⟨first, hfirst, hnumbered⟩ := h.numbered
  intro age
  induction age with
  | zero =>
    intro hage
    have hfuel : ramCapacity - (kept.length - 1 - 0) = ramCapacity - kept.length + 1 := by omega
    have hheld := h.held 0 hage
    rw [hfuel, Log.countBack, if_pos]
    · -- the slot before the oldest is free, or the count is full
      have hstop : Log.countBack records (ramCapacity - kept.length)
          (((tail + 0) % ramCapacity + ramCapacity - 1) % ramCapacity)
          (previousSequence kept[0].sequence) = 0 := by
        rcases Nat.eq_or_lt_of_le hfits with hfull | hroom
        · rw [hfull, Nat.sub_self]
          rfl
        · obtain ⟨left, hleft⟩ : ∃ left, ramCapacity - kept.length = left + 1 :=
            ⟨ramCapacity - kept.length - 1, by omega⟩
          have hfree := h.free (ramCapacity - 1) (by omega) (by decide)
          have hslot : ((tail + 0) % ramCapacity + ramCapacity - 1) % ramCapacity =
              (tail + (ramCapacity - 1)) % ramCapacity := by
            unfold ramCapacity
            omega
          rw [hleft, Log.countBack, hslot, hfree, if_neg (by simp)]
      rw [hstop]
    · rw [hheld, recordOf_words]
      exact ⟨h.valid _ (List.getElem_mem hage), rfl⟩
  | succ age ih =>
    intro hage
    have hbefore : age < kept.length := Nat.lt_of_succ_lt hage
    have hfuel : ramCapacity - (kept.length - 1 - (age + 1)) =
        ramCapacity - (kept.length - 1 - age) + 1 := by omega
    have hslot : ((tail + (age + 1)) % ramCapacity + ramCapacity - 1) % ramCapacity =
        (tail + age) % ramCapacity := by
      unfold ramCapacity
      omega
    -- the slot before holds the number before, since zero is skipped both ways
    have hprevious : previousSequence kept[age + 1].sequence = kept[age].sequence := by
      rw [hnumbered _ hage, hnumbered _ hbefore, sequenceAfter]
      refine previousSequence_nextSequence ?_
      cases age with
      | zero => exact hfirst
      | succ age => exact nextSequence_ne_zero _
    have hheld := h.held _ hage
    rw [hfuel, Log.countBack, if_pos, hslot, hprevious, ih hbefore]
    rw [hheld, recordOf_words]
    exact ⟨h.valid _ (List.getElem_mem hage), rfl⟩

/-- The indices in memory are those of the journal in storage. -/
structure Aligned (ram : Ram) (kept : List Record) (tail : Nat) : Prop where
  tailIndex : ram.tailIndex = tail
  count : ram.count = kept.length
  headIndex : ram.headIndex = (tail + kept.length) % ramCapacity
  nextSequence : ram.nextSequence = successor kept

theorem successor_of_pos (hpos : 0 < kept.length) :
    successor kept = nextSequence kept[kept.length - 1].sequence := by
  have hlast : kept.getLast? = some kept[kept.length - 1] := by
    rw [List.getLast?_eq_getElem?, List.getElem?_eq_getElem]
  rw [successor, hlast]

theorem slotAt_cleared (index : Nat) : slotAt clearRetainedStorage index = emptySlot := by
  rw [slotAt, clearRetainedStorage, List.getD_eq_getElem?_getD, List.getElem?_replicate]
  split <;> rfl

theorem holds_cleared : Holds clearRetainedStorage [] 0 where
  length := List.length_replicate
  fits := Nat.zero_le _
  tail_lt := by decide
  held := nofun
  valid := nofun
  free age _ _ := by
    rw [slotAt_cleared]
    exact isRecordValid_of_last_zero rfl
  numbered := ⟨1, by decide, nofun⟩

/-- **Recovery finds the journal.** -/
theorem Holds.recover {machine : Machine} (h : Holds machine.records kept tail) (debug : Debug) :
    ∃ tail', Holds (Log.recover machine debug).records kept tail' ∧
      Aligned (Log.recover machine debug).ram kept tail' ∧
      (Log.recover machine debug).ram.debug.storageReady = debug.storageReady ∧
      (Log.recover machine debug).completed = machine.completed ∧
      (kept ≠ [] → (Log.recover machine debug).records = machine.records ∧ tail' = tail) := by
  rcases Nat.eq_zero_or_pos kept.length with hnone | hpos
  · obtain rfl := List.eq_nil_of_length_eq_zero hnone
    unfold Log.recover
    rw [if_pos h.scan_none]
    exact ⟨0, holds_cleared, ⟨rfl, rfl, rfl, rfl⟩, rfl, rfl, fun hne => absurd rfl hne⟩
  · obtain ⟨hfound, hindex, hsequence⟩ := h.scan_newest hpos
    have hcount := h.countBack (kept.length - 1) (by omega)
    rw [Nat.sub_self, Nat.sub_zero, ← hindex, ← hsequence] at hcount
    have hfits := h.fits
    have htail := h.tail_lt
    unfold Log.recover
    rw [if_neg (by simp [hfound])]
    dsimp only
    rw [hcount, hindex]
    have hcount' : kept.length - 1 + 1 = kept.length := Nat.sub_add_cancel hpos
    rw [hcount']
    have hhead : ((tail + (kept.length - 1)) % ramCapacity + 1) % ramCapacity =
        (tail + kept.length) % ramCapacity := by
      unfold ramCapacity
      omega
    rw [hhead]
    refine ⟨tail, h, ⟨?_, rfl, rfl, ?_⟩, rfl, rfl, fun _ => ⟨rfl, rfl⟩⟩
    · change ((tail + kept.length) % ramCapacity + ramCapacity - kept.length) % ramCapacity = tail
      unfold ramCapacity at *
      omega
    · rw [successor_of_pos hpos, ← hsequence]

/-! ## Storing a record -/

theorem slotAt_set (hlength : records.length = ramCapacity) (hindex : index < ramCapacity) (i : Nat) :
    slotAt (records.set index slot) i = if i = index then slot else slotAt records i := by
  rw [slotAt, slotAt, List.getD_eq_getElem?_getD, List.getD_eq_getElem?_getD, List.getElem?_set]
  by_cases hi : index = i
  · rw [if_pos hi, if_pos (hlength ▸ hindex), if_pos hi.symm]
    rfl
  · rw [if_neg hi, if_neg (Ne.symm hi)]

theorem sequenceAfter_succ (first : UInt32) (k : Nat) :
    sequenceAfter (nextSequence first) k = sequenceAfter first (k + 1) := by
  induction k with
  | zero => rfl
  | succ k ih => exact congrArg nextSequence ih

/-- Forgetting the oldest record, once its slot is no longer valid. -/
theorem Holds.tail_invalid (h : Holds records kept tail) (hfull : kept.length = ramCapacity)
    (hslot : isRecordValid slot = false) :
    Holds (records.set tail slot) kept.tail ((tail + 1) % ramCapacity) := by
  have htail := h.tail_lt
  have hlength := h.length
  constructor
  case length => exact List.length_set.trans hlength
  case fits =>
    rw [List.length_tail]
    exact Nat.le_trans (Nat.sub_le _ _) h.fits
  case tail_lt => exact Nat.mod_lt _ (by decide)
  case held =>
    intro age hage
    rw [List.length_tail] at hage
    have hheld := h.held (age + 1) (by omega)
    have hsame : ((tail + 1) % ramCapacity + age) % ramCapacity =
        (tail + (age + 1)) % ramCapacity := by
      unfold ramCapacity
      omega
    rw [hsame, slotAt_set hlength htail, if_neg, hheld, List.getElem_tail]
    unfold ramCapacity at *
    omega
  case valid => exact fun record hrecord => h.valid record (List.mem_of_mem_tail hrecord)
  case free =>
    intro age hout hage
    rw [List.length_tail, hfull] at hout
    have hsame : ((tail + 1) % ramCapacity + age) % ramCapacity = tail := by
      unfold ramCapacity at *
      omega
    rw [hsame, slotAt_set hlength htail, if_pos rfl]
    exact hslot
  case numbered =>
    obtain ⟨first, hfirst, hnumbered⟩ := h.numbered
    refine ⟨nextSequence first, nextSequence_ne_zero _, fun age hage => ?_⟩
    rw [List.length_tail] at hage
    rw [List.getElem_tail, hnumbered (age + 1) (by omega), sequenceAfter_succ]

/-- A slot behind the records stays free. -/
theorem Holds.free_invalid (h : Holds records kept tail) (hroom : kept.length < ramCapacity)
    (hslot : isRecordValid slot = false) :
    Holds (records.set ((tail + kept.length) % ramCapacity) slot) kept tail := by
  have hlength := h.length
  have htail := h.tail_lt
  have hhead : (tail + kept.length) % ramCapacity < ramCapacity := Nat.mod_lt _ (by decide)
  constructor
  case length => exact List.length_set.trans hlength
  case fits => exact h.fits
  case tail_lt => exact htail
  case held =>
    intro age hage
    rw [slotAt_set hlength hhead, if_neg, h.held age hage]
    unfold ramCapacity at *
    omega
  case valid => exact h.valid
  case free =>
    intro age hout hage
    rw [slotAt_set hlength hhead]
    split
    · exact hslot
    · exact h.free age hout hage
  case numbered => exact h.numbered

/-- **A record behind the others joins them.** -/
theorem Holds.append (h : Holds records kept tail) (hroom : kept.length < ramCapacity)
    {record : Record} (hvalid : isRecordValid record.words = true)
    (hsequence : record.sequence = successor kept) :
    Holds (records.set ((tail + kept.length) % ramCapacity) record.words) (kept ++ [record]) tail := by
  have hlength := h.length
  have htail := h.tail_lt
  have hhead : (tail + kept.length) % ramCapacity < ramCapacity := Nat.mod_lt _ (by decide)
  have happend : (kept ++ [record]).length = kept.length + 1 := List.length_append
  constructor
  case length => exact List.length_set.trans hlength
  case fits => rw [happend]; exact hroom
  case tail_lt => exact htail
  case held =>
    intro age hage
    rw [slotAt_set hlength hhead]
    rcases Nat.lt_succ_iff_lt_or_eq.1 (happend ▸ hage) with hlt | heq
    -- an older record lies in another slot, since there is room
    · rw [if_neg, h.held age hlt, List.getElem_append_left hlt]
      unfold ramCapacity at *
      omega
    · subst heq
      rw [if_pos rfl, List.getElem_concat_length rfl]
  case valid =>
    intro r hr
    rcases List.mem_append.1 hr with hr | hr
    · exact h.valid r hr
    · rw [List.mem_singleton.1 hr]
      exact hvalid
  case free =>
    intro age hout hage
    rw [happend] at hout
    rw [slotAt_set hlength hhead, if_neg, h.free age (by omega) hage]
    unfold ramCapacity at *
    omega
  case numbered =>
    obtain ⟨first, hfirst, hnumbered⟩ := h.numbered
    rcases Nat.eq_zero_or_pos kept.length with hnone | hpos
    · -- the first record of the journal
      obtain rfl := List.eq_nil_of_length_eq_zero hnone
      refine ⟨1, by decide, fun age hage => ?_⟩
      obtain rfl : age = 0 := by simpa using hage
      exact hsequence
    · refine ⟨first, hfirst, fun age hage => ?_⟩
      rcases Nat.lt_succ_iff_lt_or_eq.1 (happend ▸ hage) with hlt | heq
      · rw [List.getElem_append_left hlt, hnumbered age hlt]
      · subst heq
        -- its number follows that of the record before it
        obtain ⟨n, hn⟩ : ∃ n, kept.length = n + 1 := ⟨kept.length - 1, by omega⟩
        rw [List.getElem_concat_length rfl, hsequence, successor_of_pos hpos,
          hnumbered _ (by omega)]
        simp only [hn, Nat.add_sub_cancel]
        rfl

end Log

end CanGui
