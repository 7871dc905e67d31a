import CanGui.Boot.Control
import CanGui.Common.Crc
/-!
# Boot control — records

Encoding a state into a record, decoding a record, and choosing between
the two redundant ones. What the rest of the development uses is
`decodeRecord_commit` (a committed record decodes to its state),
`decodeRecord_congr` (the state a record decodes to lies in its first
three program units) and `load_newer` (a committed successor wins).
-/

namespace CanGui

namespace BootControl

/-! ## Encoding -/

/-- A record is 64 bytes, whatever they hold. -/
@[ext]
structure Record where
  bytes : Bytes
  size : bytes.length = recordSize
  deriving DecidableEq

/-- Which of the two redundant records. -/
abbrev RecordIndex := Fin 2

/-- There is a first one. -/
scoped instance instNeZeroTwo : NeZero 2 := ⟨by decide⟩

/-- Bytes 0 to 55: everything the CRC covers. -/
def recordBody (state : ControlState) : Bytes :=
  List.flatten
    [ writeLe32 recordMagic, writeLe16 recordVersion, writeLe16 64
    , writeLe32 state.generation
    , [state.confirmedSlot.toByte, state.pendingSlot.toByte, state.attemptsRemaining, 0]
    , writeLe32 state.minimumSecurityCounter
    , writeLe32 state.confirmedSecurityCounter
    , writeLe32 state.pendingSecurityCounter
    , writeLe32 state.confirmedBuildVersion
    , writeLe32 state.pendingBuildVersion
    , writeLe32 0, List.replicate 16 0 ]

/-- The record of a state, its marker still to be written: all ones, as
erased flash reads. -/
def recordOf (state : ControlState) : Record where
  bytes := recordBody state ++ writeLe32 (calculateCrc32 (recordBody state) crcOffset) ++
    writeLe32 0xFFFFFFFF
  size := rfl

def prepareRecord (state : ControlState) : Except ControlResult Record :=
  if isStateValid state then .ok (recordOf state) else .error .invalidState

def markRecordCommitted (record : Record) : Record where
  bytes := record.bytes.take commitOffset ++ writeLe32 commitMarker
  size := by simp [record.size, recordSize, commitOffset]

/-! ## Decoding -/

/-- The checks a record has to pass before its fields are read. -/
def recordFormatOk (record : Record) : Bool :=
  readLe32 record.bytes = recordMagic &&
  readLe16 (record.bytes.drop 4) = recordVersion &&
  readLe16 (record.bytes.drop 6) = 64 &&
  record.bytes.at' 15 = 0 &&
  readLe32 (record.bytes.drop 36) = 0 &&
  readLe32 (record.bytes.drop commitOffset) = commitMarker &&
  (List.range 4).all (fun word => readLe32 (record.bytes.drop (40 + word * 4)) = 0) &&
  calculateCrc32 record.bytes crcOffset = readLe32 (record.bytes.drop crcOffset)

/-- The nine fields of a record. -/
def recordFields (bytes : Bytes) : Option ControlState := do
  let confirmedSlot ← BootSlot.ofByte (bytes.at' 12)
  let pendingSlot ← BootSlot.ofByte (bytes.at' 13)
  return {
    generation := readLe32 (bytes.drop 8)
    confirmedSlot
    pendingSlot
    attemptsRemaining := bytes.at' 14
    minimumSecurityCounter := readLe32 (bytes.drop 16)
    confirmedSecurityCounter := readLe32 (bytes.drop 20)
    pendingSecurityCounter := readLe32 (bytes.drop 24)
    confirmedBuildVersion := readLe32 (bytes.drop 28)
    pendingBuildVersion := readLe32 (bytes.drop 32) }

def decodeRecord (record : Record) : Option ControlState :=
  if recordFormatOk record then (recordFields record.bytes).filter isStateValid else none

/-! ## Choosing a record -/

def statesEqual (left right : ControlState) : Bool := left = right

def load (record0 record1 : Record) : Except ControlResult (ControlState × RecordIndex) :=
  match decodeRecord record0, decodeRecord record1 with
  | none, none => .error .noValidRecord
  | some state0, none => .ok (state0, 0)
  | none, some state1 => .ok (state1, 1)
  | some state0, some state1 =>
    let generationDelta := state1.generation - state0.generation
    if generationDelta = 0 then
      if statesEqual state0 state1 then .ok (state0, 0) else .error .recordConflict
    else if generationDelta = 0x80000000 then
      .error .recordConflict
    else if isGenerationNewer state1.generation state0.generation then
      .ok (state1, 1)
    else
      .ok (state0, 0)

/-! ## What a record decodes to -/

/-- **A record says one state.** The fields of a prepared record are the
state's, whatever stands in the last program unit. -/
theorem recordFields_recordBody (state : ControlState) (tail : Bytes) :
    recordFields (recordBody state ++ tail) = some state := by
  have hgen : readLe32 ((recordBody state ++ tail).drop 8) = state.generation :=
    readLe32_writeLe32 _ _
  have hmin : readLe32 ((recordBody state ++ tail).drop 16) = state.minimumSecurityCounter :=
    readLe32_writeLe32 _ _
  have hcs : readLe32 ((recordBody state ++ tail).drop 20) = state.confirmedSecurityCounter :=
    readLe32_writeLe32 _ _
  have hps : readLe32 ((recordBody state ++ tail).drop 24) = state.pendingSecurityCounter :=
    readLe32_writeLe32 _ _
  have hcb : readLe32 ((recordBody state ++ tail).drop 28) = state.confirmedBuildVersion :=
    readLe32_writeLe32 _ _
  have hpb : readLe32 ((recordBody state ++ tail).drop 32) = state.pendingBuildVersion :=
    readLe32_writeLe32 _ _
  have hc : (recordBody state ++ tail).at' 12 = state.confirmedSlot.toByte := rfl
  have hp : (recordBody state ++ tail).at' 13 = state.pendingSlot.toByte := rfl
  have ha : (recordBody state ++ tail).at' 14 = state.attemptsRemaining := rfl
  simp [recordFields, hgen, hmin, hcs, hps, hcb, hpb, hc, hp, ha]

/-- The committed record of a state. -/
def committedRecord (state : ControlState) : Record := markRecordCommitted (recordOf state)

theorem recordOf_bytes (state : ControlState) :
    (recordOf state).bytes = recordBody state ++
      writeLe32 (calculateCrc32 (recordBody state) crcOffset) ++ writeLe32 0xFFFFFFFF := rfl

theorem committedRecord_bytes (state : ControlState) :
    (committedRecord state).bytes = recordBody state ++
      writeLe32 (calculateCrc32 (recordBody state) crcOffset) ++ writeLe32 commitMarker := rfl

theorem recordFormatOk_committedRecord (state : ControlState) :
    recordFormatOk (committedRecord state) = true := by
  have hcrc : readLe32 ((committedRecord state).bytes.drop crcOffset) =
      calculateCrc32 (recordBody state) crcOffset := readLe32_writeLe32 _ _
  have hcover : calculateCrc32 (committedRecord state).bytes crcOffset =
      calculateCrc32 (recordBody state) crcOffset := calculateCrc32_congr rfl
  have hmark : readLe32 ((committedRecord state).bytes.drop commitOffset) = commitMarker :=
    readLe32_writeLe32 _ []
  have hmagic : readLe32 (committedRecord state).bytes = recordMagic := readLe32_writeLe32 _ _
  have hver : readLe16 ((committedRecord state).bytes.drop 4) = recordVersion :=
    readLe16_writeLe16 _ _
  have hsize : readLe16 ((committedRecord state).bytes.drop 6) = 64 := readLe16_writeLe16 _ _
  have hres : (committedRecord state).bytes.at' 15 = 0 := rfl
  have hflags : readLe32 ((committedRecord state).bytes.drop 36) = 0 := readLe32_writeLe32 0 _
  have hwords : ∀ word < 4,
      readLe32 ((committedRecord state).bytes.drop (40 + word * 4)) = 0 := by
    intro word hword
    interval_cases word <;> exact readLe32_writeLe32 0 _
  simp only [recordFormatOk, Bool.and_eq_true, decide_eq_true_eq, List.all_eq_true,
    List.mem_range]
  exact ⟨⟨⟨⟨⟨⟨⟨hmagic, hver⟩, hsize⟩, hres⟩, hflags⟩, hmark⟩, hwords⟩, hcover.trans hcrc.symm⟩

/-- **The committed record of a valid state decodes to it.** -/
theorem decodeRecord_committedRecord {state : ControlState} (h : isStateValid state = true) :
    decodeRecord (committedRecord state) = some state := by
  rw [decodeRecord, if_pos (recordFormatOk_committedRecord state), committedRecord_bytes,
    List.append_assoc, recordFields_recordBody]
  simp [h]

/-- A decoded state is valid. -/
theorem isStateValid_of_decodeRecord {record : Record} {state : ControlState}
    (h : decodeRecord record = some state) : isStateValid state = true := by
  unfold decodeRecord at h
  split at h
  · exact (Option.filter_eq_some_iff.1 h).2
  · cases h

/-! ## Records that agree on their body -/

theorem at'_eq_of_take_eq {data data' : Bytes} {n i : Nat} (h : data.take n = data'.take n)
    (hi : i < n) : data.at' i = data'.at' i := by
  have hget : (data.take n)[i]? = (data'.take n)[i]? := by rw [h]
  rw [List.getElem?_take_of_lt hi, List.getElem?_take_of_lt hi] at hget
  simp [Bytes.at', List.getD_eq_getElem?_getD, hget]

theorem at'_drop (data : Bytes) (k i : Nat) : Bytes.at' (data.drop k) i = data.at' (k + i) := by
  simp [Bytes.at', List.getD_eq_getElem?_getD]

theorem readLe32_eq_of_take_eq {data data' : Bytes} {n k : Nat} (h : data.take n = data'.take n)
    (hk : k + 4 ≤ n) : readLe32 (data.drop k) = readLe32 (data'.drop k) := by
  simp only [readLe32, at'_drop]
  rw [at'_eq_of_take_eq h (by omega), at'_eq_of_take_eq h (by omega),
    at'_eq_of_take_eq h (by omega), at'_eq_of_take_eq h (by omega)]

/-- The fields lie in the first three program units. -/
theorem recordFields_congr {bytes bytes' : Bytes} (h : bytes.take 48 = bytes'.take 48) :
    recordFields bytes = recordFields bytes' := by
  unfold recordFields
  rw [at'_eq_of_take_eq h (by omega : 12 < 48), at'_eq_of_take_eq h (by omega : 13 < 48),
    at'_eq_of_take_eq h (by omega : 14 < 48), readLe32_eq_of_take_eq h (by omega : 8 + 4 ≤ 48),
    readLe32_eq_of_take_eq h (by omega : 16 + 4 ≤ 48),
    readLe32_eq_of_take_eq h (by omega : 20 + 4 ≤ 48),
    readLe32_eq_of_take_eq h (by omega : 24 + 4 ≤ 48),
    readLe32_eq_of_take_eq h (by omega : 28 + 4 ≤ 48),
    readLe32_eq_of_take_eq h (by omega : 32 + 4 ≤ 48)]

/-- **Whatever the commit unit holds, a record whose body is a state's
decodes to that state or not at all.** -/
theorem decodeRecord_of_body {record : Record} {state : ControlState}
    (h : record.bytes.take 48 = (recordOf state).bytes.take 48) :
    decodeRecord record = none ∨ decodeRecord record = some state := by
  have hfields : recordFields record.bytes = some state := by
    rw [recordFields_congr h, recordOf_bytes, List.append_assoc, recordFields_recordBody]
  unfold decodeRecord
  rw [hfields]
  split
  · by_cases hv : isStateValid state = true
    · exact .inr (by simp [hv])
    · exact .inl (by simp [hv])
  · exact .inl rfl

/-- Without the commit marker nothing decodes. -/
theorem decodeRecord_of_not_committed {record : Record}
    (h : readLe32 (record.bytes.drop commitOffset) ≠ commitMarker) :
    decodeRecord record = none := by
  rw [decodeRecord, if_neg]
  intro hok
  simp only [recordFormatOk, Bool.and_eq_true, decide_eq_true_eq] at hok
  exact h hok.1.1.2

/-! ## Which record wins -/

theorem nextGeneration_sub (g : UInt32) :
    nextGeneration g - g = 1 ∨ nextGeneration g - g = 2 := by
  unfold nextGeneration
  split <;> grind

theorem nextGeneration_ne_zero (g : UInt32) : nextGeneration g ≠ 0 := by
  unfold nextGeneration
  split
  · decide
  · assumption

/-- The record an index names. -/
def recordAt (records : Record × Record) (i : RecordIndex) : Record :=
  if i = 0 then records.1 else records.2

/-- The record that is not selected, which the next state goes to. -/
def otherRecord (i : RecordIndex) : RecordIndex := if i = 0 then 1 else 0

@[simp] theorem otherRecord_otherRecord (i : RecordIndex) : otherRecord (otherRecord i) = i := by
  revert i
  decide

theorem eq_otherRecord_of_ne {i j : RecordIndex} (h : j ≠ i) : j = otherRecord i := by
  revert i j
  decide

def loadRecords (records : Record × Record) : Except ControlResult (ControlState × RecordIndex) :=
  load records.1 records.2

/-- The selected record decodes to the state loaded. -/
theorem decodeRecord_of_load {records : Record × Record} {state : ControlState} {i : RecordIndex}
    (h : loadRecords records = .ok (state, i)) :
    decodeRecord (recordAt records i) = some state := by
  unfold loadRecords load at h
  split at h
  · cases h
  · next h0 _ => cases h; exact h0
  · next h1 => cases h; exact h1
  · next h0 h1 =>
    dsimp only at h
    split at h
    · split at h
      · cases h; exact h0
      · cases h
    split at h
    · cases h
    split at h
    · cases h; exact h1
    · cases h; exact h0

/-- What Load returns is a function of what the two records decode to. -/
theorem loadRecords_congr {records records' : Record × Record}
    (h : ∀ i, decodeRecord (recordAt records i) = decodeRecord (recordAt records' i)) :
    loadRecords records = loadRecords records' := by
  have h0 : decodeRecord records.1 = decodeRecord records'.1 := h 0
  have h1 : decodeRecord records.2 = decodeRecord records'.2 := h 1
  simp only [loadRecords, load, h0, h1]

/-- A lone record is selected. -/
theorem load_of_single {records : Record × Record} {state : ControlState} {i : RecordIndex}
    (h : decodeRecord (recordAt records i) = some state)
    (hother : decodeRecord (recordAt records (otherRecord i)) = none) :
    loadRecords records = .ok (state, i) := by
  match i with
  | 0 =>
    have h0 : decodeRecord records.1 = some state := h
    have h1 : decodeRecord records.2 = none := hother
    simp only [loadRecords, load, h0, h1]
  | 1 =>
    have h1 : decodeRecord records.2 = some state := h
    have h0 : decodeRecord records.1 = none := hother
    simp only [loadRecords, load, h0, h1]

/-- A generation less than half a round on is newer, and neither equal
nor opposite. -/
theorem generation_later {old new : UInt32} (hpos : 0 < (new - old).toNat)
    (hhalf : (new - old).toNat < 2 ^ 31) :
    new - old ≠ 0 ∧ new - old ≠ 0x80000000 ∧ isGenerationNewer new old = true := by
  refine ⟨?_, ?_, ?_⟩
  · intro hzero
    rw [hzero, UInt32.toNat_zero] at hpos
    omega
  · intro hopp
    have hvalue : (0x80000000 : UInt32).toNat = 2 ^ 31 := rfl
    rw [hopp, hvalue] at hhalf
    omega
  · simp only [isGenerationNewer, decide_eq_true_eq, toInt32_pos_iff]
    exact ⟨hpos, hhalf⟩

/-- And seen from the later one, the earlier is not. -/
theorem generation_earlier {old new : UInt32} (hpos : 0 < (new - old).toNat)
    (hhalf : (new - old).toNat < 2 ^ 31) :
    old - new ≠ 0 ∧ old - new ≠ 0x80000000 ∧ isGenerationNewer old new = false := by
  have hnew := new.toNat_lt
  have hold := old.toNat_lt
  rw [UInt32.toNat_sub] at hpos hhalf
  have hback : 2 ^ 31 < (old - new).toNat := by
    rw [UInt32.toNat_sub]
    omega
  refine ⟨?_, ?_, ?_⟩
  · intro hzero
    rw [hzero, UInt32.toNat_zero] at hback
    omega
  · intro hopp
    have hvalue : (0x80000000 : UInt32).toNat = 2 ^ 31 := rfl
    rw [hopp, hvalue] at hback
    omega
  · simp only [isGenerationNewer, decide_eq_false_iff_not, toInt32_pos_iff]
    omega

/-- **The later record wins.** Of two records less than half a round
apart the later is selected, in either position. -/
theorem load_of_later {records : Record × Record} {old new : ControlState} {i : RecordIndex}
    (hold : decodeRecord (recordAt records i) = some old)
    (hnew : decodeRecord (recordAt records (otherRecord i)) = some new)
    (hpos : 0 < (new.generation - old.generation).toNat)
    (hhalf : (new.generation - old.generation).toNat < 2 ^ 31) :
    loadRecords records = .ok (new, otherRecord i) := by
  match i with
  | 0 =>
    have h0 : decodeRecord records.1 = some old := hold
    have h1 : decodeRecord records.2 = some new := hnew
    obtain ⟨hne, hopp, hnewer⟩ := generation_later hpos hhalf
    simp [loadRecords, load, h0, h1, hne, hopp, hnewer, otherRecord]
  | 1 =>
    have h0 : decodeRecord records.1 = some new := hnew
    have h1 : decodeRecord records.2 = some old := hold
    obtain ⟨hne, hopp, hnewer⟩ := generation_earlier hpos hhalf
    simp [loadRecords, load, h0, h1, hne, hopp, hnewer, otherRecord]

/-- So a successor wins over the state before it. -/
theorem load_of_next {records : Record × Record} {old new : ControlState} {i : RecordIndex}
    (hold : decodeRecord (recordAt records i) = some old)
    (hnew : decodeRecord (recordAt records (otherRecord i)) = some new)
    (hgen : new.generation = nextGeneration old.generation) :
    loadRecords records = .ok (new, otherRecord i) := by
  apply load_of_later hold hnew
  all_goals
    rw [hgen]
    rcases nextGeneration_sub old.generation with hs | hs <;> rw [hs] <;> decide

/-- Two records of one generation agree or conflict. -/
theorem load_of_equal {records : Record × Record} {state state' : ControlState} {i : RecordIndex}
    (h : decodeRecord (recordAt records i) = some state)
    (h' : decodeRecord (recordAt records (otherRecord i)) = some state')
    (hgen : state.generation = state'.generation) :
    loadRecords records = if state = state' then .ok (state, 0) else .error .recordConflict := by
  match i with
  | 0 =>
    have h0 : decodeRecord records.1 = some state := h
    have h1 : decodeRecord records.2 = some state' := h'
    simp [loadRecords, load, h0, h1, hgen, statesEqual]
  | 1 =>
    have h0 : decodeRecord records.1 = some state' := h'
    have h1 : decodeRecord records.2 = some state := h
    by_cases heq : state = state'
    · subst heq
      simp [loadRecords, load, h0, h1, statesEqual]
    · have hne : state' ≠ state := Ne.symm heq
      simp [loadRecords, load, h0, h1, hgen, statesEqual, heq, hne]

end BootControl

end CanGui
