import CanGui.Boot.Flash
/-!
# Boot flash — power loss

The callbacks of `persistControl` over a flash that misbehaves: each
operation takes the next fault of a plan, which decides what the callback
answers, whether the operation did its work, what it leaves behind if it
did not, and whether power is lost in it. Programming clears bits; a torn
unit may hold anything; an interrupted erase leaves a record that is
unchanged or does not decode. After every such plan the two records load
as the old state or the new one.
-/

namespace CanGui

namespace BootFlash

open BootControl

/-! ## A faulty flash -/

/-- Flash contents, by address. -/
abbrev Memory := Nat → UInt8

def readRange (memory : Memory) (address length : Nat) : Bytes :=
  (List.range length).map fun k => memory (address + k)

/-- What an interrupted erase leaves of a sector: some bytes, the record
at their start not decoding. -/
structure TornSector where
  contents : Memory
  undecodable : decodeRecord ⟨readRange contents 0 recordSize, by simp [readRange]⟩ = none

/-- What the next operation on the flash does. -/
structure Fault where
  /-- The callback's answer. -/
  answer : Bool
  /-- Whether the operation did its work. -/
  completes : Bool
  /-- Whether power is lost in it. -/
  powerCut : Bool
  /-- What a program that did not complete leaves in its unit. -/
  tornUnit : Memory
  /-- What an erase that did not complete leaves; `none` is the sector as
  it was. -/
  tornSector : Option TornSector

/-- Nothing goes wrong. -/
def Fault.benign : Fault := ⟨true, true, false, fun _ => 0, none⟩

structure FlashWorld where
  memory : Memory
  faults : List Fault
  powered : Bool

namespace FlashWorld

def fault (w : FlashWorld) : Fault := w.faults.headD Fault.benign

/-- The world after an operation that leaves `memory`. -/
def next (w : FlashWorld) (memory : Memory) : FlashWorld :=
  ⟨memory, w.faults.tail, !w.fault.powerCut⟩

/-- What an erase of the sector at `address` leaves. -/
def erased (w : FlashWorld) (address : Nat) : Memory := fun a =>
  if address ≤ a ∧ a < address + flashSectorSize then
    if w.fault.completes then 0xFF
    else match w.fault.tornSector with
      | none => w.memory a
      | some torn => torn.contents (a - address)
  else
    w.memory a

/-- What programming a unit leaves. -/
def programmed (w : FlashWorld) (address : Nat) (data : Bytes) : Memory := fun a =>
  if address ≤ a ∧ a < address + programUnitSize then
    if w.fault.completes then w.memory a &&& data.at' (a - address)
    else w.fault.tornUnit (a - address)
  else
    w.memory a

end FlashWorld

/-- The callbacks over a faulty flash. Without power none of them answers
and none of them does anything. -/
def faultyBackend : FlashBackend FlashWorld where
  unlock w := if w.powered then (w.fault.answer, w.next w.memory) else (false, w)
  lock w := if w.powered then (w.fault.answer, w.next w.memory) else (false, w)
  eraseSector w address :=
    if w.powered then (w.fault.answer, w.next (w.erased address)) else (false, w)
  programUnit w address data :=
    if w.powered then (w.fault.answer, w.next (w.programmed address data)) else (false, w)
  read w address length :=
    if w.powered then
      (if w.fault.answer then some (readRange w.memory address length) else none, w.next w.memory)
    else
      (none, w)

/-- The record stored at an index. -/
def storedRecord (memory : Memory) (i : RecordIndex) : Record :=
  ⟨readRange memory (recordAddress i) recordSize, by simp [readRange]⟩

def storedRecords (memory : Memory) : Record × Record :=
  (storedRecord memory 0, storedRecord memory 1)

/-- `Boot_Control_Load` of what the flash holds. -/
def loadMemory (memory : Memory) : Except ControlResult (ControlState × RecordIndex) :=
  loadRecords (storedRecords memory)

@[simp] theorem recordAt_storedRecords (memory : Memory) (i : RecordIndex) :
    recordAt (storedRecords memory) i = storedRecord memory i := by
  match i with
  | 0 => rfl
  | 1 => rfl

/-! ## Reading ranges -/

@[simp] theorem length_readRange (m : Memory) (a n : Nat) : (readRange m a n).length = n := by
  simp [readRange]

theorem readRange_congr {m m' : Memory} {a n : Nat} (h : ∀ k < n, m (a + k) = m' (a + k)) :
    readRange m a n = readRange m' a n := by
  refine List.map_congr_left fun k hk => h k (List.mem_range.1 hk)

theorem readRange_add (m : Memory) (a n k : Nat) :
    readRange m a (n + k) = readRange m a n ++ readRange m (a + n) k := by
  simp [readRange, List.range_add, Nat.add_assoc]

theorem take_readRange (m : Memory) (a n k : Nat) :
    (readRange m a (n + k)).take n = readRange m a n := by
  rw [readRange_add, List.take_left' (length_readRange m a n)]

theorem drop_readRange (m : Memory) (a n k : Nat) :
    (readRange m a (n + k)).drop n = readRange m (a + n) k := by
  rw [readRange_add, List.drop_left' (length_readRange m a n)]

theorem readRange_eq_replicate {m : Memory} {a n : Nat} {b : UInt8}
    (h : ∀ k < n, m (a + k) = b) : readRange m a n = List.replicate n b := by
  refine List.eq_replicate_iff.2 ⟨length_readRange m a n, fun x hx => ?_⟩
  obtain ⟨k, hk, rfl⟩ := List.mem_map.1 hx
  exact h k (List.mem_range.1 hk)

/-! ## The callbacks -/

/-- A read answers with what the flash holds and changes nothing. -/
theorem read_eq {w w' : FlashWorld} {address length : Nat} {answer : Option Bytes}
    (h : faultyBackend.read w address length = (answer, w')) :
    w'.memory = w.memory ∧ ∀ bytes, answer = some bytes → bytes = readRange w.memory address length := by
  simp only [faultyBackend] at h
  split at h
  · cases h
    refine ⟨rfl, fun bytes hb => ?_⟩
    split at hb
    · exact (Option.some.inj hb).symm
    · cases hb
  · cases h
    exact ⟨rfl, nofun⟩

/-- Programming touches its unit. -/
theorem programUnit_outside {w w' : FlashWorld} {address : Nat} {data : Bytes} {answer : Bool}
    (h : faultyBackend.programUnit w address data = (answer, w')) {a : Nat}
    (ha : a < address ∨ address + programUnitSize ≤ a) : w'.memory a = w.memory a := by
  simp only [faultyBackend] at h
  split at h
  · cases h
    exact if_neg (by omega)
  · cases h
    rfl

/-- Erasing touches its sector. -/
theorem eraseSector_outside {w w' : FlashWorld} {address : Nat} {answer : Bool}
    (h : faultyBackend.eraseSector w address = (answer, w')) {a : Nat}
    (ha : a < address ∨ address + flashSectorSize ≤ a) : w'.memory a = w.memory a := by
  simp only [faultyBackend] at h
  split at h
  · cases h
    exact if_neg (by omega)
  · cases h
    rfl

/-- A record's bytes lie in the sector at its address. -/
theorem record_in_sector (i : RecordIndex) {k : Nat} (hk : k < recordSize) :
    recordAddress i ≤ recordAddress i + k ∧
      recordAddress i + k < recordAddress i + flashSectorSize := by
  simp only [recordSize, flashSectorSize] at hk ⊢
  omega

theorem storedRecord_congr {m m' : Memory} {i : RecordIndex}
    (h : ∀ k < recordSize, m (recordAddress i + k) = m' (recordAddress i + k)) :
    storedRecord m i = storedRecord m' i := by
  simp only [storedRecord, readRange_congr h]

/-- An erase, complete or cut short, leaves the record as it was or a
record that does not decode. -/
theorem storedRecord_erased (w : FlashWorld) (i : RecordIndex) :
    storedRecord (w.erased (recordAddress i)) i = storedRecord w.memory i ∨
      decodeRecord (storedRecord (w.erased (recordAddress i)) i) = none := by
  by_cases hc : w.fault.completes
  · refine .inr (decodeRecord_of_not_committed ?_)
    have hbytes : (storedRecord (w.erased (recordAddress i)) i).bytes =
        List.replicate recordSize 0xFF :=
      readRange_eq_replicate fun k hk => by
        rw [FlashWorld.erased, if_pos (record_in_sector i hk), if_pos hc]
    rw [hbytes]
    decide
  · cases ht : w.fault.tornSector with
    | none =>
      refine .inl (storedRecord_congr fun k hk => ?_)
      rw [FlashWorld.erased, if_pos (record_in_sector i hk), if_neg hc, ht]
    | some torn =>
      refine .inr ?_
      have hrec : storedRecord (w.erased (recordAddress i)) i =
          ⟨readRange torn.contents 0 recordSize, length_readRange _ _ _⟩ := by
        refine Record.ext (List.map_congr_left fun k hk => ?_)
        rw [FlashWorld.erased, if_pos (record_in_sector i (List.mem_range.1 hk)), if_neg hc, ht]
        simp
      rw [hrec]
      exact torn.undecodable

theorem storedRecord_eraseSector {w w' : FlashWorld} {i : RecordIndex} {answer : Bool}
    (h : faultyBackend.eraseSector w (recordAddress i) = (answer, w')) :
    storedRecord w'.memory i = storedRecord w.memory i ∨
      decodeRecord (storedRecord w'.memory i) = none := by
  simp only [faultyBackend] at h
  split at h
  · cases h
    exact storedRecord_erased w i
  · cases h
    exact .inl rfl

/-! ## The loops -/

/-- Verification changes nothing, and one that passes has seen every unit
it went over. -/
theorem verifyUnits_spec {address : Nat} {expected : Bytes} :
    ∀ {units unit : Nat} {w w' : FlashWorld} {verified : Bool},
      verifyUnits faultyBackend address expected units unit w = (verified, w') →
      w'.memory = w.memory ∧
      (verified = true →
        readRange w.memory (address + unit * programUnitSize) (units * programUnitSize) =
          (expected.drop (unit * programUnitSize)).take (units * programUnitSize)) := by
  intro units
  induction units with
  | zero =>
    intro unit w w' verified h
    cases h
    exact ⟨rfl, fun _ => by simp [readRange]⟩
  | succ units ih =>
    intro unit w w' verified h
    unfold verifyUnits at h
    split at h
    · next w₁ hread =>
      cases h
      exact ⟨(read_eq hread).1, nofun⟩
    · next readback w₁ hread =>
      obtain ⟨hmem, hbytes⟩ := read_eq hread
      split at h
      · next hunit =>
        obtain ⟨hmem', hrest⟩ := ih h
        refine ⟨hmem'.trans hmem, fun hv => ?_⟩
        have hrest := hrest hv
        rw [hbytes readback rfl] at hunit
        rw [hmem, show (unit + 1) * programUnitSize = unit * programUnitSize + programUnitSize by
          ring] at hrest
        rw [show (units + 1) * programUnitSize = programUnitSize + units * programUnitSize by ring,
          readRange_add, List.take_add, List.drop_drop, hunit, ← hrest, Nat.add_assoc]
      · cases h
        exact ⟨hmem, nofun⟩

/-- A range that verifies is what was expected. -/
theorem verifyRange_spec (units : Nat) {address : Nat} {expected : Bytes} {w w' : FlashWorld}
    {verified : Bool}
    (h : verifyRange faultyBackend address expected (units * programUnitSize) w =
      (verified, w')) :
    w'.memory = w.memory ∧
    (verified = true → readRange w.memory address (units * programUnitSize) =
      expected.take (units * programUnitSize)) := by
  rw [verifyRange, Nat.mul_div_cancel _ (by decide)] at h
  simpa using verifyUnits_spec h

/-- Programming units touches those units. -/
theorem programUnits_outside {address : Nat} {record : Bytes} :
    ∀ {units unit : Nat} {w w' : FlashWorld} {programmed : Bool} {count : Nat},
      programUnits faultyBackend address record units unit w = (programmed, count, w') →
      ∀ {a : Nat}, address + (unit + units) * programUnitSize ≤ a ∨ a < address →
        w'.memory a = w.memory a := by
  intro units
  induction units with
  | zero => intro unit w w' programmed count h a _; cases h; rfl
  | succ units ih =>
    intro unit w w' programmed count h a ha
    have hunit : a < address + unit * programUnitSize ∨
        address + unit * programUnitSize + programUnitSize ≤ a := by
      simp only [programUnitSize] at ha ⊢
      omega
    unfold programUnits at h
    split at h
    · next w₁ hprog => cases h; exact programUnit_outside hprog hunit
    · next w₁ hprog =>
      rw [ih h (by simp only [programUnitSize] at ha ⊢; omega)]
      exact programUnit_outside hprog hunit

/-! ## The procedure, step by step -/

variable {i : RecordIndex} {state : ControlState} {w w' : FlashWorld}
variable {result result' : FlashResult}
variable {evidence evidence' : FlashEvidence}

/-- The record at `i` decodes to the state being written or not at all. -/
def Settled (i : RecordIndex) (state : ControlState) (memory : Memory) : Prop :=
  decodeRecord (storedRecord memory i) = none ∨
    decodeRecord (storedRecord memory i) = some state

/-- The body of the record at `i` is the state's. -/
def HoldsBody (i : RecordIndex) (state : ControlState) (memory : Memory) : Prop :=
  readRange memory (recordAddress i) bodySize = (recordOf state).bytes.take bodySize

theorem settled_of_holdsBody {m : Memory} (h : HoldsBody i state m) : Settled i state m := by
  refine decodeRecord_of_body ?_
  have htake : (storedRecord m i).bytes.take bodySize = readRange m (recordAddress i) bodySize :=
    take_readRange m _ bodySize programUnitSize
  exact htake.trans h

/-- A commit unit still erased keeps the record from decoding. -/
theorem undecodable_of_erased_commit {m : Memory}
    (h : ∀ k < programUnitSize, m (recordAddress i + bodySize + k) = 0xFF) :
    decodeRecord (storedRecord m i) = none := by
  refine decodeRecord_of_not_committed ?_
  have hunit : (storedRecord m i).bytes.drop bodySize = List.replicate programUnitSize 0xFF :=
    (drop_readRange m _ bodySize programUnitSize).trans (readRange_eq_replicate h)
  have hdrop : (storedRecord m i).bytes.drop commitOffset =
      ((storedRecord m i).bytes.drop bodySize).drop 12 := by
    rw [List.drop_drop]
    rfl
  rw [hdrop, hunit]
  decide

/-- **The commit.** With the body in place, whatever happens to the
commit unit leaves the record settled, and a commit that reports success
has written the state. -/
theorem commitRecord_spec (hvalid : isStateValid state = true)
    (h : commitRecord faultyBackend (recordAddress i) (recordOf state) evidence w =
      (result, evidence', w'))
    (hbody : HoldsBody i state w.memory) :
    Settled i state w'.memory ∧
      (result = .ok → decodeRecord (storedRecord w'.memory i) = some state) := by
  have hkeep : ∀ {w₁ : FlashWorld} {answer : Bool},
      faultyBackend.programUnit w (recordAddress i + bodySize)
        ((markRecordCommitted (recordOf state)).bytes.drop bodySize) = (answer, w₁) →
      HoldsBody i state w₁.memory := fun hprog =>
    (readRange_congr fun k hk => programUnit_outside hprog (by omega)).trans hbody
  unfold commitRecord at h
  dsimp only at h
  split at h
  · next w₁ hprog =>
    cases h
    exact ⟨settled_of_holdsBody (hkeep hprog), nofun⟩
  · next w₁ hprog =>
    split at h
    · next w₂ hverify =>
      cases h
      rw [(verifyRange_spec 4 hverify).1]
      exact ⟨settled_of_holdsBody (hkeep hprog), nofun⟩
    · next w₂ hverify =>
      cases h
      obtain ⟨hmem, hread⟩ := verifyRange_spec 4 hverify
      have hrec : storedRecord w'.memory i = committedRecord state := by
        refine Record.ext ?_
        rw [hmem]
        refine (hread rfl).trans (List.take_of_length_le ?_)
        rw [(markRecordCommitted (recordOf state)).size]
        rfl
      have hdec : decodeRecord (storedRecord w'.memory i) = some state := by
        rw [hrec]
        exact decodeRecord_committedRecord hvalid
      exact ⟨.inr hdec, fun _ => hdec⟩

/-- **The body.** From an erased record: nothing decodes before the body
has been read back, and then the commit takes over. -/
theorem writeBody_spec (hvalid : isStateValid state = true)
    (h : writeBody faultyBackend (recordAddress i) (recordOf state) evidence w =
      (result, evidence', w'))
    (herased : ∀ k < recordSize, w.memory (recordAddress i + k) = 0xFF) :
    Settled i state w'.memory ∧
      (result = .ok → decodeRecord (storedRecord w'.memory i) = some state) := by
  unfold writeBody at h
  split at h
  next programmed count w₁ hprog =>
  have hundec : decodeRecord (storedRecord w₁.memory i) = none := by
    refine undecodable_of_erased_commit fun k hk => ?_
    rw [programUnits_outside hprog (.inl (by
      simp only [bodyUnitCount, bodySize, programUnitSize, recordSize]; omega))]
    rw [Nat.add_assoc]
    exact herased _ (by simp only [bodySize, programUnitSize, recordSize] at hk ⊢; omega)
  dsimp only at h
  split at h
  · cases h
    exact ⟨.inl hundec, nofun⟩
  split at h
  · next w₂ hverify =>
    cases h
    rw [(verifyRange_spec 3 hverify).1]
    exact ⟨.inl hundec, nofun⟩
  · next w₂ hverify =>
    obtain ⟨hmem, hread⟩ := verifyRange_spec 3 hverify
    have hbody : HoldsBody i state w₂.memory := by
      rw [hmem]
      exact hread rfl
    exact commitRecord_spec hvalid h hbody

/-- **The write.** The target record ends as it was, undecodable, or as
the state. -/
theorem writeRecord_spec (hvalid : isStateValid state = true)
    (h : writeRecord faultyBackend (recordAddress i) (recordOf state) evidence w =
      (result, evidence', w')) :
    (storedRecord w'.memory i = storedRecord w.memory i ∨ Settled i state w'.memory) ∧
      (result = .ok → decodeRecord (storedRecord w'.memory i) = some state) := by
  unfold writeRecord at h
  split at h
  · next w₁ herase =>
    cases h
    exact ⟨(storedRecord_eraseSector herase).imp_right .inl, nofun⟩
  · next w₁ herase =>
    split at h
    · next w₂ hverify =>
      cases h
      obtain ⟨hmem, -⟩ := verifyRange_spec 4 hverify
      rw [hmem]
      exact ⟨(storedRecord_eraseSector herase).imp_right .inl, nofun⟩
    · next w₂ hverify =>
      obtain ⟨hmem, hread⟩ := verifyRange_spec 4 hverify
      have herased : ∀ k < recordSize, w₂.memory (recordAddress i + k) = 0xFF := by
        intro k hk
        have hall : w₁.memory (recordAddress i + k) ∈ readRange w₁.memory (recordAddress i)
            (4 * programUnitSize) := List.mem_map.2 ⟨k, List.mem_range.2 hk, rfl⟩
        rw [hread rfl] at hall
        rw [hmem]
        exact List.eq_of_mem_replicate (List.mem_of_mem_take hall)
      obtain ⟨hsettled, hok⟩ := writeBody_spec hvalid h herased
      exact ⟨.inr hsettled, hok⟩

/-- The write stays inside the sector of its record. -/
theorem writeRecord_outside (h : writeRecord faultyBackend (recordAddress i) (recordOf state)
      evidence w = (result, evidence', w')) {a : Nat}
    (ha : a < recordAddress i ∨ recordAddress i + flashSectorSize ≤ a) :
    w'.memory a = w.memory a := by
  -- the three stages of a write, the last first; each touches its record's units only
  have hcommit : ∀ {w₁ : FlashWorld} {ev : FlashEvidence},
      commitRecord faultyBackend (recordAddress i) (recordOf state) ev w₁ =
        (result, evidence', w') → w'.memory a = w₁.memory a := by
    intro w₁ ev h
    unfold commitRecord at h
    dsimp only at h
    split at h
    · next hprog =>
      cases h
      exact programUnit_outside hprog (by
        simp only [bodySize, programUnitSize, recordSize, flashSectorSize] at ha ⊢; omega)
    · next w₂ hprog =>
      have hkeep : w₂.memory a = w₁.memory a := programUnit_outside hprog (by
        simp only [bodySize, programUnitSize, recordSize, flashSectorSize] at ha ⊢; omega)
      split at h
      · next hverify => cases h; rw [(verifyRange_spec 4 hverify).1, hkeep]
      · next hverify => cases h; rw [(verifyRange_spec 4 hverify).1, hkeep]
  have hbody : ∀ {w₁ : FlashWorld} {ev : FlashEvidence},
      writeBody faultyBackend (recordAddress i) (recordOf state) ev w₁ =
        (result, evidence', w') → w'.memory a = w₁.memory a := by
    intro w₁ ev h
    unfold writeBody at h
    split at h
    next programmed count w₂ hprog =>
    have hkeep : w₂.memory a = w₁.memory a := programUnits_outside hprog (by
      simp only [bodyUnitCount, bodySize, programUnitSize, recordSize, flashSectorSize] at ha ⊢
      omega)
    dsimp only at h
    split at h
    · cases h; exact hkeep
    split at h
    · next hverify => cases h; rw [(verifyRange_spec 3 hverify).1, hkeep]
    · next w₃ hverify => rw [hcommit h, (verifyRange_spec 3 hverify).1, hkeep]
  unfold writeRecord at h
  split at h
  · next herase => cases h; exact eraseSector_outside herase ha
  · next w₁ herase =>
    have hkeep : w₁.memory a = w.memory a := eraseSector_outside herase ha
    split at h
    · next hverify => cases h; rw [(verifyRange_spec 4 hverify).1, hkeep]
    · next w₂ hverify => rw [hbody h, (verifyRange_spec 4 hverify).1, hkeep]

theorem unlock_memory {answer : Bool} (h : faultyBackend.unlock w = (answer, w')) :
    w'.memory = w.memory := by
  simp only [faultyBackend] at h
  split at h <;> cases h <;> rfl

theorem finish_spec (h : finish faultyBackend result evidence w = (result', evidence', w')) :
    w'.memory = w.memory ∧ (result' = .ok → result = .ok) := by
  unfold finish at h
  split at h
  · next hlock => cases h; exact ⟨unlock_memory hlock, nofun⟩
  · next hlock => cases h; exact ⟨unlock_memory hlock, id⟩

/-- **One inversion lemma for the procedure.** The target record ends as
it was or settled, the flash outside its sector is untouched, and a
successful call has written a valid state. -/
theorem persistControl_spec
    (h : persistControl faultyBackend state i w = (result, evidence', w')) :
    (storedRecord w'.memory i = storedRecord w.memory i ∨ Settled i state w'.memory) ∧
      (result = .ok → decodeRecord (storedRecord w'.memory i) = some state) ∧
      ∀ a, a < recordAddress i ∨ recordAddress i + flashSectorSize ≤ a →
        w'.memory a = w.memory a := by
  by_cases hvalid : isStateValid state = true
  swap
  · rw [persistControl, prepareRecord, if_neg hvalid] at h
    cases h
    exact ⟨.inl rfl, nofun, fun _ _ => rfl⟩
  rw [persistControl, prepareRecord, if_pos hvalid] at h
  dsimp only at h
  split at h
  · next w₁ hunlock =>
    obtain ⟨hmem, hres⟩ := finish_spec h
    rw [hmem, unlock_memory hunlock]
    exact ⟨.inl rfl, fun hr => (nomatch hres hr), fun _ _ => rfl⟩
  · next w₁ hunlock =>
    rcases hwrite : writeRecord faultyBackend (recordAddress i) (recordOf state) _ w₁ with
      ⟨result₁, evidence₁, w₂⟩
    rw [hwrite] at h
    obtain ⟨hmem, hres⟩ := finish_spec h
    obtain ⟨hrec, hok⟩ := writeRecord_spec hvalid hwrite
    have hout := fun a ha => writeRecord_outside hwrite (a := a) ha
    rw [unlock_memory hunlock] at hrec hout
    rw [hmem]
    exact ⟨hrec, fun hr => hok (hres hr), hout⟩

/-! ## Power-loss safety -/

/-- The two records' sectors do not meet. -/
theorem other_record_outside (i : RecordIndex) {k : Nat} (hk : k < recordSize) :
    recordAddress i + k < recordAddress (otherRecord i) ∨
      recordAddress (otherRecord i) + flashSectorSize ≤ recordAddress i + k := by
  match i with
  | 0 =>
    simp only [recordSize] at hk
    refine .inl ?_
    simp only [recordAddress, otherRecord, controlRecord0Address, controlRecord1Address,
      controlBaseAddress, flashSectorSize]
    norm_num
    omega
  | 1 =>
    refine .inr ?_
    simp only [recordAddress, otherRecord, controlRecord0Address, controlRecord1Address,
      controlBaseAddress, flashSectorSize]
    norm_num

/-- Flash as provisioning leaves it: the first record committed, all else
erased. -/
def provisioned (state : ControlState) : Memory := fun a =>
  if controlRecord0Address ≤ a ∧ a < controlRecord0Address + recordSize then
    (committedRecord state).bytes.at' (a - controlRecord0Address)
  else
    0xFF

theorem storedRecord_provisioned (state : ControlState) :
    storedRecord (provisioned state) 0 = committedRecord state := by
  refine Record.ext (List.ext_getElem ?_ fun k hk hk' => ?_)
  · rw [(committedRecord state).size]
    simp [storedRecord]
  · have hsize := (committedRecord state).size
    have hbase : recordAddress 0 = controlRecord0Address := rfl
    simp only [storedRecord, readRange, List.getElem_map, List.getElem_range, hbase]
    rw [provisioned, if_pos (by omega), Bytes.at', Nat.add_sub_cancel_left,
      List.getD_eq_getElem?_getD, List.getElem?_eq_getElem hk']
    rfl

/-- A provisioned device loads the state it was given. -/
theorem loadMemory_provisioned {state : ControlState} (h : isStateValid state = true) :
    loadMemory (provisioned state) = .ok (state, 0) := by
  refine load_of_single ?_ ?_
  · rw [recordAt_storedRecords, storedRecord_provisioned]
    exact decodeRecord_committedRecord h
  · rw [recordAt_storedRecords]
    refine undecodable_of_erased_commit fun k _ => if_neg ?_
    have hbase : recordAddress (otherRecord 0) = controlRecord0Address + flashSectorSize := rfl
    rw [hbase]
    simp only [flashSectorSize, recordSize]
    omega

/-- **A write cannot lose the state.** Whatever goes wrong in writing the
successor of the loaded state to the other record, and wherever power is
cut, the records load as the old state or the new one; and if the call
reported success, as the new one. -/
theorem persistControl_powerLoss (w : FlashWorld) (old new : ControlState) (i : RecordIndex)
    (hload : loadMemory w.memory = .ok (old, i))
    (hgen : new.generation = nextGeneration old.generation) :
    let out := persistControl faultyBackend new (otherRecord i) w
    (loadMemory out.2.2.memory = .ok (old, i) ∨
        loadMemory out.2.2.memory = .ok (new, otherRecord i)) ∧
      (out.1 = .ok → loadMemory out.2.2.memory = .ok (new, otherRecord i)) := by
  intro out
  have hrun : persistControl faultyBackend new (otherRecord i) w = (out.1, out.2.1, out.2.2) := rfl
  obtain ⟨hrec, hok, hout⟩ := persistControl_spec hrun
  have hkeep : storedRecord out.2.2.memory i = storedRecord w.memory i :=
    storedRecord_congr fun k hk => hout _ (other_record_outside i hk)
  have hold : decodeRecord (recordAt (storedRecords out.2.2.memory) i) = some old := by
    rw [recordAt_storedRecords, hkeep, ← recordAt_storedRecords]
    exact decodeRecord_of_load hload
  have hnext : decodeRecord (storedRecord out.2.2.memory (otherRecord i)) = some new →
      loadMemory out.2.2.memory = .ok (new, otherRecord i) := fun hnew =>
    load_of_next hold (by rw [recordAt_storedRecords]; exact hnew) hgen
  refine ⟨?_, fun hr => hnext (hok hr)⟩
  rcases hrec with hsame | hnone | hnew
  · refine .inl (Eq.trans (loadRecords_congr fun j => ?_) hload)
    rw [recordAt_storedRecords, recordAt_storedRecords]
    by_cases hj : j = i
    · rw [hj, hkeep]
    · rw [eq_otherRecord_of_ne hj, hsame]
  · exact .inl (load_of_single hold (by rw [recordAt_storedRecords]; exact hnone))
  · exact .inr (hnext hnew)

/-- A first confirmed image, and the update scheduled over it. -/
def firstImage : ControlState := ⟨1, .a, .none, 0, 7, 7, 0, 100, 0⟩

def firstUpdate : ControlState := ⟨2, .a, .b, 3, 7, 7, 8, 100, 101⟩

/-- Power lost in the first read after the erase. -/
theorem persistControl_powerLoss_inVerify :
    let out := persistControl faultyBackend firstUpdate (otherRecord 0)
      ⟨provisioned firstImage,
        [Fault.benign, Fault.benign, { Fault.benign with powerCut := true }], true⟩
    (loadMemory out.2.2.memory = .ok (firstImage, 0) ∨
        loadMemory out.2.2.memory = .ok (firstUpdate, otherRecord 0)) ∧
      (out.1 = .ok → loadMemory out.2.2.memory = .ok (firstUpdate, otherRecord 0)) :=
  persistControl_powerLoss _ firstImage firstUpdate 0 (loadMemory_provisioned (by decide))
    (by decide)

end BootFlash

end CanGui
