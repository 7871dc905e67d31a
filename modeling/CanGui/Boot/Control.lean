import CanGui.Common.Words
/-!
# Boot control — the state and its 64-byte record

The redundant boot-control state: which slot is confirmed, which image is
pending and how often it may still be tried, and the security counter no
image may fall below. The operations return their result code and the
state, which is the old one whenever the code is an error. A record is
the state laid out in 64 bytes under a CRC, its commit marker in the last
flash program unit.
-/

namespace CanGui

namespace BootControl

/-! ## Constants -/

def recordMagic : UInt32 := 0x31544342
def recordVersion : UInt16 := 1
def recordSize : Nat := 64
def crcOffset : Nat := 56
def commitOffset : Nat := 60
def commitMarker : UInt32 := 0xC04E7A5A
def maxPendingAttempts : UInt8 := 3

/-! ## The state -/

inductive BootSlot where
  | none
  | a
  | b
  deriving DecidableEq, Repr

inductive ControlResult where
  | ok
  | invalidArgument
  | invalidState
  | noValidRecord
  | recordConflict
  | securityRollback
  deriving DecidableEq, Repr

inductive BootDecision where
  | recovery
  | slotA
  | slotB
  deriving DecidableEq, Repr

structure ControlState where
  generation : UInt32
  confirmedSlot : BootSlot
  pendingSlot : BootSlot
  attemptsRemaining : UInt8
  minimumSecurityCounter : UInt32
  confirmedSecurityCounter : UInt32
  pendingSecurityCounter : UInt32
  confirmedBuildVersion : UInt32
  pendingBuildVersion : UInt32
  deriving DecidableEq, Repr

namespace BootSlot

/-- The enumerator's value, as the record stores it. -/
def toByte : BootSlot → UInt8
  | none => 0
  | a => 1
  | b => 2

/-- The slot a record byte stands for. A byte outside the enumeration is
no slot; `isStateValid` would reject it. -/
def ofByte (byte : UInt8) : Option BootSlot :=
  if byte = 0 then some none
  else if byte = 1 then some a
  else if byte = 2 then some b
  else Option.none

@[simp] theorem ofByte_toByte (slot : BootSlot) : ofByte slot.toByte = some slot := by
  cases slot <;> rfl

theorem toByte_of_ofByte {byte : UInt8} {slot : BootSlot} (h : ofByte byte = some slot) :
    slot.toByte = byte := by
  unfold ofByte at h
  split at h
  · next hb => cases h; exact hb.symm
  split at h
  · next hb => cases h; exact hb.symm
  split at h
  · next hb => cases h; exact hb.symm
  · cases h

end BootSlot

def isSlot (slot : BootSlot) : Bool := slot = .a || slot = .b

def isStateValid (state : ControlState) : Bool :=
  if state.generation = 0 || !isSlot state.confirmedSlot ||
      state.confirmedSecurityCounter ≠ state.minimumSecurityCounter then
    false
  else if state.pendingSlot = .none then
    state.attemptsRemaining = 0 && state.pendingSecurityCounter = 0 &&
      state.pendingBuildVersion = 0
  else
    isSlot state.pendingSlot && state.pendingSlot ≠ state.confirmedSlot &&
      state.attemptsRemaining ≤ maxPendingAttempts &&
      state.pendingSecurityCounter > state.minimumSecurityCounter

def nextGeneration (generation : UInt32) : UInt32 :=
  if generation + 1 = 0 then 1 else generation + 1

def isGenerationNewer (candidate reference : UInt32) : Bool :=
  0 < (candidate - reference).toInt32

def clearPending (state : ControlState) : ControlState :=
  { state with
    pendingSlot := .none
    attemptsRemaining := 0
    pendingSecurityCounter := 0
    pendingBuildVersion := 0 }

/-! ## The operations -/

def initializeControl (confirmedSlot : BootSlot) (securityCounter buildVersion : UInt32) :
    Option ControlState :=
  if isSlot confirmedSlot then
    some
      { generation := 1
        confirmedSlot
        pendingSlot := .none
        attemptsRemaining := 0
        minimumSecurityCounter := securityCounter
        confirmedSecurityCounter := securityCounter
        pendingSecurityCounter := 0
        confirmedBuildVersion := buildVersion
        pendingBuildVersion := 0 }
  else
    none

def scheduleUpdate (state : ControlState) (targetSlot : BootSlot)
    (securityCounter buildVersion : UInt32) : ControlResult × ControlState :=
  if !isSlot targetSlot then
    (.invalidArgument, state)
  else if !isStateValid state || targetSlot = state.confirmedSlot ||
      state.pendingSlot ≠ .none then
    (.invalidState, state)
  else if securityCounter ≤ state.minimumSecurityCounter then
    (.securityRollback, state)
  else
    (.ok, { state with
      pendingSlot := targetSlot
      attemptsRemaining := maxPendingAttempts
      pendingSecurityCounter := securityCounter
      pendingBuildVersion := buildVersion
      generation := nextGeneration state.generation })

/-- What a slot's validity flag says about a slot of the state. -/
def slotValid (slot : BootSlot) (slotAValid slotBValid : Bool) : Bool :=
  if slot = .a then slotAValid else slotBValid

def slotDecision (slot : BootSlot) : BootDecision :=
  if slot = .a then .slotA else .slotB

structure Selection where
  result : ControlResult
  state : ControlState
  decision : BootDecision
  stateChanged : Bool
  deriving DecidableEq, Repr

def selectBoot (state : ControlState) (slotAValid slotBValid : Bool) : Selection :=
  if !isStateValid state then
    ⟨.invalidState, state, .recovery, false⟩
  else
    let confirmedValid := slotValid state.confirmedSlot slotAValid slotBValid
    let fallback := if confirmedValid then slotDecision state.confirmedSlot else .recovery
    if state.pendingSlot ≠ .none then
      let pendingValid := slotValid state.pendingSlot slotAValid slotBValid
      if pendingValid && state.attemptsRemaining > 0 then
        ⟨.ok, { state with
          attemptsRemaining := state.attemptsRemaining - 1
          generation := nextGeneration state.generation },
          slotDecision state.pendingSlot, true⟩
      else
        ⟨.ok, { clearPending state with generation := nextGeneration state.generation },
          fallback, true⟩
    else
      ⟨.ok, state, fallback, false⟩

structure Confirmation where
  result : ControlResult
  state : ControlState
  stateChanged : Bool
  deriving DecidableEq, Repr

def confirmRunning (state : ControlState) (runningSlot : BootSlot)
    (securityCounter buildVersion : UInt32) : Confirmation :=
  if !isSlot runningSlot then
    ⟨.invalidArgument, state, false⟩
  else if !isStateValid state then
    ⟨.invalidState, state, false⟩
  else if state.pendingSlot = .none && runningSlot = state.confirmedSlot &&
      securityCounter = state.confirmedSecurityCounter &&
      buildVersion = state.confirmedBuildVersion then
    ⟨.ok, state, false⟩
  else if runningSlot ≠ state.pendingSlot || securityCounter ≠ state.pendingSecurityCounter ||
      buildVersion ≠ state.pendingBuildVersion then
    ⟨.invalidState, state, false⟩
  else
    ⟨.ok, { clearPending { state with
        confirmedSlot := runningSlot
        minimumSecurityCounter := securityCounter
        confirmedSecurityCounter := securityCounter
        confirmedBuildVersion := buildVersion } with
      generation := nextGeneration state.generation }, true⟩

/-! ## What validity says, and what each operation can do -/

theorem isSlot_iff {slot : BootSlot} : isSlot slot = true ↔ slot ≠ .none := by
  cases slot <;> simp [isSlot]

/-- The invariant of a state, field by field. -/
theorem isStateValid_iff {state : ControlState} :
    isStateValid state = true ↔
      state.generation ≠ 0 ∧ state.confirmedSlot ≠ .none ∧
      state.confirmedSecurityCounter = state.minimumSecurityCounter ∧
      ((state.pendingSlot = .none ∧ state.attemptsRemaining = 0 ∧
          state.pendingSecurityCounter = 0 ∧ state.pendingBuildVersion = 0) ∨
        (state.pendingSlot ≠ .none ∧ state.pendingSlot ≠ state.confirmedSlot ∧
          state.attemptsRemaining ≤ maxPendingAttempts ∧
          state.minimumSecurityCounter < state.pendingSecurityCounter)) := by
  unfold isStateValid
  by_cases hbad : state.generation = 0 || !isSlot state.confirmedSlot ||
      state.confirmedSecurityCounter ≠ state.minimumSecurityCounter
  · rw [if_pos hbad]
    simp only [Bool.or_eq_true, decide_eq_true_eq, Bool.not_eq_true', ← Bool.not_eq_true,
      isSlot_iff] at hbad
    simp only [Bool.false_eq_true, false_iff]
    rintro ⟨h1, h2, h3, -⟩
    rcases hbad with (h | h) | h
    · exact h1 h
    · exact h h2
    · exact h h3
  · rw [if_neg hbad]
    simp only [Bool.or_eq_true, decide_eq_true_eq, Bool.not_eq_true', ← Bool.not_eq_true,
      isSlot_iff, not_or, not_not] at hbad
    obtain ⟨⟨h1, h2⟩, h3⟩ := hbad
    by_cases hp : state.pendingSlot = .none
    · simp [hp, h1, h2, h3, and_assoc]
    · simp [hp, h1, h2, h3, isSlot_iff, and_assoc]

/-- The image an identity names. -/
structure ImageIdentity where
  slot : BootSlot
  securityCounter : UInt32
  buildVersion : UInt32
  deriving DecidableEq, Repr

def ControlState.confirmedImage (state : ControlState) : ImageIdentity :=
  ⟨state.confirmedSlot, state.confirmedSecurityCounter, state.confirmedBuildVersion⟩

def ControlState.pendingImage (state : ControlState) : ImageIdentity :=
  ⟨state.pendingSlot, state.pendingSecurityCounter, state.pendingBuildVersion⟩

/-- **What scheduling does.** It fails and changes nothing, or makes an
image above the minimum counter pending. -/
theorem scheduleUpdate_cases (state : ControlState) (slot : BootSlot) (counter build : UInt32) :
    ((scheduleUpdate state slot counter build).1 ≠ .ok ∧
        (scheduleUpdate state slot counter build).2 = state) ∨
      (slot ≠ .none ∧ isStateValid state = true ∧ slot ≠ state.confirmedSlot ∧
        state.pendingSlot = .none ∧ state.minimumSecurityCounter < counter ∧
        scheduleUpdate state slot counter build = (.ok, { state with
          pendingSlot := slot
          attemptsRemaining := maxPendingAttempts
          pendingSecurityCounter := counter
          pendingBuildVersion := build
          generation := nextGeneration state.generation })) := by
  unfold scheduleUpdate
  split
  · exact .inl ⟨nofun, rfl⟩
  next hslot =>
  split
  · exact .inl ⟨nofun, rfl⟩
  next hstate =>
  split
  · exact .inl ⟨nofun, rfl⟩
  next hcounter =>
  simp only [Bool.not_eq_true', Bool.or_eq_true, decide_eq_true_eq, not_or, not_not,
    Bool.not_eq_false, isSlot_iff] at hslot hstate
  exact .inr ⟨hslot, hstate.1.1, hstate.1.2, hstate.2, UInt32.not_le.1 hcounter, rfl⟩

/-- **What selecting does.** It fails and changes nothing; or tries the
pending image, which costs an attempt; or gives the pending image up; or
there is none. In the last two the confirmed image is what is left. -/
theorem selectBoot_cases (state : ControlState) (aValid bValid : Bool) :
    (isStateValid state = false ∧
        selectBoot state aValid bValid = ⟨.invalidState, state, .recovery, false⟩) ∨
      (isStateValid state = true ∧ state.pendingSlot ≠ .none ∧
        slotValid state.pendingSlot aValid bValid = true ∧ 0 < state.attemptsRemaining ∧
        selectBoot state aValid bValid = ⟨.ok, { state with
          attemptsRemaining := state.attemptsRemaining - 1
          generation := nextGeneration state.generation },
          slotDecision state.pendingSlot, true⟩) ∨
      (isStateValid state = true ∧ state.pendingSlot ≠ .none ∧
        selectBoot state aValid bValid =
          ⟨.ok, { clearPending state with generation := nextGeneration state.generation },
            if slotValid state.confirmedSlot aValid bValid then slotDecision state.confirmedSlot
              else .recovery, true⟩) ∨
      (isStateValid state = true ∧ state.pendingSlot = .none ∧
        selectBoot state aValid bValid =
          ⟨.ok, state,
            if slotValid state.confirmedSlot aValid bValid then slotDecision state.confirmedSlot
              else .recovery, false⟩) := by
  unfold selectBoot
  split
  · next hv => exact .inl ⟨by simpa using hv, rfl⟩
  next hv =>
  have hvalid : isStateValid state = true := by simpa using hv
  dsimp only
  split
  swap
  · next hp => exact .inr (.inr (.inr ⟨hvalid, by simpa using hp, rfl⟩))
  next hp =>
  split
  · next htry =>
    simp only [Bool.and_eq_true, decide_eq_true_eq] at htry
    exact .inr (.inl ⟨hvalid, hp, htry.1, htry.2, rfl⟩)
  · exact .inr (.inr (.inl ⟨hvalid, hp, rfl⟩))

/-- **What confirming does.** It changes nothing, or the pending image is
the one running and becomes the confirmed one. -/
theorem confirmRunning_cases (state : ControlState) (slot : BootSlot) (counter build : UInt32) :
    ((confirmRunning state slot counter build).state = state ∧
        (confirmRunning state slot counter build).stateChanged = false) ∨
      (isStateValid state = true ∧ slot ≠ .none ∧
        state.pendingImage = ⟨slot, counter, build⟩ ∧
        confirmRunning state slot counter build = ⟨.ok, { clearPending { state with
            confirmedSlot := slot
            minimumSecurityCounter := counter
            confirmedSecurityCounter := counter
            confirmedBuildVersion := build } with
          generation := nextGeneration state.generation }, true⟩) := by
  unfold confirmRunning
  split
  · exact .inl ⟨rfl, rfl⟩
  next hslot =>
  split
  · exact .inl ⟨rfl, rfl⟩
  next hvalid =>
  split
  · exact .inl ⟨rfl, rfl⟩
  split
  · exact .inl ⟨rfl, rfl⟩
  next himage =>
  simp only [Bool.not_eq_true', Bool.or_eq_true, decide_eq_true_eq, not_or, not_not,
    Bool.not_eq_false, isSlot_iff] at hslot hvalid himage
  obtain ⟨⟨h1, h2⟩, h3⟩ := himage
  exact .inr ⟨hvalid, hslot, by rw [ControlState.pendingImage, h1, h2, h3], rfl⟩

end BootControl

end CanGui
