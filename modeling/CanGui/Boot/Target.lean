import CanGui.Boot.Flash
import CanGui.Boot.Jump
/-!
# Boot target

`targetRun` is one boot: read the two control records, validate both
slots, let the rollback policy choose, persist what it changed, and jump.
The platform is behind four callbacks over a context; a jump that
succeeds does not come back, so whatever the callback leaves is what the
boot ends with.
-/

namespace CanGui

namespace BootTarget

open BootControl BootFlash BootImage BootJump

inductive TargetResult where
  | ok
  | invalidArgument
  | controlReadFailed
  | controlInvalid
  | controlWriteFailed
  | recovery
  | jumpPrepareFailed
  | jumpReturned
  deriving DecidableEq, Repr

/-- The platform callbacks over a context `σ`; `read` reads one record. -/
structure TargetPlatform (σ : Type*) where
  read : σ → Nat → Option Record × σ
  validateImage : σ → ImageSlot → UInt32 → (ImageResult × ImageInfo) × σ
  persistControl : σ → ControlState → RecordIndex → Bool × σ
  jump : σ → JumpPlan → JumpResult × σ

structure TargetEvidence where
  controlResult : ControlResult := .ok
  slotAImageResult : ImageResult := .ok
  slotBImageResult : ImageResult := .ok
  decision : BootDecision := .recovery
  jumpResult : JumpResult := .ok
  selectedControlRecord : Option RecordIndex := none
  statePersisted : Bool := false
  deriving DecidableEq, Repr

def imageMatchesState (slot : BootSlot) (state : ControlState) (imageInfo : ImageInfo) : Bool :=
  if slot = state.confirmedSlot then
    imageInfo.securityCounter = state.confirmedSecurityCounter &&
      imageInfo.buildVersion = state.confirmedBuildVersion
  else if slot = state.pendingSlot then
    imageInfo.securityCounter = state.pendingSecurityCounter &&
      imageInfo.buildVersion = state.pendingBuildVersion
  else
    false

/-- A slot the policy may boot: validated, and an image the state knows. -/
def slotUsable (slot : BootSlot) (state : ControlState) (image : ImageResult × ImageInfo) : Bool :=
  image.1 = .ok && imageMatchesState slot state image.2

variable {σ : Type*}

/-- The preflight of the chosen slot. -/
def preparePlan (decision : BootDecision) (slotAInfo slotBInfo : ImageInfo) :
    JumpResult × JumpPlan :=
  if decision = .slotA then prepare slotA slotAInfo else prepare slotB slotBInfo

/-- The handoff, once the policy has chosen and its choice is stored. -/
def handOff (platform : TargetPlatform σ) (decision : BootDecision)
    (slotAInfo slotBInfo : ImageInfo) (evidence : TargetEvidence) (s : σ) :
    TargetResult × TargetEvidence × σ :=
  if decision = .recovery then
    (.recovery, evidence, s)
  else
    match preparePlan decision slotAInfo slotBInfo with
    | (prepared, plan) =>
      let evidence := { evidence with jumpResult := prepared }
      if prepared ≠ .ok then
        (.jumpPrepareFailed, evidence, s)
      else
        match platform.jump s plan with
        | (jumpResult, s) => (.jumpReturned, { evidence with jumpResult }, s)

/-- Storing what the policy changed, in the record that was not loaded. -/
def persistSelection (platform : TargetPlatform σ) (selection : Selection)
    (selected : RecordIndex) (slotAInfo slotBInfo : ImageInfo) (evidence : TargetEvidence)
    (s : σ) : TargetResult × TargetEvidence × σ :=
  if selection.stateChanged then
    match platform.persistControl s selection.state (otherRecord selected) with
    | (false, s) => (.controlWriteFailed, evidence, s)
    | (true, s) =>
      handOff platform selection.decision slotAInfo slotBInfo
        { evidence with
          selectedControlRecord := some (otherRecord selected)
          statePersisted := true } s
  else
    handOff platform selection.decision slotAInfo slotBInfo evidence s

/-- Validating both slots and choosing between them. -/
def chooseSlot (platform : TargetPlatform σ) (state : ControlState) (selected : RecordIndex)
    (evidence : TargetEvidence) (s : σ) : TargetResult × TargetEvidence × σ :=
  match platform.validateImage s slotA state.minimumSecurityCounter with
  | (imageA, s) =>
    match platform.validateImage s slotB state.minimumSecurityCounter with
    | (imageB, s) =>
      let selection := selectBoot state (slotUsable .a state imageA) (slotUsable .b state imageB)
      let evidence := { evidence with
        slotAImageResult := imageA.1
        slotBImageResult := imageB.1
        controlResult := selection.result }
      if selection.result ≠ .ok then
        (.controlInvalid, evidence, s)
      else
        persistSelection platform selection selected imageA.2 imageB.2
          { evidence with decision := selection.decision } s

def targetRun (platform : TargetPlatform σ) (s : σ) : TargetResult × TargetEvidence × σ :=
  match platform.read s controlRecord0Address with
  | (none, s) => (.controlReadFailed, {}, s)
  | (some record0, s) =>
    match platform.read s controlRecord1Address with
    | (none, s) => (.controlReadFailed, {}, s)
    | (some record1, s) =>
      match load record0 record1 with
      | .error result => (.controlInvalid, { controlResult := result }, s)
      | .ok (state, selected) =>
        chooseSlot platform state selected { selectedControlRecord := some selected } s

end BootTarget

end CanGui
