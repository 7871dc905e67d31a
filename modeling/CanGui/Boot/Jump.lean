import CanGui.Boot.Control
/-!
# Boot jump — images and the handoff preflight

What validation reports about a slot's image, and the check the boot
target makes of it before it hands over control.
-/

namespace CanGui

namespace BootImage

open BootControl

/-! ## The slots -/

def imageHeaderSize : UInt32 := 1024
def imageVectorAlignment : UInt32 := 1024
def slotABaseAddress : UInt32 := 0x08020000
def slotARegionSize : UInt32 := 0x000E0000
def slotBBaseAddress : UInt32 := 0x08100000
def slotBRegionSize : UInt32 := 0x000E0000

structure ImageSlot where
  baseAddress : UInt32
  regionSize : UInt32
  deriving DecidableEq, Repr

def slotA : ImageSlot := ⟨slotABaseAddress, slotARegionSize⟩
def slotB : ImageSlot := ⟨slotBBaseAddress, slotBRegionSize⟩

structure ImageInfo where
  imageAddress : UInt32 := 0
  imageSize : UInt32 := 0
  vectorAddress : UInt32 := 0
  entryAddress : UInt32 := 0
  initialStackPointer : UInt32 := 0
  securityCounter : UInt32 := 0
  buildVersion : UInt32 := 0
  deriving DecidableEq, Repr

inductive ImageResult where
  | ok
  | invalidArgument
  | readFailed
  | badMagic
  | badFormat
  | badHeader
  | badFlags
  | sizeOutOfRange
  | vectorAddress
  | stackPointer
  | entryAddress
  | securityRollback
  | signatureInvalid
  | digestInvalid
  deriving DecidableEq, Repr

end BootImage

namespace BootJump

open BootImage

inductive JumpResult where
  | ok
  | invalidArgument
  | imageMismatch
  | quiesceFailed
  | branchReturned
  deriving DecidableEq, Repr

structure JumpPlan where
  vectorAddress : UInt32 := 0
  initialStackPointer : UInt32 := 0
  entryAddress : UInt32 := 0
  deriving DecidableEq, Repr

def isRangeValid (start length regionStart regionSize : UInt32) : Bool :=
  if length = 0 || start < regionStart then
    false
  else
    start - regionStart ≤ regionSize && length ≤ regionSize - (start - regionStart)

/-- The plan is all zeros unless the answer is `ok`. -/
def prepare (slot : ImageSlot) (imageInfo : ImageInfo) : JumpResult × JumpPlan :=
  if slot.regionSize < imageHeaderSize then
    (.invalidArgument, {})
  else if slot.baseAddress > 0xFFFFFFFF - imageHeaderSize then
    (.imageMismatch, {})
  else
    let expectedImageAddress := slot.baseAddress + imageHeaderSize
    if imageInfo.imageAddress ≠ expectedImageAddress ||
        imageInfo.vectorAddress ≠ expectedImageAddress ||
        imageInfo.vectorAddress % imageVectorAlignment ≠ 0 ||
        imageInfo.initialStackPointer &&& 7 ≠ 0 ||
        imageInfo.entryAddress &&& 1 = 0 ||
        !isRangeValid imageInfo.imageAddress imageInfo.imageSize slot.baseAddress
          slot.regionSize ||
        !isRangeValid (imageInfo.entryAddress &&& ~~~1) 2 imageInfo.imageAddress
          imageInfo.imageSize then
      (.imageMismatch, {})
    else
      (.ok,
        { vectorAddress := imageInfo.vectorAddress
          initialStackPointer := imageInfo.initialStackPointer
          entryAddress := imageInfo.entryAddress })

end BootJump

end CanGui
