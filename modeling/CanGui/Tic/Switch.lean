import CanGui.Common.Words
/-!
# TIC12400 — the profile of the inputs and the switch filter

Which inputs are enabled and connected to the battery, how a comparator
reading becomes a mask of closed switches, and the filter that counts a
generation for each change.
-/

namespace CanGui

namespace Tic

def profileChannelMask : UInt32 := 0x00FFFFFF
def profileBatteryCapableMask : UInt32 := 0x000003FF
def profileCarrierFittedMask : UInt32 := 0x00FFEFFF
def switchMask : UInt32 := 0x00FFFFFF

structure Profile where
  enabledMask : UInt32 := 0
  batterySwitchMask : UInt32 := 0
  deriving DecidableEq, Repr

inductive ProfileResult where
  | ok
  | inputNotFitted
  | batteryInputUnsupported
  | inputDisabled
  deriving DecidableEq, Repr

def carrierBinary : Profile := { enabledMask := profileCarrierFittedMask, batterySwitchMask := 0 }

def Profile.validate (profile : Profile) (fittedMask : UInt32) : ProfileResult :=
  let fitted := fittedMask &&& profileChannelMask
  if profile.enabledMask &&& ~~~fitted ≠ 0 then .inputNotFitted
  else if profile.batterySwitchMask &&& ~~~profileBatteryCapableMask ≠ 0 then
    .batteryInputUnsupported
  else if profile.batterySwitchMask &&& ~~~profile.enabledMask ≠ 0 then .inputDisabled
  else .ok

/-- Ground switches are closed below the threshold, battery switches above. -/
def Profile.decodeComparatorClosed (profile : Profile) (comparatorAboveMask : UInt32) : UInt32 :=
  let enabled := profile.enabledMask &&& profileChannelMask
  let batteryInputs := profile.batterySwitchMask &&& enabled
  let groundInputs := enabled &&& ~~~batteryInputs
  let comparatorAboveMask := comparatorAboveMask &&& profileChannelMask
  ((~~~comparatorAboveMask &&& groundInputs) ||| (comparatorAboveMask &&& batteryInputs)) &&& enabled

/-- Two bits for each enabled channel of the twelve from the first. -/
def Profile.buildComparatorInterruptEnable (profile : Profile) (firstChannel : Nat) : UInt32 :=
  if firstChannel ≠ 0 ∧ firstChannel ≠ 12 then 0
  else
    (List.range 12).foldl (fun value field =>
      if profile.enabledMask &&& UInt32.ofNat (2 ^ (firstChannel + field)) ≠ 0 then
        value ||| UInt32.ofNat (3 * 2 ^ (field * 2))
      else
        value) 0

structure SwitchFilter where
  stableClosedMask : UInt32 := 0
  validMask : UInt32 := 0
  lastChangeMask : UInt32 := 0
  generation : UInt8 := 0
  deriving DecidableEq, Repr

/-- A debounced reading. The flag says whether anything changed. -/
def SwitchFilter.commitDebouncedMask (filter : SwitchFilter) (closedMask fittedMask : UInt32) :
    Bool × SwitchFilter :=
  let fitted := fittedMask &&& switchMask
  let closedMask := closedMask &&& fitted
  let filter := { filter with lastChangeMask := 0 }
  if filter.validMask ≠ fitted then
    (true, { filter with
      stableClosedMask := closedMask
      validMask := fitted
      generation := filter.generation + 1 })
  else
    let changedMask := (filter.stableClosedMask ^^^ closedMask) &&& fitted
    if changedMask = 0 then
      (false, filter)
    else
      (true, { filter with
        stableClosedMask := closedMask
        lastChangeMask := changedMask
        generation := filter.generation + 1 })

end Tic

end CanGui
