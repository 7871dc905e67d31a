import CanGui.Common.Run
import CanGui.Control.Policy
import Mathlib.Data.List.Induction
/-!
# Control policy — what is left of a history

The policy takes switch data and requests in any order. Its snapshot
tells only the last value of each input; how it came about shows in
the number of updates alone.
-/

namespace CanGui

namespace Control

/-- An operation on the policy, with the arguments of its call. -/
inductive Operation where
  | updateSwitches (dataValid : UInt8) (closedSwitchMask : UInt32)
  | setLedRequest (ledNumber requestedOn : UInt8)
  | setPwmRequest (requestedOn : UInt8)
  | setSlotRequest (slotNumber requestedOn : UInt8)
  deriving DecidableEq, Repr

inductive Output where
  | led1
  | led2
  | pwm
  | slot1
  | slot2
  deriving DecidableEq, Repr

namespace Operation

/-- The call. -/
def apply (policy : Policy) : Operation → Policy
  | updateSwitches dataValid closedSwitchMask =>
    policy.updateSwitches (dataValid != 0) closedSwitchMask
  | setLedRequest ledNumber requestedOn => policy.setLedRequest ledNumber (requestedOn != 0)
  | setPwmRequest requestedOn => policy.setPwmRequest (requestedOn != 0)
  | setSlotRequest slotNumber requestedOn =>
    policy.setSlotRequest slotNumber.toNat (requestedOn != 0)

/-- The switch data that an operation gives: invalid data closes nothing. -/
def switchData : Operation → Option (Bool × UInt32)
  | updateSwitches dataValid closedSwitchMask =>
    some (dataValid != 0, if dataValid != 0 then closedSwitchMask else 0)
  | _ => none

/-- The request that an operation gives for an output. -/
def request : Output → Operation → Option Bool
  | .led1, setLedRequest 1 requestedOn => some (requestedOn != 0)
  | .led2, setLedRequest 2 requestedOn => some (requestedOn != 0)
  | .pwm, setPwmRequest requestedOn => some (requestedOn != 0)
  | .slot1, setSlotRequest 1 requestedOn => some (requestedOn != 0)
  | .slot2, setSlotRequest 2 requestedOn => some (requestedOn != 0)
  | _, _ => none

/-- The last value that the operations give for an input. -/
def last {α : Type} (gives : Operation → Option α) (start : α) (operations : List Operation) : α :=
  (operations.filterMap gives).getLast?.getD start

theorem last_append {α : Type} (gives : Operation → Option α) (start : α)
    (operations : List Operation) (operation : Operation) :
    last gives start (operations ++ [operation]) =
      (gives operation).getD (last gives start operations) := by
  unfold last
  rw [List.filterMap_append]
  cases h : gives operation with
  | none => simp [h]
  | some value => simp [h]

end Operation

/-- The inputs of the policy. -/
structure Inputs where
  switchDataValid : Bool := false
  closedSwitchMask : UInt32 := 0
  requested : Policy.Requests := ⟨false, false, false, false, false⟩
  deriving DecidableEq, Repr

namespace Inputs

/-- The last value that the operations give for each input. -/
def last (operations : List Operation) : Inputs where
  switchDataValid := (Operation.last Operation.switchData (false, 0) operations).1
  closedSwitchMask := (Operation.last Operation.switchData (false, 0) operations).2
  requested :=
    { led1 := Operation.last (Operation.request .led1) false operations
      led2 := Operation.last (Operation.request .led2) false operations
      pwm := Operation.last (Operation.request .pwm) false operations
      slot1 := Operation.last (Operation.request .slot1) false operations
      slot2 := Operation.last (Operation.request .slot2) false operations }

/-- The inputs after one more operation. -/
def after (inputs : Inputs) (operation : Operation) : Inputs where
  switchDataValid := (operation.switchData.getD (inputs.switchDataValid,
    inputs.closedSwitchMask)).1
  closedSwitchMask := (operation.switchData.getD (inputs.switchDataValid,
    inputs.closedSwitchMask)).2
  requested :=
    { led1 := (operation.request .led1).getD inputs.requested.led1
      led2 := (operation.request .led2).getD inputs.requested.led2
      pwm := (operation.request .pwm).getD inputs.requested.pwm
      slot1 := (operation.request .slot1).getD inputs.requested.slot1
      slot2 := (operation.request .slot2).getD inputs.requested.slot2 }

theorem last_append (operations : List Operation) (operation : Operation) :
    last (operations ++ [operation]) = (last operations).after operation := by
  unfold last
  simp only [Operation.last_append]
  rfl

/-- The switch data is valid and shows the switch of an input closed. -/
def closed (inputs : Inputs) (input : Nat) : Bool :=
  inputs.switchDataValid && inputs.closedSwitchMask &&& (1 <<< UInt32.ofNat input) != 0

/-- The switch data is valid and shows the switch of an input open. -/
def isOpen (inputs : Inputs) (input : Nat) : Bool :=
  inputs.switchDataValid && inputs.closedSwitchMask &&& (1 <<< UInt32.ofNat input) == 0

/-- **What the inputs alone make of the snapshot.** -/
def snapshot (inputs : Inputs) : Policy where
  closedSwitchMask := inputs.closedSwitchMask
  switchDataValid := inputs.switchDataValid
  led1Requested := inputs.requested.led1
  led2Requested := inputs.requested.led2
  pwmRequested := inputs.requested.pwm
  slot1Requested := inputs.requested.slot1
  slot2Requested := inputs.requested.slot2
  led1Effective := inputs.requested.led1 || inputs.closed led1Input
  led2Effective := inputs.requested.led2
  pwmEffective := inputs.requested.pwm && inputs.isOpen pwmInput
  slot1Effective := inputs.requested.slot1 && inputs.isOpen slot1Input
  slot2Effective := inputs.requested.slot2 && inputs.isOpen slot2Input
  pwmPermitted := inputs.isOpen pwmInput
  slot1Permitted := inputs.isOpen slot1Input
  slot2Permitted := inputs.isOpen slot2Input
  led1Overridden := inputs.closed led1Input && !inputs.requested.led1
  pwmBlocked := inputs.requested.pwm && !inputs.isOpen pwmInput
  slot1Blocked := inputs.requested.slot1 && !inputs.isOpen slot1Input
  slot2Blocked := inputs.requested.slot2 && !inputs.isOpen slot2Input

end Inputs

namespace Policy

/-- The inputs as the policy holds them. -/
def inputs (policy : Policy) : Inputs :=
  ⟨policy.switchDataValid, policy.closedSwitchMask, policy.requests⟩

theorem permits_eq (policy : Policy) (input : Nat) :
    policy.permits input = policy.inputs.isOpen input := by
  unfold permits isClosed Inputs.isOpen inputs
  cases policy.switchDataValid <;> simp [bne]

/-- The recalculation derives every field from the inputs. -/
theorem recalculate_eq (policy : Policy) :
    policy.recalculate = { policy.inputs.snapshot with updateCount := policy.updateCount } := by
  unfold recalculate
  simp only [permits_eq]
  rfl

/-- Every field follows from the inputs. -/
def Current (policy : Policy) : Prop :=
  policy = { policy.inputs.snapshot with updateCount := policy.updateCount }

/-- The policy after an operation, by its inputs and its count. -/
def next (policy : Policy) (operation : Operation) : Policy :=
  { (policy.inputs.after operation).snapshot with
    updateCount := policy.updateCount +
      if policy.inputs.after operation = policy.inputs then 0 else 1 }

/-- A request that is set, counted where it is another one, and followed
by a recalculation. -/
theorem recalculate_count {policy changed : Policy} {inputs : Inputs} {requested requestedOn : Bool}
    (hinputs : changed.inputs = inputs)
    (hcount : changed.updateCount = (policy.count requested requestedOn).updateCount)
    (hsame : inputs = policy.inputs ↔ requested = requestedOn) :
    changed.recalculate = { inputs.snapshot with
      updateCount := policy.updateCount + if inputs = policy.inputs then 0 else 1 } := by
  rw [recalculate_eq, hinputs, hcount]
  unfold count
  by_cases h : requested = requestedOn
  · rw [if_neg (not_not.2 h), if_pos (hsame.2 h), UInt32.add_zero]
  · rw [if_pos h, if_neg (mt hsame.1 h)]

def requested (policy : Policy) : Output → Bool
  | .led1 => policy.led1Requested
  | .led2 => policy.led2Requested
  | .pwm => policy.pwmRequested
  | .slot1 => policy.slot1Requested
  | .slot2 => policy.slot2Requested

/-- The request of one output is set. -/
def set (policy : Policy) (output : Output) (requestedOn : Bool) : Policy :=
  match output with
  | .led1 => { policy with led1Requested := requestedOn }
  | .led2 => { policy with led2Requested := requestedOn }
  | .pwm => { policy with pwmRequested := requestedOn }
  | .slot1 => { policy with slot1Requested := requestedOn }
  | .slot2 => { policy with slot2Requested := requestedOn }

/-- An operation that requests one output, as its call does it. -/
theorem recalculate_set (policy : Policy) (output : Output) {requestedOn : Bool}
    {operation : Operation} (hnone : operation.switchData = none)
    (hrequest : ∀ other,
      operation.request other = if other = output then some requestedOn else none) :
    ((policy.count (policy.requested output) requestedOn).set output requestedOn).recalculate =
      policy.next operation := by
  have hafter : policy.inputs.after operation = (policy.set output requestedOn).inputs := by
    unfold Inputs.after
    simp only [hnone, hrequest]
    cases output <;> rfl
  unfold next
  rw [hafter]
  apply @recalculate_count policy _ _ (policy.requested output) requestedOn
  · unfold count
    split
    · cases output <;> rfl
    · rfl
  · cases output <;> rfl
  · cases output <;> simp [set, requested, inputs, requests, eq_comm]

theorem apply_setPwmRequest (policy : Policy) (requestedOn : UInt8) :
    (Operation.setPwmRequest requestedOn).apply policy =
      policy.next (.setPwmRequest requestedOn) :=
  recalculate_set policy .pwm rfl fun other => by cases other <;> rfl

/-- An operation that gives no input is none. -/
theorem next_of_same {policy : Policy} (hcurrent : policy.Current) {operation : Operation}
    (hsame : policy.inputs.after operation = policy.inputs) : policy = policy.next operation := by
  unfold next
  rw [hsame, if_pos rfl, UInt32.add_zero]
  exact hcurrent

theorem apply_setLedRequest {policy : Policy} (hcurrent : policy.Current)
    (ledNumber requestedOn : UInt8) :
    (Operation.setLedRequest ledNumber requestedOn).apply policy =
      policy.next (.setLedRequest ledNumber requestedOn) := by
  by_cases hone : ledNumber = 1
  · subst hone
    exact recalculate_set policy .led1 rfl fun other => by cases other <;> rfl
  by_cases htwo : ledNumber = 2
  · subst htwo
    exact recalculate_set policy .led2 rfl fun other => by cases other <;> rfl
  have hnone : (Operation.setLedRequest ledNumber requestedOn).apply policy = policy :=
    (if_neg hone).trans (if_neg htwo)
  rw [hnone]
  apply next_of_same hcurrent
  simp [Inputs.after, Operation.switchData, Operation.request, hone, htwo, inputs, requests]

theorem apply_setSlotRequest {policy : Policy} (hcurrent : policy.Current)
    (slotNumber requestedOn : UInt8) :
    (Operation.setSlotRequest slotNumber requestedOn).apply policy =
      policy.next (.setSlotRequest slotNumber requestedOn) := by
  by_cases hone : slotNumber = 1
  · subst hone
    exact recalculate_set policy .slot1 rfl fun other => by cases other <;> rfl
  by_cases htwo : slotNumber = 2
  · subst htwo
    exact recalculate_set policy .slot2 rfl fun other => by cases other <;> rfl
  have hnone : (Operation.setSlotRequest slotNumber requestedOn).apply policy = policy := by
    have hone' : slotNumber.toNat ≠ 1 := fun h => hone (UInt8.toNat_inj.1 h)
    have htwo' : slotNumber.toNat ≠ 2 := fun h => htwo (UInt8.toNat_inj.1 h)
    exact (if_neg hone').trans (if_neg htwo')
  rw [hnone]
  apply next_of_same hcurrent
  simp [Inputs.after, Operation.switchData, Operation.request, hone, htwo, inputs, requests]

theorem apply_updateSwitches (policy : Policy) (dataValid : UInt8) (closedSwitchMask : UInt32) :
    (Operation.updateSwitches dataValid closedSwitchMask).apply policy =
      policy.next (.updateSwitches dataValid closedSwitchMask) := by
  have hafter : policy.inputs.after (.updateSwitches dataValid closedSwitchMask) =
      ⟨dataValid != 0, if (dataValid != 0) = true then closedSwitchMask else 0, policy.requests⟩ :=
    rfl
  unfold next
  rw [hafter]
  change Policy.updateSwitches policy (dataValid != 0) closedSwitchMask = _
  unfold updateSwitches
  dsimp only
  generalize (if (dataValid != 0) = true then closedSwitchMask else 0) = mask
  generalize (dataValid != 0) = valid
  by_cases hchange : policy.switchDataValid ≠ valid ∨ policy.closedSwitchMask ≠ mask
  · have hdiffer : (⟨valid, mask, policy.requests⟩ : Inputs) ≠ policy.inputs := by
      intro h
      rcases hchange with hvalid | hmask
      · exact hvalid (congrArg Inputs.switchDataValid h).symm
      · exact hmask (congrArg Inputs.closedSwitchMask h).symm
    rw [if_pos hchange, if_neg hdiffer]
    exact recalculate_eq _
  · obtain ⟨hvalid, hmask⟩ := not_or.1 hchange
    have hsame : (⟨valid, mask, policy.requests⟩ : Inputs) = policy.inputs := by
      rw [← not_not.1 hvalid, ← not_not.1 hmask]
      rfl
    rw [if_neg hchange, if_pos hsame, hsame, UInt32.add_zero]
    exact recalculate_eq policy

/-- **One operation**: the snapshot follows from the inputs after it, and
a change of these is counted. -/
theorem apply_eq_next {policy : Policy} (hcurrent : policy.Current) (operation : Operation) :
    operation.apply policy = policy.next operation := by
  cases operation with
  | updateSwitches dataValid closedSwitchMask =>
    exact apply_updateSwitches policy dataValid closedSwitchMask
  | setLedRequest ledNumber requestedOn => exact apply_setLedRequest hcurrent ledNumber requestedOn
  | setPwmRequest requestedOn => exact apply_setPwmRequest policy requestedOn
  | setSlotRequest slotNumber requestedOn =>
    exact apply_setSlotRequest hcurrent slotNumber requestedOn

end Policy

/-! ## Every history -/

/-- The policy after a list of operations. -/
def afterAll (operations : List Operation) : Policy := run (fun p o => o.apply p) {} operations

/-- How many of the operations change an input. -/
def changes (operations : List Operation) : Nat :=
  ((List.range operations.length).filter fun k =>
    Inputs.last (operations.take (k + 1)) ≠ Inputs.last (operations.take k)).length

theorem changes_append (operations : List Operation) (operation : Operation) :
    changes (operations ++ [operation]) = changes operations +
      if (Inputs.last operations).after operation = Inputs.last operations then 0 else 1 := by
  have hearlier : ∀ k ∈ List.range operations.length,
      (decide (Inputs.last ((operations ++ [operation]).take (k + 1)) ≠
        Inputs.last ((operations ++ [operation]).take k))) =
      decide (Inputs.last (operations.take (k + 1)) ≠ Inputs.last (operations.take k)) := by
    intro k hk
    have hlt := List.mem_range.1 hk
    rw [List.take_append_of_le_length (by omega), List.take_append_of_le_length (by omega)]
  have hfull : (operations ++ [operation]).take (operations.length + 1) =
      operations ++ [operation] := List.take_of_length_le (by simp)
  have hlast : (operations ++ [operation]).take operations.length = operations :=
    List.take_left
  unfold changes
  rw [List.length_append, List.length_singleton, List.range_succ, List.filter_append,
    List.length_append, List.filter_congr hearlier, List.filter_singleton, hfull, hlast,
    Inputs.last_append]
  by_cases h : (Inputs.last operations).after operation = Inputs.last operations
  · simp [h]
  · simp [h]

/-- **The run**: the snapshot is that of the last inputs, with the changes
counted. -/
theorem afterAll_eq (operations : List Operation) :
    afterAll operations = { (Inputs.last operations).snapshot with
      updateCount := UInt32.ofNat (changes operations) } := by
  induction operations using List.reverseRecOn with
  | nil => rfl
  | append_singleton operations operation ih =>
    have hstep : afterAll (operations ++ [operation]) = operation.apply (afterAll operations) :=
      run_append _ _ _
    have hinputs : (afterAll operations).inputs = Inputs.last operations := by
      rw [ih]
      rfl
    have hcurrent : (afterAll operations).Current := by
      unfold Policy.Current
      rw [hinputs, ih]
    rw [hstep, Policy.apply_eq_next hcurrent, Policy.next, hinputs, Inputs.last_append,
      changes_append, UInt32.ofNat_add, ih]
    split <;> rfl

/-- **The snapshot has no history**: every field but the count is a
function of the last value of each input, so operations with the same
last values leave the same fields; a slot or the PWM output is effective
only if it is asked for while valid switch data shows its inhibit input
open; and the count is that of the operations that changed an input. -/
theorem snapshot_of_last (operations : List Operation) :
    { afterAll operations with updateCount := 0 } = (Inputs.last operations).snapshot ∧
      (∀ other, Inputs.last other = Inputs.last operations →
        { afterAll other with updateCount := 0 } =
          { afterAll operations with updateCount := 0 }) ∧
      ((afterAll operations).pwmEffective = true ↔
        (Inputs.last operations).requested.pwm = true ∧
          (Inputs.last operations).isOpen pwmInput = true) ∧
      ((afterAll operations).slot1Effective = true ↔
        (Inputs.last operations).requested.slot1 = true ∧
          (Inputs.last operations).isOpen slot1Input = true) ∧
      ((afterAll operations).slot2Effective = true ↔
        (Inputs.last operations).requested.slot2 = true ∧
          (Inputs.last operations).isOpen slot2Input = true) ∧
      (afterAll operations).updateCount = UInt32.ofNat (changes operations) ∧
      ∀ operation, (afterAll (operations ++ [operation])).updateCount =
        (afterAll operations).updateCount +
          if Inputs.last (operations ++ [operation]) = Inputs.last operations then 0 else 1 := by
  have hfields : ∀ ops, { afterAll ops with updateCount := 0 } = (Inputs.last ops).snapshot := by
    intro ops
    rw [afterAll_eq]
    rfl
  refine ⟨hfields operations, ?_, ?_, ?_, ?_, ?_, ?_⟩
  · intro other hsame
    rw [hfields, hfields, hsame]
  · rw [afterAll_eq]
    exact Bool.and_eq_true_iff
  · rw [afterAll_eq]
    exact Bool.and_eq_true_iff
  · rw [afterAll_eq]
    exact Bool.and_eq_true_iff
  · rw [afterAll_eq]
  · intro operation
    rw [afterAll_eq, afterAll_eq, changes_append, UInt32.ofNat_add, Inputs.last_append]
    split <;> rfl

end Control

end CanGui
