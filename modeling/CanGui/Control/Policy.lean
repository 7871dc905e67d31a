/-!
# Control policy — what is asked for and what the switches allow

The GUI asks for the LEDs, the PWM output and the two slots; a closed
switch of the TIC12400 overrides or inhibits what it is mapped to.
-/

namespace CanGui

namespace Control

def led1Input : Nat := 0
def pwmInput : Nat := 1
def slot1Input : Nat := 2
def slot2Input : Nat := 3

/-- `App_ControlPolicySnapshot_t` -/
structure Policy where
  closedSwitchMask : UInt32 := 0
  updateCount : UInt32 := 0
  switchDataValid : Bool := false
  led1Requested : Bool := false
  led2Requested : Bool := false
  pwmRequested : Bool := false
  slot1Requested : Bool := false
  slot2Requested : Bool := false
  led1Effective : Bool := false
  led2Effective : Bool := false
  pwmEffective : Bool := false
  slot1Effective : Bool := false
  slot2Effective : Bool := false
  pwmPermitted : Bool := false
  slot1Permitted : Bool := false
  slot2Permitted : Bool := false
  led1Overridden : Bool := false
  pwmBlocked : Bool := false
  slot1Blocked : Bool := false
  slot2Blocked : Bool := false
  deriving DecidableEq, Repr

namespace Policy

/-- `App_ControlPolicy_IsClosed` -/
def isClosed (policy : Policy) (input : Nat) : Bool :=
  policy.switchDataValid && policy.closedSwitchMask &&& (1 <<< UInt32.ofNat input) != 0

/-- A switch of this input permits its function. -/
def permits (policy : Policy) (input : Nat) : Bool :=
  policy.switchDataValid && !policy.isClosed input

/-- `App_ControlPolicy_Recalculate` -/
def recalculate (policy : Policy) : Policy :=
  let led1Override := policy.isClosed led1Input
  { policy with
    led1Effective := policy.led1Requested || led1Override
    led2Effective := policy.led2Requested
    pwmPermitted := policy.permits pwmInput
    slot1Permitted := policy.permits slot1Input
    slot2Permitted := policy.permits slot2Input
    pwmEffective := policy.pwmRequested && policy.permits pwmInput
    slot1Effective := policy.slot1Requested && policy.permits slot1Input
    slot2Effective := policy.slot2Requested && policy.permits slot2Input
    led1Overridden := led1Override && !policy.led1Requested
    pwmBlocked := policy.pwmRequested && !policy.permits pwmInput
    slot1Blocked := policy.slot1Requested && !policy.permits slot1Input
    slot2Blocked := policy.slot2Requested && !policy.permits slot2Input }

/-- `App_ControlPolicy_UpdateSwitches` -/
def updateSwitches (policy : Policy) (dataValid : Bool) (closedSwitchMask : UInt32) : Policy :=
  let mask := if dataValid then closedSwitchMask else 0
  let policy :=
    if policy.switchDataValid ≠ dataValid ∨ policy.closedSwitchMask ≠ mask then
      { policy with
        switchDataValid := dataValid
        closedSwitchMask := mask
        updateCount := policy.updateCount + 1 }
    else policy
  policy.recalculate

/-! ## Requests -/

/-- A change of a request is counted. -/
def count (policy : Policy) (requested requestedOn : Bool) : Policy :=
  if requested ≠ requestedOn then { policy with updateCount := policy.updateCount + 1 } else policy

/-- `App_ControlPolicy_SetLedRequest` -/
def setLedRequest (policy : Policy) (ledNumber : UInt8) (requestedOn : Bool) : Policy :=
  if ledNumber = 1 then
    let policy := policy.count policy.led1Requested requestedOn
    { policy with led1Requested := requestedOn }.recalculate
  else if ledNumber = 2 then
    let policy := policy.count policy.led2Requested requestedOn
    { policy with led2Requested := requestedOn }.recalculate
  else policy

/-- `App_ControlPolicy_SetPwmRequest` -/
def setPwmRequest (policy : Policy) (requestedOn : Bool) : Policy :=
  let policy := policy.count policy.pwmRequested requestedOn
  { policy with pwmRequested := requestedOn }.recalculate

/-- `App_ControlPolicy_SetSlotRequest` -/
def setSlotRequest (policy : Policy) (slotNumber : Nat) (requestedOn : Bool) : Policy :=
  if slotNumber = 1 then
    let policy := policy.count policy.slot1Requested requestedOn
    { policy with slot1Requested := requestedOn }.recalculate
  else if slotNumber = 2 then
    let policy := policy.count policy.slot2Requested requestedOn
    { policy with slot2Requested := requestedOn }.recalculate
  else policy

/-- The five requests. -/
structure Requests where
  led1 : Bool
  led2 : Bool
  pwm : Bool
  slot1 : Bool
  slot2 : Bool
  deriving DecidableEq, Repr

def requests (policy : Policy) : Requests where
  led1 := policy.led1Requested
  led2 := policy.led2Requested
  pwm := policy.pwmRequested
  slot1 := policy.slot1Requested
  slot2 := policy.slot2Requested

/-- Some request is on here and was not there. -/
def Requests.rises (before after : Requests) : Bool :=
  (!before.led1 && after.led1) || (!before.led2 && after.led2) || (!before.pwm && after.pwm) ||
    (!before.slot1 && after.slot1) || (!before.slot2 && after.slot2)

@[simp] theorem Requests.rises_self (requests : Requests) : requests.rises requests = false := by
  simp [Requests.rises]

/-- A request that is on in the end and was not at the start came on in
one of two steps. -/
theorem Requests.rises_trans {before between after : Requests}
    (h : before.rises after = true) : before.rises between = true ∨ between.rises after = true := by
  simp only [rises, Bool.or_eq_true, Bool.and_eq_true, Bool.not_eq_true'] at *
  grind

@[simp] theorem requests_recalculate (policy : Policy) :
    policy.recalculate.requests = policy.requests := rfl

@[simp] theorem requests_count (policy : Policy) (requested requestedOn : Bool) :
    (policy.count requested requestedOn).requests = policy.requests := by
  unfold count
  split <;> rfl

/-- **A request sets itself and no other.** -/
theorem requests_setPwmRequest (policy : Policy) (requestedOn : Bool) :
    (policy.setPwmRequest requestedOn).requests =
      { policy.requests with pwm := requestedOn } := by
  have hcount := requests_count policy policy.pwmRequested requestedOn
  unfold setPwmRequest
  generalize policy.count policy.pwmRequested requestedOn = counted at *
  rw [requests_recalculate, ← hcount]
  rfl

theorem pwmRequested_setPwmRequest (policy : Policy) (requestedOn : Bool) :
    (policy.setPwmRequest requestedOn).pwmRequested = requestedOn :=
  congrArg Requests.pwm (requests_setPwmRequest policy requestedOn)

theorem requests_setSlotRequest_one (policy : Policy) (requestedOn : Bool) :
    (policy.setSlotRequest 1 requestedOn).requests =
      { policy.requests with slot1 := requestedOn } := by
  have hcount := requests_count policy policy.slot1Requested requestedOn
  unfold setSlotRequest
  rw [if_pos rfl]
  generalize policy.count policy.slot1Requested requestedOn = counted at *
  rw [requests_recalculate, ← hcount]
  rfl

theorem requests_setSlotRequest_two (policy : Policy) (requestedOn : Bool) :
    (policy.setSlotRequest 2 requestedOn).requests =
      { policy.requests with slot2 := requestedOn } := by
  have hcount := requests_count policy policy.slot2Requested requestedOn
  unfold setSlotRequest
  rw [if_neg (by decide), if_pos rfl]
  generalize policy.count policy.slot2Requested requestedOn = counted at *
  rw [requests_recalculate, ← hcount]
  rfl

theorem slot1Requested_setSlotRequest (policy : Policy) (requestedOn : Bool) :
    (policy.setSlotRequest 1 requestedOn).slot1Requested = requestedOn :=
  congrArg Requests.slot1 (requests_setSlotRequest_one policy requestedOn)

theorem slot2Requested_setSlotRequest (policy : Policy) (requestedOn : Bool) :
    (policy.setSlotRequest 2 requestedOn).slot2Requested = requestedOn :=
  congrArg Requests.slot2 (requests_setSlotRequest_two policy requestedOn)

/-- The request of a slot leaves that of the other alone. -/
theorem slot2Requested_setSlotRequest_one (policy : Policy) (requestedOn : Bool) :
    (policy.setSlotRequest 1 requestedOn).slot2Requested = policy.slot2Requested :=
  congrArg Requests.slot2 (requests_setSlotRequest_one policy requestedOn)

theorem slot1Requested_setSlotRequest_two (policy : Policy) (requestedOn : Bool) :
    (policy.setSlotRequest 2 requestedOn).slot1Requested = policy.slot1Requested :=
  congrArg Requests.slot1 (requests_setSlotRequest_two policy requestedOn)

theorem slotRequested_setPwmRequest (policy : Policy) (requestedOn : Bool) :
    (policy.setPwmRequest requestedOn).slot1Requested = policy.slot1Requested ∧
      (policy.setPwmRequest requestedOn).slot2Requested = policy.slot2Requested :=
  ⟨congrArg Requests.slot1 (requests_setPwmRequest policy requestedOn),
    congrArg Requests.slot2 (requests_setPwmRequest policy requestedOn)⟩

theorem requests_setLedRequest (policy : Policy) (ledNumber : UInt8) (requestedOn : Bool) :
    (policy.setLedRequest ledNumber requestedOn).requests =
      { policy.requests with
        led1 := if ledNumber = 1 then requestedOn else policy.requests.led1
        led2 := if ledNumber = 2 then requestedOn else policy.requests.led2 } := by
  unfold setLedRequest
  split
  · next hone =>
    subst hone
    have hcount := requests_count policy policy.led1Requested requestedOn
    generalize policy.count policy.led1Requested requestedOn = counted at *
    rw [requests_recalculate, ← hcount]
    rfl
  · next hone =>
    split
    · next htwo =>
      subst htwo
      have hcount := requests_count policy policy.led2Requested requestedOn
      generalize policy.count policy.led2Requested requestedOn = counted at *
      rw [requests_recalculate, ← hcount]
      rfl
    · rfl

theorem slotRequested_setLedRequest (policy : Policy) (ledNumber : UInt8) (requestedOn : Bool) :
    (policy.setLedRequest ledNumber requestedOn).slot1Requested = policy.slot1Requested ∧
      (policy.setLedRequest ledNumber requestedOn).slot2Requested = policy.slot2Requested :=
  ⟨congrArg Requests.slot1 (requests_setLedRequest policy ledNumber requestedOn),
    congrArg Requests.slot2 (requests_setLedRequest policy ledNumber requestedOn)⟩

end Policy

end Control

end CanGui
