import CanGui.Control.Slots
import CanGui.Rtc.Driver
/-!
# GUI commands — layout, validation and privilege

The thirteen commands, what makes a payload of theirs valid, and which of
them need the operator's button. The guard and the validator read the
payload independently of each other and of the handlers.
-/

namespace CanGui

namespace Command

open Control (isValidId)

/-! ## The commands -/

inductive Code where
  | setSlot1
  | setSlot2
  | ledControl
  | startSlot1Counter
  | startSlot2Counter
  | rtcSetTime
  | rtcSetDateTime
  | rtcSetAlarm
  | pwmSet
  | pwmSelfTest
  | logGetInfo
  | logReadSequence
  | tic12400SetPolarity
  deriving DecidableEq, Repr

/-- The case labels of the switches over `payload[0]`. -/
def Code.of (byte : UInt8) : Option Code :=
  match byte.toNat with
  | 0x01 => some .setSlot1
  | 0x02 => some .setSlot2
  | 0x10 => some .ledControl
  | 0x11 => some .startSlot1Counter
  | 0x12 => some .startSlot2Counter
  | 0x20 => some .rtcSetTime
  | 0x21 => some .rtcSetDateTime
  | 0x22 => some .rtcSetAlarm
  | 0x40 => some .pwmSet
  | 0x41 => some .pwmSelfTest
  | 0x30 => some .logGetInfo
  | 0x31 => some .logReadSequence
  | 0x50 => some .tic12400SetPolarity
  | _ => none

/-- `payload[0]`, as a command. -/
def codeOf (payload : Bytes) : Option Code := Code.of (payload.at' 0)

/-! ## The token -/

def tokenBit (crc : UInt8) : UInt8 :=
  if crc &&& 0x80 ≠ 0 then (crc <<< 1) ^^^ 0x1D else crc <<< 1

def tokenBits : (bits : Nat) → UInt8 → UInt8
  | 0, crc => crc
  | bits + 1, crc => tokenBits bits (tokenBit crc)

/-- `CAN_Protocol_CalculateCommandToken` -/
def calculateCommandToken (payload : Bytes) : UInt8 :=
  payload.foldl (fun (crc : UInt8) (byte : UInt8) => tokenBits 8 (crc ^^^ byte)) 0xFF ^^^ 0xFF

/-! ## Decoding -/

def rtcAlarmEnableSecond : UInt8 := 0x01
def rtcAlarmEnableMinute : UInt8 := 0x02
def rtcAlarmEnableHour : UInt8 := 0x04
def rtcAlarmEnableDay : UInt8 := 0x08
def rtcAlarmEnableWeekday : UInt8 := 0x10
def rtcAlarmEnableMask : UInt8 := 0x1F
def tic12400BatteryCapableMask : UInt32 := 0x3FF

/-- `CAN_Protocol_RtcAlarmCommand_t` -/
structure RtcAlarmCommand where
  enableMask : UInt8
  second : UInt8
  minute : UInt8
  hour : UInt8
  day : UInt8
  weekday : UInt8
  deriving DecidableEq, Repr

/-- A field of the alarm that is out of range, or set though it is not
enabled. -/
def alarmFieldInvalid (enabled : Bool) (value minimum maximum : UInt8) : Bool :=
  if enabled then decide (value < minimum) || decide (maximum < value) else value != 0

/-- `CAN_Protocol_DecodeRtcAlarmCommand` -/
def decodeRtcAlarmCommand (payload : Bytes) : Option RtcAlarmCommand :=
  let enableMask := payload.at' 1
  let enables (bit : UInt8) : Bool := enableMask &&& bit != 0
  if enableMask &&& ~~~rtcAlarmEnableMask ≠ 0 ∨ payload.at' 7 ≠ 0 then none
  else if alarmFieldInvalid (enables rtcAlarmEnableSecond) (payload.at' 2) 0 59 then none
  else if alarmFieldInvalid (enables rtcAlarmEnableMinute) (payload.at' 3) 0 59 then none
  else if alarmFieldInvalid (enables rtcAlarmEnableHour) (payload.at' 4) 0 23 then none
  else if alarmFieldInvalid (enables rtcAlarmEnableDay) (payload.at' 5) 1 31 then none
  else if alarmFieldInvalid (enables rtcAlarmEnableWeekday) (payload.at' 6) 0 6 then none
  else
    some {
      enableMask := enableMask
      second := payload.at' 2
      minute := payload.at' 3
      hour := payload.at' 4
      day := payload.at' 5
      weekday := payload.at' 6 }

/-- `CAN_Protocol_DecodeTic12400PolarityCommand` -/
def decodeTic12400PolarityCommand (payload : Bytes) : Option UInt32 :=
  let decodedMask := (payload.at' 1).toUInt32 ||| (payload.at' 2).toUInt32 <<< 8 |||
    (payload.at' 3).toUInt32 <<< 16
  if decodedMask &&& ~~~tic12400BatteryCapableMask ≠ 0 ∨ payload.at' 4 ≠ 0 ∨ payload.at' 5 ≠ 0 ∨
      payload.at' 6 ≠ 0 ∨ payload.at' 7 ≠ 0 then none
  else some decodedMask

/-- The date and time of `CMD_RTC_SET_DATETIME`. -/
def dateTimeOf (payload : Bytes) : Rtc.DateTime where
  hundredth := payload.at' 1
  second := payload.at' 2
  minute := payload.at' 3
  hour := payload.at' 4
  day := payload.at' 5
  weekday := payload.at' 6 >>> 5 &&& 0x07
  month := payload.at' 6 &&& 0x1F
  year := payload.at' 7

/-! ## Validation -/

/-- `CAN_CommandValidationResult_t` -/
inductive Validation where
  | valid
  | unknown
  | invalidPayload
  deriving DecidableEq, Repr

/-- These bytes of the payload are zero. -/
def reservedZero (payload : Bytes) (bytes : List Nat) : Bool :=
  bytes.all fun i => payload.at' i == 0

/-- What a payload of this command has to meet. -/
def validPayload (payload : Bytes) : Code → Bool
  | .setSlot1 | .setSlot2 =>
    payload.at' 1 &&& 0xFC == 0 &&
      isValidId (Control.Slot.commandedExtended payload) (readLe32 (payload.drop 2)) &&
      readLe16 (payload.drop 6) != 0
  | .startSlot1Counter | .startSlot2Counter => reservedZero payload [1, 6, 7]
  | .ledControl =>
    decide (1 ≤ payload.at' 1 ∧ payload.at' 1 ≤ 2) && decide (payload.at' 2 ≤ 1) &&
      reservedZero payload [3, 4, 5, 6, 7]
  | .rtcSetTime =>
    decide (payload.at' 1 ≤ 23 ∧ payload.at' 2 ≤ 59 ∧ payload.at' 3 ≤ 59) &&
      reservedZero payload [4, 5, 6, 7]
  | .rtcSetDateTime => (dateTimeOf payload).isValid
  | .rtcSetAlarm => (decodeRtcAlarmCommand payload).isSome
  | .logGetInfo => reservedZero payload [1, 2, 3, 4, 5, 6, 7]
  | .logReadSequence => readLe32 (payload.drop 1) != 0 && reservedZero payload [5, 6, 7]
  | .pwmSet =>
    decide (readLe32 (payload.drop 1) ≤ 1000000) && decide (payload.at' 5 ≤ 100) &&
      reservedZero payload [6, 7]
  | .pwmSelfTest => decide (payload.at' 1 ≤ 1) && reservedZero payload [2, 3, 4, 5, 6, 7]
  | .tic12400SetPolarity => (decodeTic12400PolarityCommand payload).isSome

/-- `CAN_CommandValidation_Validate` -/
def validate (payload : Bytes) : Validation :=
  match codeOf payload with
  | none => .unknown
  | some code => if validPayload payload code then .valid else .invalidPayload

/-- `CAN_CommandGuard_IsPrivileged` -/
def isPrivileged (payload : Bytes) : Bool :=
  match codeOf payload with
  | some .logGetInfo | some .logReadSequence => false
  | some .setSlot1 | some .setSlot2 => payload.at' 1 &&& Control.slotFlagEnable != 0
  | some .startSlot1Counter | some .startSlot2Counter => readLe32 (payload.drop 2) != 0
  | some .ledControl => payload.at' 2 != 0
  | some .pwmSet => readLe32 (payload.drop 1) != 0
  | some .pwmSelfTest => payload.at' 1 != 0
  | some .tic12400SetPolarity => true
  | _ => true

theorem validate_valid_iff {payload : Bytes} : validate payload = .valid ↔
    ∃ code, codeOf payload = some code ∧ validPayload payload code = true := by
  unfold validate
  cases codeOf payload with
  | none => exact ⟨nofun, nofun⟩
  | some code => cases hvalid : validPayload payload code <;> simp [hvalid]

end Command

end CanGui
