import CanGui.Command.Protocol
import Mathlib.Data.List.Forall2
/-!
# GUI command encoders

The controllers of the GUI and the firmware's validator lay a command out
independently. The controllers check some of what they are given and leave
the rest to the input widgets; `agrees_of_inRange` says that what is in the
widgets' ranges and passes the checks is valid to the firmware and decodes
to what was asked for.
-/

namespace CanGui

namespace Command

namespace Gui

/-! ## What the GUI is asked for -/

inductive IdType where
  | standard
  | extended
  deriving DecidableEq, Repr

/-- One field of an alarm; its value does not count unless it is
enabled. -/
structure AlarmField where
  enabled : Bool
  value : ℤ
  deriving DecidableEq, Repr

structure AlarmRequest where
  second : AlarmField
  minute : AlarmField
  hour : AlarmField
  day : AlarmField
  weekday : AlarmField
  deriving DecidableEq, Repr

structure DateTimeRequest where
  hundredth : ℤ
  second : ℤ
  minute : ℤ
  hour : ℤ
  day : ℤ
  month : ℤ
  fullYear : ℤ
  autoWeekday : Bool
  weekday : ℤ
  deriving DecidableEq, Repr

/-- A call of a controller: its arguments are Python's integers. -/
inductive Request where
  | slot (slotNo : ℤ) (canIdText : String) (idType : IdType) (cycleTime counter : ℤ)
  | led (ledNo state : ℤ)
  | pwm (frequencyHz dutyPercent : ℤ) (enabled : Bool)
  | pwmSelfTest (start : Bool)
  | alarm (fields : AlarmRequest)
  | disableAlarm
  | dateTime (fields : DateTimeRequest)
  | polarity (batterySwitchMask : ℤ)
  | logInfo
  | logRecord (sequence : ℤ)
  deriving DecidableEq, Repr

/-- Why a controller sends nothing. -/
inductive Refusal where
  | slotConfiguration (title detail : String)
  | valueError (detail : String)
  /-- `date(year, month, day)` is none. -/
  | invalidDate
  /-- The text of an identifier is no number. -/
  | invalidLiteral
  /-- The text of an identifier does not start with `0x`. -/
  | noIdentifier
  | noFields
  deriving DecidableEq, Repr

/-! ## The calendar of `datetime.date` -/

def isLeap (year : ℤ) : Bool := year % 4 = 0 && (year % 100 ≠ 0 || year % 400 = 0)

def monthDays (year month : ℤ) : ℤ :=
  if month = 2 && isLeap year then 29
  else [31, 28, 31, 30, 31, 30, 31, 31, 30, 31, 30, 31].getD (month - 1).toNat 0

def isDate (year month day : ℤ) : Bool :=
  1 ≤ year && year ≤ 9999 && 1 ≤ month && month ≤ 12 && 1 ≤ day && day ≤ monthDays year month

/-- Day 1 is the first of January of year 1. -/
def toOrdinal (year month day : ℤ) : ℤ :=
  let before := year - 1
  let daysBeforeYear := before * 365 + before / 4 - before / 100 + before / 400
  let daysBeforeMonth :=
    ((List.range (month - 1).toNat).map fun m => monthDays year ((m : ℤ) + 1)).sum
  daysBeforeYear + daysBeforeMonth + day

/-- Monday is 0. -/
def weekdayOf (year month day : ℤ) : ℤ := (toOrdinal year month day + 6) % 7

/-! ## The encoders -/

/-- The eight numbers a controller hands to the session. -/
abbrev Payload := List ℤ

def u16ToLe (value : ℤ) : List ℤ := [value % 256, value / 2 ^ 8 % 256]

def u32ToLe (value : ℤ) : List ℤ :=
  [value % 256, value / 2 ^ 8 % 256, value / 2 ^ 16 % 256, value / 2 ^ 24 % 256]

def strip (text : List Char) : List Char :=
  ((text.dropWhile Char.isWhitespace).reverse.dropWhile Char.isWhitespace).reverse

section Encoders

-- `int(text, 16)`, of a text that starts with `0x` and so has no sign
variable (int16 : List Char → Option ℕ)

def parseCanId (text : String) : Except Refusal ℕ :=
  let stripped := strip text.toList
  if "0x".toList.isPrefixOf (stripped.map Char.toLower) then
    match int16 stripped with
    | some canId => .ok canId
    | none => .error .invalidLiteral
  else
    .error .noIdentifier

/-- The flags of a configuration: enabled, and perhaps extended. -/
def slotFlags (idType : IdType) : ℕ := if idType = .extended then 0x01 ||| 0x02 else 0x01

def configureAndStartSlot (slotNo : ℤ) (canIdText : String) (idType : IdType)
    (cycleTime counter : ℤ) : Except Refusal (List Payload) :=
  match parseCanId int16 canIdText with
  | .error refusal => .error refusal
  | .ok canId =>
    if idType = .extended ∧ 0x1FFFFFFF < canId then
      .error (.slotConfiguration "Invalid ID" "Extended ID maksimum 0x1FFFFFFF olabilir.")
    else if idType ≠ .extended ∧ 0x7FF < canId then
      .error (.slotConfiguration "Invalid ID" "Standard ID maksimum 0x7FF olabilir.")
    else
      let cmdSet : ℤ := if slotNo = 1 then 0x01 else 0x02
      let cmdStart : ℤ := if slotNo = 1 then 0x11 else 0x12
      .ok
        [[cmdSet, (slotFlags idType : ℤ)] ++ u32ToLe canId ++ u16ToLe cycleTime,
          [cmdStart, 0] ++ u32ToLe counter ++ [0, 0]]

def sendLedCommand (ledNo state : ℤ) : Payload := [0x10, ledNo, state, 0, 0, 0, 0, 0]

def sendPwmCommand (frequencyHz dutyPercent : ℤ) (enabled : Bool) :
    Except Refusal (List Payload) :=
  if ¬ (1 ≤ frequencyHz ∧ frequencyHz ≤ 1000000) then
    .error (.valueError "PWM frequency must be between 1 Hz and 1 MHz")
  else if ¬ (0 ≤ dutyPercent ∧ dutyPercent ≤ 100) then
    .error (.valueError "PWM duty cycle must be between 0 and 100 percent")
  else
    .ok [[0x40] ++ u32ToLe (if enabled then frequencyHz else 0) ++ [dutyPercent, 0, 0]]

def sendPwmSelfTest (start : Bool) : Payload :=
  [0x41, if start then 1 else 0, 0, 0, 0, 0, 0, 0]

def AlarmField.wire (field : AlarmField) : ℤ := if field.enabled then field.value else 0

/-- The bit of a field in the mask, if it is enabled. -/
def AlarmField.flag (field : AlarmField) (bit : ℕ) : ℕ := if field.enabled then bit else 0

def AlarmRequest.enableMask (alarm : AlarmRequest) : ℕ :=
  alarm.second.flag 0x01 ||| alarm.minute.flag 0x02 ||| alarm.hour.flag 0x04 |||
    alarm.day.flag 0x08 ||| alarm.weekday.flag 0x10

def sendAlarm (alarm : AlarmRequest) : Except Refusal (List Payload) :=
  if alarm.enableMask = 0 then
    .error .noFields
  else
    .ok [[0x22, alarm.enableMask, alarm.second.wire, alarm.minute.wire, alarm.hour.wire,
      alarm.day.wire, alarm.weekday.wire, 0]]

def disableAlarm : Payload := [0x22, 0, 0, 0, 0, 0, 0, 0]

/-- The day of the week that goes out: the given one, or the date's. -/
def DateTimeRequest.sentWeekday (request : DateTimeRequest) : ℤ :=
  if request.autoWeekday then
    (weekdayOf request.fullYear request.month request.day + 1) % 7
  else
    request.weekday

def sendDatetime (request : DateTimeRequest) : Except Refusal (List Payload) :=
  if isDate request.fullYear request.month request.day then
    let monthWeekday : ℕ :=
      (request.month % 32).toNat ||| (request.sentWeekday % 8).toNat <<< 5
    .ok [[0x21, request.hundredth, request.second, request.minute, request.hour, request.day,
      monthWeekday, request.fullYear - 2000]]
  else
    .error .invalidDate

/-- Ten of the inputs can be connected to the battery. -/
def requestPolarity (batterySwitchMask : ℤ) : Except Refusal (List Payload) :=
  if batterySwitchMask < 0 ∨ batterySwitchMask.toNat >>> 10 ≠ 0 then
    .error (.valueError "Only IN0-IN9 support battery-connected polarity")
  else
    .ok [[0x50, batterySwitchMask % 256, batterySwitchMask / 2 ^ 8 % 256,
      batterySwitchMask / 2 ^ 16 % 256, 0, 0, 0, 0]]

def requestInfo : Payload := [0x30, 0, 0, 0, 0, 0, 0, 0]

def requestRecord (sequence : ℤ) : Payload := [0x31] ++ u32ToLe sequence ++ [0, 0, 0]

/-- What a controller sends. -/
def Request.encode : Request → Except Refusal (List Payload)
  | slot slotNo canIdText idType cycleTime counter =>
    configureAndStartSlot int16 slotNo canIdText idType cycleTime counter
  | led ledNo state => .ok [sendLedCommand ledNo state]
  | pwm frequencyHz dutyPercent enabled => sendPwmCommand frequencyHz dutyPercent enabled
  | pwmSelfTest start => .ok [sendPwmSelfTest start]
  | alarm fields => sendAlarm fields
  | disableAlarm => .ok [Gui.disableAlarm]
  | dateTime fields => sendDatetime fields
  | polarity batterySwitchMask => requestPolarity batterySwitchMask
  | logInfo => .ok [requestInfo]
  | logRecord sequence => .ok [requestRecord sequence]

/-- The frame of a payload: eight bytes, or no frame at all. -/
def toFrame (payload : Payload) : Option Bytes :=
  if payload.length = 8 ∧ ∀ byte ∈ payload, 0 ≤ byte ∧ byte < 256 then
    some (payload.map fun byte => UInt8.ofNat byte.toNat)
  else
    none

/-! ## What the firmware makes of a frame -/

/-- A command, as the values it carries. -/
inductive Operation where
  | configureSlot (slotNo : ℤ) (enable extended : Bool) (canId cycleTime : ℤ)
  | startCounter (slotNo counter : ℤ)
  | led (ledNo state : ℤ)
  | setTime (hour minute second : ℤ)
  | setDateTime (hundredth second minute hour day month year weekday : ℤ)
  | setAlarm (second minute hour day weekday : Option ℤ)
  | pwm (frequencyHz dutyPercent : ℤ)
  | pwmSelfTest (start : ℤ)
  | logInfo
  | logRecord (sequence : ℤ)
  | polarity (batterySwitchMask : ℤ)
  deriving DecidableEq, Repr

/-- A field of the alarm that is enabled. -/
def alarmField (command : RtcAlarmCommand) (bit value : UInt8) : Option ℤ :=
  if command.enableMask &&& bit ≠ 0 then some value.toNat else none

def decodedConfig (slotNo : ℤ) (payload : Bytes) : Operation :=
  .configureSlot slotNo (Control.Slot.commandedEnable payload)
    (Control.Slot.commandedExtended payload) (Control.Slot.commandedId payload).toNat
    (Control.Slot.commandedCycle payload).toNat

def decodedAlarm (command : RtcAlarmCommand) : Operation :=
  .setAlarm (alarmField command rtcAlarmEnableSecond command.second)
    (alarmField command rtcAlarmEnableMinute command.minute)
    (alarmField command rtcAlarmEnableHour command.hour)
    (alarmField command rtcAlarmEnableDay command.day)
    (alarmField command rtcAlarmEnableWeekday command.weekday)

def decodedDateTime (dateTime : Rtc.DateTime) : Operation :=
  .setDateTime dateTime.hundredth.toNat dateTime.second.toNat dateTime.minute.toNat
    dateTime.hour.toNat dateTime.day.toNat dateTime.month.toNat dateTime.year.toNat
    dateTime.weekday.toNat

/-- The values of a command, as its handler reads them. -/
def decode (payload : Bytes) : Option Operation :=
  match codeOf payload with
  | none => none
  | some .setSlot1 => some (decodedConfig 1 payload)
  | some .setSlot2 => some (decodedConfig 2 payload)
  | some .startSlot1Counter =>
    some (.startCounter 1 (Control.Slot.commandedLimit payload).toNat)
  | some .startSlot2Counter =>
    some (.startCounter 2 (Control.Slot.commandedLimit payload).toNat)
  | some .ledControl => some (.led (payload.at' 1).toNat (payload.at' 2).toNat)
  | some .rtcSetTime =>
    some (.setTime (payload.at' 1).toNat (payload.at' 2).toNat (payload.at' 3).toNat)
  | some .rtcSetDateTime => some (decodedDateTime (dateTimeOf payload))
  | some .rtcSetAlarm => (decodeRtcAlarmCommand payload).map decodedAlarm
  | some .pwmSet => some (.pwm (readLe32 (payload.drop 1)).toNat (payload.at' 5).toNat)
  | some .pwmSelfTest => some (.pwmSelfTest (payload.at' 1).toNat)
  | some .logGetInfo => some .logInfo
  | some .logReadSequence => some (.logRecord (readLe32 (payload.drop 1)).toNat)
  | some .tic12400SetPolarity =>
    (decodeTic12400PolarityCommand payload).map fun mask => .polarity mask.toNat

/-! ## Agreement -/

def AlarmField.asked (field : AlarmField) : Option ℤ :=
  if field.enabled then some field.value else none

/-- What a call asks for, command by command. -/
def Request.operations : Request → List Operation
  | slot slotNo canIdText idType cycleTime counter =>
    match parseCanId int16 canIdText with
    | .ok canId =>
      [.configureSlot slotNo true (idType = .extended) canId cycleTime,
        .startCounter slotNo counter]
    | .error _ => []
  | led ledNo state => [.led ledNo state]
  | pwm frequencyHz dutyPercent enabled => [.pwm (if enabled then frequencyHz else 0) dutyPercent]
  | pwmSelfTest start => [.pwmSelfTest (if start then 1 else 0)]
  | alarm fields =>
    [.setAlarm fields.second.asked fields.minute.asked fields.hour.asked fields.day.asked
      fields.weekday.asked]
  | disableAlarm => [.setAlarm none none none none none]
  | dateTime fields =>
    [.setDateTime fields.hundredth fields.second fields.minute fields.hour fields.day fields.month
      (fields.fullYear - 2000) fields.sentWeekday]
  | polarity batterySwitchMask => [.polarity batterySwitchMask]
  | logInfo => [.logInfo]
  | logRecord sequence => [.logRecord sequence]

/-- The payload is valid to the firmware, and decodes to the operation. -/
def Carries (payload : Payload) (operation : Operation) : Prop :=
  ∃ frame, toFrame payload = some frame ∧ validate frame = .valid ∧
    decode frame = some operation

/-- Whatever the controller sends is what was asked for. -/
def Agrees (request : Request) : Prop :=
  ∀ payloads, request.encode int16 = .ok payloads →
    List.Forall₂ Carries payloads (request.operations int16)

/-- A field of the alarm that is in its range, if it counts. -/
def AlarmField.InRange (field : AlarmField) (minimum maximum : ℤ) : Prop :=
  field.enabled = true → minimum ≤ field.value ∧ field.value ≤ maximum

/-- What the controllers leave to the widgets. -/
def Request.InRange : Request → Prop
  | slot slotNo _ _ cycleTime counter =>
    (slotNo = 1 ∨ slotNo = 2) ∧ (1 ≤ cycleTime ∧ cycleTime < 2 ^ 16) ∧
      0 ≤ counter ∧ counter < 2 ^ 32
  | led ledNo state => (ledNo = 1 ∨ ledNo = 2) ∧ (state = 0 ∨ state = 1)
  | alarm fields =>
    fields.second.InRange 0 59 ∧ fields.minute.InRange 0 59 ∧ fields.hour.InRange 0 23 ∧
      fields.day.InRange 1 31 ∧ fields.weekday.InRange 0 6
  | dateTime fields =>
    (0 ≤ fields.hundredth ∧ fields.hundredth ≤ 99) ∧ (0 ≤ fields.second ∧ fields.second ≤ 59) ∧
      (0 ≤ fields.minute ∧ fields.minute ≤ 59) ∧ (0 ≤ fields.hour ∧ fields.hour ≤ 23) ∧
      (2000 ≤ fields.fullYear ∧ fields.fullYear ≤ 2099) ∧
      (fields.autoWeekday = false → 0 ≤ fields.weekday ∧ fields.weekday ≤ 6)
  | logRecord sequence => 1 ≤ sequence ∧ sequence < 2 ^ 32
  | pwm .. | pwmSelfTest _ | disableAlarm | polarity _ | logInfo => True

end Encoders

end Gui

end Command

end CanGui
