import CanGui.Common.Words
/-!
# PCA2131 — the clock chip and its driver

The chip's registers behind an I2C bus, and the driver's writes of the
calendar and of the alarm. What the bus makes of each transfer, in order,
is part of its state; of a write that fails some bytes may have arrived.
-/

namespace CanGui

namespace Rtc

def regControl1 : Nat := 0x00
def regControl2 : Nat := 0x01
def regSrReset : Nat := 0x05
def reg100thSeconds : Nat := 0x06
def regSecondAlarm : Nat := 0x0E
def control1StopBit : UInt8 := 0x20
def control1HundredthDisable : UInt8 := 0x10
def control1Hour12Bit : UInt8 := 0x04
def control2AieBit : UInt8 := 0x02
def control2MsfBit : UInt8 := 0x80
def control2WdtfBit : UInt8 := 0x40
def alarmDisableBit : UInt8 := 0x80
def alarmPmBit : UInt8 := 0x20
def srResetCpr : UInt8 := 0xA4

/-! ## The bus -/

/-- `HAL_StatusTypeDef` -/
inductive HalStatus where
  | ok
  | error
  | busy
  | timeout
  deriving DecidableEq, Repr

def HalStatus.value : HalStatus → UInt32
  | ok => 0
  | error => 1
  | busy => 2
  | timeout => 3

/-- What becomes of a transfer: the HAL's status and error code, and of a
write that fails how many bytes arrived. -/
structure Reply where
  status : HalStatus := .ok
  error : UInt32 := 0
  arrived : Nat := 0
  deriving DecidableEq, Repr

structure Bus where
  registers : Bytes := List.replicate 0x37 0
  replies : List Reply := []
  deriving DecidableEq, Repr

namespace Bus

/-- What becomes of the next transfer. -/
def reply (bus : Bus) : Reply := bus.replies.headD {}

/-- `HAL_I2C_Mem_Read`; what a failed one leaves in the buffer is not
used. -/
def read (bus : Bus) (register length : Nat) : Bytes × Bus :=
  ((bus.registers.drop register).take length, { bus with replies := bus.replies.tail })

/-- `HAL_I2C_Mem_Write` -/
def write (bus : Bus) (register : Nat) (bytes : Bytes) : Bus :=
  let arrived := if bus.reply.status = .ok then bytes else bytes.take bus.reply.arrived
  { bus with
    registers := bus.registers.take register ++ arrived ++
      bus.registers.drop (register + arrived.length)
    replies := bus.replies.tail }

/-- The next transfers succeed. -/
def Succeeds : (transfers : Nat) → List Reply → Prop
  | 0, _ => True
  | transfers + 1, replies => (replies.headD {}).status = .ok ∧ Succeeds transfers replies.tail

instance instDecidableSucceeds : ∀ transfers replies, Decidable (Succeeds transfers replies)
  | 0, _ => inferInstanceAs (Decidable True)
  | transfers + 1, replies =>
    have := instDecidableSucceeds transfers replies.tail
    inferInstanceAs (Decidable (_ ∧ _))

end Bus

/-- `PCA2131_Result_t`, as far as a write gives it. -/
inductive Result where
  | ok
  | invalidDateTime
  | controlReadFailed
  | stopWriteFailed
  | cprWriteFailed
  | calendarWriteFailed
  | startWriteFailed
  | invalidAlarmConfig
  | alarmControlReadFailed
  | alarmWriteFailed
  | alarmStatusReadFailed
  | alarmFlagClearFailed
  deriving DecidableEq, Repr

def Result.value : Result → UInt32
  | ok => 0
  | invalidDateTime => 2
  | controlReadFailed => 5
  | stopWriteFailed => 6
  | cprWriteFailed => 7
  | calendarWriteFailed => 8
  | startWriteFailed => 9
  | invalidAlarmConfig => 11
  | alarmControlReadFailed => 12
  | alarmWriteFailed => 13
  | alarmStatusReadFailed => 14
  | alarmFlagClearFailed => 16

/-- `PCA2131_OperationStatus_t`; the recovery is what a write tries after
it stopped the clock and failed. -/
structure OperationStatus where
  result : Result
  halStatus : HalStatus
  halError : UInt32
  recovery : Option Reply := none
  deriving DecidableEq, Repr

/-- `PCA2131_CreateStatus`, of a transfer. -/
def Reply.createStatus (reply : Reply) (result : Result) : OperationStatus :=
  ⟨result, reply.status, reply.error, none⟩

/-! ## Date and time -/

/-- `PCA2131_DateTime_t`, as it is written. -/
structure DateTime where
  hundredth : UInt8
  second : UInt8
  minute : UInt8
  hour : UInt8
  day : UInt8
  weekday : UInt8
  month : UInt8
  year : UInt8
  deriving DecidableEq, Repr

/-- `PCA2131_DecToBcd` -/
def decToBcd (decimal : UInt8) : UInt8 := (decimal / 10) <<< 4 ||| decimal % 10

/-- `PCA2131_IsLeapYear` -/
def isLeapYear (year : UInt8) : Bool := year % 4 == 0

/-- `PCA2131_DaysInMonth` -/
def daysInMonth (month year : UInt8) : UInt8 :=
  if month < 1 ∨ 12 < month then 0
  else if month = 2 ∧ isLeapYear year = true then 29
  else [31, 28, 31, 30, 31, 30, 31, 31, 30, 31, 30, 31].getD (month.toNat - 1) 0

/-- `PCA2131_Driver_IsValidDateTime` -/
def DateTime.isValid (dateTime : DateTime) : Bool :=
  if 99 < dateTime.hundredth ∨ 59 < dateTime.second ∨ 59 < dateTime.minute ∨ 23 < dateTime.hour ∨
      6 < dateTime.weekday ∨ 99 < dateTime.year then false
  else if dateTime.day < 1 ∨ daysInMonth dateTime.month dateTime.year < dateTime.day then false
  else true

/-- The bytes of the calendar's registers. -/
def DateTime.calendarData (dateTime : DateTime) : Bytes :=
  [decToBcd dateTime.hundredth, decToBcd dateTime.second &&& 0x7F,
    decToBcd dateTime.minute &&& 0x7F, decToBcd dateTime.hour &&& 0x3F,
    decToBcd dateTime.day &&& 0x3F, dateTime.weekday &&& 0x07, decToBcd dateTime.month &&& 0x1F,
    decToBcd dateTime.year]

namespace Bus

/-- `PCA2131_TryReleaseStop` behind a failed transfer. -/
def tryReleaseStop (bus : Bus) (control1 : UInt8) (failed : OperationStatus) :
    OperationStatus × Bus :=
  ({ failed with recovery := some bus.reply },
    bus.write regControl1 [control1 &&& ~~~control1StopBit])

/-- The fifth transfer of the write: the clock goes on. -/
def startClock (bus : Bus) (control1 : UInt8) : OperationStatus × Bus :=
  let reply := bus.reply
  let bus := bus.write regControl1 [control1 &&& ~~~control1StopBit]
  if reply.status ≠ .ok then
    bus.tryReleaseStop (control1 &&& ~~~control1StopBit) (reply.createStatus .startWriteFailed)
  else (reply.createStatus .ok, bus)

/-- The fourth: the calendar. -/
def writeCalendar (bus : Bus) (control1 : UInt8) (dateTime : DateTime) : OperationStatus × Bus :=
  let reply := bus.reply
  let bus := bus.write reg100thSeconds dateTime.calendarData
  if reply.status ≠ .ok then
    bus.tryReleaseStop control1 (reply.createStatus .calendarWriteFailed)
  else bus.startClock control1

/-- The third: the prescaler is cleared. -/
def clearPrescaler (bus : Bus) (control1 : UInt8) (dateTime : DateTime) : OperationStatus × Bus :=
  let reply := bus.reply
  let bus := bus.write regSrReset [srResetCpr]
  if reply.status ≠ .ok then bus.tryReleaseStop control1 (reply.createStatus .cprWriteFailed)
  else bus.writeCalendar control1 dateTime

/-- The second: the clock stops. -/
def stopClock (bus : Bus) (control1 : UInt8) (dateTime : DateTime) : OperationStatus × Bus :=
  let reply := bus.reply
  let bus := bus.write regControl1 [control1]
  if reply.status ≠ .ok then bus.tryReleaseStop control1 (reply.createStatus .stopWriteFailed)
  else bus.clearPrescaler control1 dateTime

/-- `PCA2131_Driver_WriteDateTime` -/
def writeDateTime (bus : Bus) (dateTime : DateTime) : OperationStatus × Bus :=
  if dateTime.isValid = false then (⟨.invalidDateTime, .error, 0, none⟩, bus)
  else
    let reply := bus.reply
    let (control1, bus) := bus.read regControl1 1
    if reply.status ≠ .ok then (reply.createStatus .controlReadFailed, bus)
    else
      bus.stopClock
        ((control1.at' 0 &&& ~~~(control1HundredthDisable ||| control1Hour12Bit)) |||
          control1StopBit) dateTime

end Bus

/-! ## The alarm -/

/-- `PCA2131_AlarmField_t` -/
structure AlarmField where
  enabled : Bool := false
  value : UInt8 := 0
  deriving DecidableEq, Repr

/-- `PCA2131_AlarmConfig_t` -/
structure AlarmConfig where
  second : AlarmField := {}
  minute : AlarmField := {}
  hour : AlarmField := {}
  day : AlarmField := {}
  weekday : AlarmField := {}
  deriving DecidableEq, Repr

/-- `PCA2131_IsValidAlarmField` -/
def AlarmField.isValid (field : AlarmField) (minimum maximum : UInt8) : Bool :=
  !field.enabled || decide (minimum ≤ field.value ∧ field.value ≤ maximum)

/-- `PCA2131_Driver_IsValidAlarmConfig` -/
def AlarmConfig.isValid (config : AlarmConfig) : Bool :=
  config.second.isValid 0 59 && config.minute.isValid 0 59 && config.hour.isValid 0 23 &&
    config.day.isValid 1 31 && config.weekday.isValid 0 6

/-- `PCA2131_EncodeAlarmField` -/
def AlarmField.encode (field : AlarmField) (valueMask : UInt8) : UInt8 :=
  if field.enabled = false then alarmDisableBit else decToBcd field.value &&& valueMask

/-- `PCA2131_EncodeAlarmHour` -/
def AlarmField.encodeHour (field : AlarmField) (hourMode12 : Bool) : UInt8 :=
  if field.enabled = false then alarmDisableBit
  else if hourMode12 = false then decToBcd field.value &&& 0x3F
  else if field.value = 0 then (decToBcd 12 &&& 0x1F) ||| 0
  else if field.value < 12 then (decToBcd field.value &&& 0x1F) ||| 0
  else if field.value = 12 then (decToBcd 12 &&& 0x1F) ||| alarmPmBit
  else (decToBcd (field.value - 12) &&& 0x1F) ||| alarmPmBit

/-- The bytes of the alarm's registers. -/
def AlarmConfig.alarmData (config : AlarmConfig) (hourMode12 : Bool) : Bytes :=
  [config.second.encode 0x7F, config.minute.encode 0x7F, config.hour.encodeHour hourMode12,
    config.day.encode 0x3F,
    if config.weekday.enabled = false then alarmDisableBit else config.weekday.value &&& 0x07]

namespace Bus

/-- `PCA2131_Driver_ClearAlarmFlag` -/
def clearAlarmFlag (bus : Bus) : OperationStatus × Bus :=
  let reply := bus.reply
  let (control2, bus) := bus.read regControl2 1
  if reply.status ≠ .ok then (reply.createStatus .alarmStatusReadFailed, bus)
  else
    let reply := bus.reply
    let bus := bus.write regControl2
      [control2MsfBit ||| control2WdtfBit ||| (control2.at' 0 &&& control2AieBit)]
    if reply.status ≠ .ok then (reply.createStatus .alarmFlagClearFailed, bus)
    else (reply.createStatus .ok, bus)

/-- `PCA2131_Driver_WriteAlarm` -/
def writeAlarm (bus : Bus) (config : AlarmConfig) : OperationStatus × Bus :=
  if config.isValid = false then (⟨.invalidAlarmConfig, .error, 0, none⟩, bus)
  else
    let reply := bus.reply
    let (control1, bus) := bus.read regControl1 1
    if reply.status ≠ .ok then (reply.createStatus .alarmControlReadFailed, bus)
    else
      let reply := bus.reply
      let bus := bus.write regSecondAlarm
        (config.alarmData (control1.at' 0 &&& control1Hour12Bit != 0))
      if reply.status ≠ .ok then (reply.createStatus .alarmWriteFailed, bus)
      else (reply.createStatus .ok, bus)

/-! ## When a write succeeds -/

variable {bus : Bus} {dateTime : DateTime} {config : AlarmConfig} {control1 : UInt8}

@[simp] theorem replies_read (register length : Nat) :
    (bus.read register length).2.replies = bus.replies.tail := rfl

@[simp] theorem replies_write (register : Nat) (bytes : Bytes) :
    (bus.write register bytes).replies = bus.replies.tail := rfl

theorem startClock_ok_iff :
    (bus.startClock control1).1.result = .ok ↔ Succeeds 1 bus.replies := by
  unfold startClock
  dsimp only
  split
  · next hfailed => exact ⟨nofun, fun h => absurd h.1 hfailed⟩
  · next hok => exact ⟨fun _ => ⟨not_not.1 hok, trivial⟩, fun _ => rfl⟩

theorem writeCalendar_ok_iff :
    (bus.writeCalendar control1 dateTime).1.result = .ok ↔ Succeeds 2 bus.replies := by
  unfold writeCalendar
  dsimp only
  split
  · next hfailed => exact ⟨nofun, fun h => absurd h.1 hfailed⟩
  · next hok =>
    rw [startClock_ok_iff]
    exact (and_iff_right (not_not.1 hok)).symm

theorem clearPrescaler_ok_iff :
    (bus.clearPrescaler control1 dateTime).1.result = .ok ↔ Succeeds 3 bus.replies := by
  unfold clearPrescaler
  dsimp only
  split
  · next hfailed => exact ⟨nofun, fun h => absurd h.1 hfailed⟩
  · next hok =>
    rw [writeCalendar_ok_iff]
    exact (and_iff_right (not_not.1 hok)).symm

theorem stopClock_ok_iff :
    (bus.stopClock control1 dateTime).1.result = .ok ↔ Succeeds 4 bus.replies := by
  unfold stopClock
  dsimp only
  split
  · next hfailed => exact ⟨nofun, fun h => absurd h.1 hfailed⟩
  · next hok =>
    rw [clearPrescaler_ok_iff]
    exact (and_iff_right (not_not.1 hok)).symm

/-- **The calendar is written when each of five transfers succeeds.** -/
theorem writeDateTime_ok_iff : (bus.writeDateTime dateTime).1.result = .ok ↔
    dateTime.isValid = true ∧ Succeeds 5 bus.replies := by
  unfold writeDateTime
  split
  · next hinvalid => exact ⟨nofun, fun h => absurd h.1 (by simp [hinvalid])⟩
  · next hvalid =>
    rw [and_iff_right (eq_true_of_ne_false hvalid)]
    dsimp only
    split
    · next hfailed => exact ⟨nofun, fun h => absurd h.1 hfailed⟩
    · next hok =>
      rw [stopClock_ok_iff]
      exact (and_iff_right (not_not.1 hok)).symm

theorem clearAlarmFlag_ok_iff :
    bus.clearAlarmFlag.1.result = .ok ↔ Succeeds 2 bus.replies := by
  unfold clearAlarmFlag
  dsimp only
  split
  · next hfailed => exact ⟨nofun, fun h => absurd h.1 hfailed⟩
  · next hok =>
    split
    · next hfailed => exact ⟨nofun, fun h => absurd h.2.1 hfailed⟩
    · next hwritten => exact ⟨fun _ => ⟨not_not.1 hok, not_not.1 hwritten, trivial⟩, fun _ => rfl⟩

theorem clearAlarmFlag_replies (h : bus.clearAlarmFlag.1.result = .ok) :
    bus.clearAlarmFlag.2.replies = bus.replies.tail.tail := by
  unfold clearAlarmFlag at *
  dsimp only at *
  split at h
  · cases h
  · next hok =>
    rw [if_neg hok]
    split at h
    · cases h
    · next hwritten =>
      rw [if_neg hwritten]
      rfl

/-- **The alarm is written when both transfers succeed.** -/
theorem writeAlarm_ok_iff : (bus.writeAlarm config).1.result = .ok ↔
    config.isValid = true ∧ Succeeds 2 bus.replies := by
  unfold writeAlarm
  split
  · next hinvalid => exact ⟨nofun, fun h => absurd h.1 (by simp [hinvalid])⟩
  · next hvalid =>
    rw [and_iff_right (eq_true_of_ne_false hvalid)]
    dsimp only
    split
    · next hfailed => exact ⟨nofun, fun h => absurd h.1 hfailed⟩
    · next hok =>
      split
      · next hfailed => exact ⟨nofun, fun h => absurd h.2.1 hfailed⟩
      · next hwritten =>
        exact ⟨fun _ => ⟨not_not.1 hok, not_not.1 hwritten, trivial⟩, fun _ => rfl⟩

end Bus

end Rtc

end CanGui
