import CanGui.Common.Bcd
import CanGui.Rtc.Calendar
/-!
# PCA2131 — what the driver reads

The driver's reads of the calendar and of the alarm, and the comparison of
an alarm that was read with the one that was asked for. Beside them stands
what the chip's registers mean, in either hour mode (`Bus.Shows`,
`Bus.HoldsAlarm`), and the reads are compared with that: the alarm's
comparison accepts the registers that hold the alarm, and the calendar is
read as a chip that counts 24 hours shows it.
-/

namespace CanGui

namespace Rtc

def control2AfBit : UInt8 := 0x10

/-! ## Decimal digits -/

/-- `PCA2131_BcdToDec` -/
def bcdToDec (bcd : UInt8) : UInt8 := (bcd >>> 4) * 10 + (bcd &&& 0x0F)

/-- `PCA2131_IsValidBcd` -/
def isValidBcd (bcd : UInt8) : Bool :=
  decide ((bcd >>> 4) &&& 0x0F ≤ 9 ∧ bcd &&& 0x0F ≤ 9)

/-- `PCA2131_Result_t`, as far as a read gives it. -/
inductive ReadResult where
  | ok
  | readFailed
  | alarmReadFailed
  deriving DecidableEq, Repr

def ReadResult.value : ReadResult → UInt32
  | ok => 0
  | readFailed => 4
  | alarmReadFailed => 10

/-- `PCA2131_OperationStatus_t` of a read; it has no recovery. -/
structure ReadStatus where
  result : ReadResult
  halStatus : HalStatus
  halError : UInt32
  deriving DecidableEq, Repr

/-- `PCA2131_CreateStatus`, of a transfer. -/
def Reply.readStatus (reply : Reply) (result : ReadResult) : ReadStatus :=
  ⟨result, reply.status, reply.error⟩

/-! ## Date and time -/

/-- `PCA2131_DateTime_t`, as it is read. -/
structure Reading where
  dateTime : DateTime
  osf : Bool
  calendarValid : Bool
  deriving DecidableEq, Repr

/-- What the bytes of the calendar's registers are read as. -/
def decodeDateTime (rawData : Bytes) : Reading :=
  let osf := rawData.at' 1 >>> 7 &&& 0x01 != 0
  let dateTime : DateTime := {
    hundredth := bcdToDec (rawData.at' 0)
    second := bcdToDec (rawData.at' 1 &&& 0x7F)
    minute := bcdToDec (rawData.at' 2 &&& 0x7F)
    hour := bcdToDec (rawData.at' 3 &&& 0x3F)
    day := bcdToDec (rawData.at' 4 &&& 0x3F)
    weekday := rawData.at' 5 &&& 0x07
    month := bcdToDec (rawData.at' 6 &&& 0x1F)
    year := bcdToDec (rawData.at' 7) }
  { dateTime := dateTime
    osf := osf
    calendarValid :=
      osf == false && isValidBcd (rawData.at' 0) && isValidBcd (rawData.at' 1 &&& 0x7F) &&
        isValidBcd (rawData.at' 2 &&& 0x7F) && isValidBcd (rawData.at' 3 &&& 0x3F) &&
        isValidBcd (rawData.at' 4 &&& 0x3F) && isValidBcd (rawData.at' 6 &&& 0x1F) &&
        isValidBcd (rawData.at' 7) && dateTime.isValid }

/-! ## The alarm -/

/-- `PCA2131_Alarm_t` -/
structure Alarm where
  second : AlarmField := {}
  minute : AlarmField := {}
  hour : AlarmField := {}
  day : AlarmField := {}
  weekday : AlarmField := {}
  hourMode12 : Bool := false
  hourPm : Bool := false
  alarmFlag : Bool := false
  interruptEnabled : Bool := false
  configurationValid : Bool := false
  deriving DecidableEq, Repr

/-- `PCA2131_DecodeAlarmBcdField`: whether the field is one, and the
field. -/
def decodeAlarmBcdField (rawValue valueMask minimum maximum : UInt8) : Bool × AlarmField :=
  let bcdValue := rawValue &&& valueMask
  let enabled := rawValue &&& alarmDisableBit == 0
  if isValidBcd bcdValue = false then (!enabled, { enabled := enabled, value := 0 })
  else
    let field : AlarmField := { enabled := enabled, value := bcdToDec bcdValue }
    if field.enabled = false then (true, field)
    else (decide (minimum ≤ field.value ∧ field.value ≤ maximum), field)

/-- `PCA2131_DecodeAlarmWeekday` -/
def decodeAlarmWeekday (rawValue : UInt8) : Bool × AlarmField :=
  let field : AlarmField :=
    { enabled := rawValue &&& alarmDisableBit == 0, value := rawValue &&& 0x07 }
  if field.enabled = false then (true, field) else (decide (field.value ≤ 6), field)

/-- What the bytes of the two control registers and of the alarm's are read
as. -/
def decodeAlarm (controlData alarmData : Bytes) : Alarm :=
  let hourMode12 := controlData.at' 0 &&& control1Hour12Bit != 0
  let second := decodeAlarmBcdField (alarmData.at' 0) 0x7F 0 59
  let minute := decodeAlarmBcdField (alarmData.at' 1) 0x7F 0 59
  let hour :=
    if hourMode12 = true then decodeAlarmBcdField (alarmData.at' 2) 0x1F 1 12
    else decodeAlarmBcdField (alarmData.at' 2) 0x3F 0 23
  let day := decodeAlarmBcdField (alarmData.at' 3) 0x3F 1 31
  let weekday := decodeAlarmWeekday (alarmData.at' 4)
  { second := second.2
    minute := minute.2
    hour := hour.2
    day := day.2
    weekday := weekday.2
    hourMode12 := hourMode12
    hourPm := hourMode12 && alarmData.at' 2 &&& alarmPmBit != 0
    alarmFlag := controlData.at' 1 &&& control2AfBit != 0
    interruptEnabled := controlData.at' 1 &&& control2AieBit != 0
    configurationValid := second.1 && minute.1 && hour.1 && day.1 && weekday.1 }

namespace Bus

/-- `PCA2131_Driver_ReadDateTime`; a read that fails leaves the caller's
date and time alone. -/
def readDateTime (bus : Bus) : (ReadStatus × Option Reading) × Bus :=
  let reply := bus.reply
  let (rawData, bus) := bus.read reg100thSeconds 8
  if reply.status ≠ .ok then ((reply.readStatus .readFailed, none), bus)
  else ((reply.readStatus .ok, some (decodeDateTime rawData)), bus)

/-- `PCA2131_Driver_ReadAlarm` -/
def readAlarm (bus : Bus) : (ReadStatus × Alarm) × Bus :=
  let reply := bus.reply
  let (controlData, bus) := bus.read regControl1 2
  if reply.status ≠ .ok then ((reply.readStatus .alarmReadFailed, {}), bus)
  else
    let reply := bus.reply
    let (alarmData, bus) := bus.read regSecondAlarm 5
    if reply.status ≠ .ok then ((reply.readStatus .alarmReadFailed, {}), bus)
    else ((reply.readStatus .ok, decodeAlarm controlData alarmData), bus)

end Bus

/-! ## The alarm that was asked for -/

/-- `RTC_AlarmFieldMatches` -/
def AlarmField.matches (requested actual : AlarmField) : Bool :=
  if requested.enabled ≠ actual.enabled then false
  else if requested.enabled = false then true
  else requested.value == actual.value

/-- The alarm's hour, of the day. -/
def Alarm.actualHour24 (actual : Alarm) : UInt8 :=
  if actual.hourMode12 = false then actual.hour.value
  else if actual.hourPm = true then actual.hour.value % 12 + 12
  else actual.hour.value % 12

/-- `RTC_AlarmHourMatches` -/
def AlarmField.hourMatches (requested : AlarmField) (actual : Alarm) : Bool :=
  if requested.enabled ≠ actual.hour.enabled then false
  else if requested.enabled = false then true
  else requested.value == actual.actualHour24

/-- `RTC_AlarmConfigurationMatches` -/
def AlarmConfig.matches (requested : AlarmConfig) (actual : Alarm) : Bool :=
  if actual.configurationValid = false then false
  else
    requested.second.matches actual.second && requested.minute.matches actual.minute &&
      requested.hour.hourMatches actual && requested.day.matches actual.day &&
      requested.weekday.matches actual.weekday

/-! ## What the registers mean -/

/-- The hour of the day that a register of an hour denotes. Of twelve
hours the twelfth is the first, and the second half of the day has a bit
of its own. -/
def hourOfDay (hour12 : Bool) (raw : UInt8) : Option Nat :=
  if hour12 = true then
    ((Bcd.value (raw &&& 0x1F).toNat).filter fun hour => 1 ≤ hour ∧ hour ≤ 12).map fun hour =>
      hour % 12 + if raw &&& alarmPmBit = 0 then 0 else 12
  else (Bcd.value (raw &&& 0x3F).toNat).filter (· < 24)

/-- The bytes of the calendar's registers denote a date and time. -/
structure Denotes (hour12 : Bool) (rawData : Bytes) (dateTime : DateTime) : Prop where
  hundredth : Bcd.value (rawData.at' 0).toNat = some dateTime.hundredth.toNat
  second : Bcd.value (rawData.at' 1 &&& 0x7F).toNat = some dateTime.second.toNat
  minute : Bcd.value (rawData.at' 2 &&& 0x7F).toNat = some dateTime.minute.toNat
  hour : hourOfDay hour12 (rawData.at' 3) = some dateTime.hour.toNat
  day : Bcd.value (rawData.at' 4 &&& 0x3F).toNat = some dateTime.day.toNat
  weekday : rawData.at' 5 &&& 0x07 = dateTime.weekday
  month : Bcd.value (rawData.at' 6 &&& 0x1F).toNat = some dateTime.month.toNat
  year : Bcd.value (rawData.at' 7).toNat = some dateTime.year.toNat
  onCalendar : dateTime.OnCalendar

/-- A register of the alarm holds a field, of which it denotes the
value. -/
def AlarmField.HeldBy (field : AlarmField) (raw : UInt8) (value : Option Nat) : Prop :=
  if field.enabled = true then raw &&& alarmDisableBit = 0 ∧ value = some field.value.toNat
  else raw &&& alarmDisableBit ≠ 0

namespace Bus

/-- A register of the chip. -/
def register (bus : Bus) (index : Nat) : UInt8 := bus.registers.at' index

/-- The bus has the registers of the chip. -/
def Whole (bus : Bus) : Prop := bus.registers.length = 0x37

instance (bus : Bus) : Decidable bus.Whole := inferInstanceAs (Decidable (_ = _))

/-- The chip counts twelve hours, and twice a day. -/
def hour12 (bus : Bus) : Bool := bus.register regControl1 &&& control1Hour12Bit != 0

/-- The calendar's registers. -/
def calendarRegisters (bus : Bus) : Bytes := (bus.registers.drop reg100thSeconds).take 8

/-- The chip's clock shows a date and time. -/
def Shows (bus : Bus) (dateTime : DateTime) : Prop :=
  Denotes bus.hour12 bus.calendarRegisters dateTime

/-- The alarm's registers hold an alarm. -/
structure HoldsAlarm (bus : Bus) (config : AlarmConfig) : Prop where
  second : config.second.HeldBy (bus.register 0x0E)
    (Bcd.value (bus.register 0x0E &&& 0x7F).toNat)
  minute : config.minute.HeldBy (bus.register 0x0F)
    (Bcd.value (bus.register 0x0F &&& 0x7F).toNat)
  hour : config.hour.HeldBy (bus.register 0x10) (hourOfDay bus.hour12 (bus.register 0x10))
  day : config.day.HeldBy (bus.register 0x11) (Bcd.value (bus.register 0x11 &&& 0x3F).toNat)
  weekday : config.weekday.HeldBy (bus.register 0x12) (some (bus.register 0x12 &&& 0x07).toNat)

end Bus

/-! ## A byte's digits -/

/-- A property of every byte is one of 256. -/
theorem forall_byte {p : UInt8 → Prop} (h : ∀ n < 256, p (UInt8.ofNat n)) (raw : UInt8) : p raw := by
  have hraw := h raw.toNat raw.toNat_lt
  rwa [UInt8.ofNat_toNat] at hraw

theorem bcd_value (raw : UInt8) : Bcd.value raw.toNat =
    if isValidBcd raw = true then some (bcdToDec raw).toNat else none := by
  revert raw
  exact forall_byte (by decide +kernel)

/-- The code's two functions read the number that a byte writes. -/
theorem bcd_value_eq_some_iff {raw value : UInt8} : Bcd.value raw.toNat = some value.toNat ↔
    isValidBcd raw = true ∧ bcdToDec raw = value := by
  rw [bcd_value]
  split
  · next hvalid => simp [hvalid, UInt8.toNat_inj]
  · next hnot => simp [hnot]

/-- The code's encoding writes the number; a mask keeps the digits of the
numbers it has room for, and the bit that disables a field is none of a
number below 80. -/
theorem decToBcd_bits : ∀ value : UInt8,
    (value.toNat < 100 → (decToBcd value).toNat = Bcd.encode value.toNat) ∧
      (value.toNat < 80 → decToBcd value &&& 0x7F = decToBcd value ∧
        decToBcd value &&& alarmDisableBit = 0) ∧
      (value.toNat < 40 → decToBcd value &&& 0x3F = decToBcd value) ∧
      (value.toNat < 20 → decToBcd value &&& 0x1F = decToBcd value) :=
  forall_byte (by decide +kernel)

theorem bcd_decToBcd {value : UInt8} (h : value.toNat < 100) :
    Bcd.value (decToBcd value).toNat = some value.toNat := by
  rw [(decToBcd_bits value).1 h]
  exact Bcd.value_encode h

theorem decToBcd_and_7F (value : UInt8) (h : value.toNat < 80) :
    decToBcd value &&& 0x7F = decToBcd value :=
  ((decToBcd_bits value).2.1 h).1

theorem decToBcd_and_disable (value : UInt8) (h : value.toNat < 80) :
    decToBcd value &&& alarmDisableBit = 0 :=
  ((decToBcd_bits value).2.1 h).2

theorem decToBcd_and_3F (value : UInt8) (h : value.toNat < 40) :
    decToBcd value &&& 0x3F = decToBcd value :=
  (decToBcd_bits value).2.2.1 h

theorem decToBcd_and_1F (value : UInt8) (h : value.toNat < 20) :
    decToBcd value &&& 0x1F = decToBcd value :=
  (decToBcd_bits value).2.2.2 h

/-! ## The alarm's registers are compared -/

variable {field : AlarmField} {config : AlarmConfig} {raw valueMask minimum maximum : UInt8}
variable {bus : Bus} {dateTime : DateTime}

theorem alarmField_isValid_iff : field.isValid minimum maximum = true ↔
    (field.enabled = true → minimum ≤ field.value ∧ field.value ≤ maximum) := by
  unfold AlarmField.isValid
  cases field.enabled <;> simp

theorem alarmField_matches_iff {actual : AlarmField} : field.matches actual = true ↔
    field.enabled = actual.enabled ∧ (field.enabled = true → field.value = actual.value) := by
  unfold AlarmField.matches
  by_cases henabled : field.enabled = actual.enabled
  · cases field.enabled <;> simp [henabled.symm]
  · simp [henabled]

section Decode

variable (raw valueMask minimum maximum)

theorem decodeAlarmBcdField_enabled :
    (decodeAlarmBcdField raw valueMask minimum maximum).2.enabled =
      (raw &&& alarmDisableBit == 0) := by
  unfold decodeAlarmBcdField
  dsimp only
  split
  · rfl
  · split <;> rfl

/-- An enabled field has a number in its range. -/
theorem decodeAlarmBcdField_enabled_iff (h : raw &&& alarmDisableBit = 0) {value : UInt8} :
    ((decodeAlarmBcdField raw valueMask minimum maximum).1 = true ∧
        (decodeAlarmBcdField raw valueMask minimum maximum).2.value = value) ↔
      Bcd.value (raw &&& valueMask).toNat = some value.toNat ∧
        minimum ≤ value ∧ value ≤ maximum := by
  rw [bcd_value_eq_some_iff]
  unfold decodeAlarmBcdField
  simp only [h, beq_self_eq_true, Bool.not_true, Bool.true_eq_false, if_false]
  split
  · next hnot => simp [hnot]
  · next hvalid =>
    simp only [decide_eq_true_eq, eq_true_of_ne_false hvalid, true_and]
    constructor
    · rintro ⟨hrange, rfl⟩
      exact ⟨rfl, hrange⟩
    · rintro ⟨rfl, hrange⟩
      exact ⟨hrange, rfl⟩

/-- A disabled field is always one. -/
theorem decodeAlarmBcdField_disabled (h : raw &&& alarmDisableBit ≠ 0) :
    (decodeAlarmBcdField raw valueMask minimum maximum).1 = true := by
  unfold decodeAlarmBcdField
  dsimp only
  split <;> simp [h]

end Decode

/-- A field is read and agrees with the one asked for just when its
register holds that one. -/
theorem decodeAlarmBcdField_matches :
    (decodeAlarmBcdField raw valueMask minimum maximum).1 = true ∧
        field.matches (decodeAlarmBcdField raw valueMask minimum maximum).2 = true ↔
      field.HeldBy raw (Bcd.value (raw &&& valueMask).toNat) ∧
        field.isValid minimum maximum = true := by
  rw [alarmField_isValid_iff, alarmField_matches_iff, decodeAlarmBcdField_enabled,
    AlarmField.HeldBy]
  by_cases hregister : raw &&& alarmDisableBit = 0
  · have hvalue := @decodeAlarmBcdField_enabled_iff raw valueMask minimum maximum hregister field.value
    rw [eq_comm (b := field.value)] at hvalue
    cases field.enabled
    · simp [hregister]
    · simpa [hregister, and_assoc] using hvalue
  · have hvalid := decodeAlarmBcdField_disabled raw valueMask minimum maximum hregister
    cases field.enabled <;> simp [hregister, hvalid]

theorem decodeAlarmWeekday_matches :
    (decodeAlarmWeekday raw).1 = true ∧ field.matches (decodeAlarmWeekday raw).2 = true ↔
      field.HeldBy raw (some (raw &&& 0x07).toNat) ∧ field.isValid 0 6 = true := by
  rw [alarmField_isValid_iff, alarmField_matches_iff, AlarmField.HeldBy]
  unfold decodeAlarmWeekday
  simp only [Option.some.injEq, UInt8.toNat_inj]
  by_cases hregister : raw &&& alarmDisableBit = 0
  · cases field.enabled
    · simp [hregister]
    · simp only [hregister, beq_self_eq_true, Bool.true_eq_false, if_false, decide_eq_true_eq,
        true_and, forall_const, if_true]
      constructor
      · rintro ⟨hrange, hvalue⟩
        exact ⟨hvalue.symm, by simp [hvalue, hrange]⟩
      · rintro ⟨hvalue, -, hrange⟩
        exact ⟨hvalue ▸ hrange, hvalue.symm⟩
  · cases field.enabled <;> simp [hregister]

/-- The hour's register, as it is read in one hour mode or the other. -/
def decodeAlarmHour (hourMode12 : Bool) (rawValue : UInt8) : Bool × AlarmField :=
  if hourMode12 = true then decodeAlarmBcdField rawValue 0x1F 1 12
  else decodeAlarmBcdField rawValue 0x3F 0 23

theorem decodeAlarmHour_enabled (hour12 : Bool) (raw : UInt8) :
    (decodeAlarmHour hour12 raw).2.enabled = (raw &&& alarmDisableBit == 0) := by
  unfold decodeAlarmHour
  split <;> exact decodeAlarmBcdField_enabled ..

/-- The alarm whose hour is read of a register. -/
def hourAlarm (hour12 : Bool) (raw : UInt8) : Alarm where
  hour := (decodeAlarmHour hour12 raw).2
  hourMode12 := hour12
  hourPm := hour12 && raw &&& alarmPmBit != 0

/-- An enabled hour is the hour of the day its register denotes. -/
theorem hourOfDay_eq (hour12 : Bool) (raw : UInt8) : raw &&& alarmDisableBit = 0 →
    hourOfDay hour12 raw = if (decodeAlarmHour hour12 raw).1 = true then
      some (hourAlarm hour12 raw).actualHour24.toNat else none := by
  revert hour12
  revert raw
  exact forall_byte (by decide +kernel)

theorem hourOfDay_lt {hour12 : Bool} {hour : Nat} (h : hourOfDay hour12 raw = some hour) :
    hour < 24 := by
  unfold hourOfDay at h
  split at h
  · simp only [Option.map_eq_some_iff, Option.filter_eq_some_iff, decide_eq_true_eq] at h
    obtain ⟨hour, ⟨-, hrange⟩, rfl⟩ := h
    split <;> omega
  · simp only [Option.filter_eq_some_iff, decide_eq_true_eq] at h
    exact h.2

theorem hourMatches_iff {actual : Alarm} : field.hourMatches actual = true ↔
    field.enabled = actual.hour.enabled ∧
      (field.enabled = true → field.value = actual.actualHour24) := by
  unfold AlarmField.hourMatches
  by_cases henabled : field.enabled = actual.hour.enabled
  · cases field.enabled <;> simp [henabled.symm]
  · simp [henabled]

theorem decodeAlarmHour_matches {hour12 : Bool} :
    (decodeAlarmHour hour12 raw).1 = true ∧ field.hourMatches (hourAlarm hour12 raw) = true ↔
      field.HeldBy raw (hourOfDay hour12 raw) ∧ field.isValid 0 23 = true := by
  rw [alarmField_isValid_iff, hourMatches_iff, AlarmField.HeldBy]
  have henabled : (hourAlarm hour12 raw).hour.enabled = _ := decodeAlarmHour_enabled hour12 raw
  rw [henabled]
  -- a disabled hour is compared by its bit alone
  by_cases hregister : raw &&& alarmDisableBit = 0
  · have hhour := hourOfDay_eq hour12 raw hregister
    have hlt (hour : Nat) : hourOfDay hour12 raw = some hour → hour < 24 := hourOfDay_lt
    rw [hhour] at hlt ⊢
    cases field.enabled
    · simp [hregister]
    · cases hvalid : (decodeAlarmHour hour12 raw).1
      · simp
      · simp only [hvalid, if_true, Option.some.injEq, forall_eq'] at hlt
        simp only [hregister, beq_self_eq_true, if_true, true_and, forall_const, Option.some.injEq,
          UInt8.toNat_inj]
        constructor
        · intro hvalue
          refine ⟨hvalue.symm, UInt8.zero_le, UInt8.le_iff_toNat_le.2 ?_⟩
          rw [hvalue]
          exact Nat.le_of_lt_succ hlt
        · rintro ⟨hvalue, -⟩
          exact hvalue.symm
  · have hvalid : (decodeAlarmHour hour12 raw).1 = true := by
      unfold decodeAlarmHour
      split <;> exact decodeAlarmBcdField_disabled _ _ _ _ hregister
    cases field.enabled <;> simp [hregister, hvalid]

/-! ## Registers of the bus -/

namespace Bus

theorem at'_slice {data : Bytes} {start length index : Nat} (h : index < length) :
    Bytes.at' ((data.drop start).take length) index = data.at' (start + index) := by
  simp [Bytes.at', List.getD_eq_getElem?_getD, h, List.getElem?_drop]

/-- The alarm that the registers are read as. -/
def alarm (bus : Bus) : Alarm :=
  decodeAlarm ((bus.registers.drop regControl1).take 2) ((bus.registers.drop regSecondAlarm).take 5)

/-- Each register is read as its own field. -/
theorem alarm_eq : bus.alarm =
    { second := (decodeAlarmBcdField (bus.register 0x0E) 0x7F 0 59).2
      minute := (decodeAlarmBcdField (bus.register 0x0F) 0x7F 0 59).2
      hour := (decodeAlarmHour bus.hour12 (bus.register 0x10)).2
      day := (decodeAlarmBcdField (bus.register 0x11) 0x3F 1 31).2
      weekday := (decodeAlarmWeekday (bus.register 0x12)).2
      hourMode12 := bus.hour12
      hourPm := bus.hour12 && bus.register 0x10 &&& alarmPmBit != 0
      alarmFlag := bus.register regControl2 &&& control2AfBit != 0
      interruptEnabled := bus.register regControl2 &&& control2AieBit != 0
      configurationValid :=
        (decodeAlarmBcdField (bus.register 0x0E) 0x7F 0 59).1 &&
          (decodeAlarmBcdField (bus.register 0x0F) 0x7F 0 59).1 &&
          (decodeAlarmHour bus.hour12 (bus.register 0x10)).1 &&
          (decodeAlarmBcdField (bus.register 0x11) 0x3F 1 31).1 &&
          (decodeAlarmWeekday (bus.register 0x12)).1 } := by
  unfold alarm decodeAlarm
  simp (disch := omega) only [at'_slice]
  rfl

/-- **The comparison accepts the registers that hold the alarm.** -/
theorem matches_alarm_iff : config.matches bus.alarm = true ↔
    bus.HoldsAlarm config ∧ config.isValid = true := by
  have hsecond := @decodeAlarmBcdField_matches config.second (bus.register 0x0E) 0x7F 0 59
  have hminute := @decodeAlarmBcdField_matches config.minute (bus.register 0x0F) 0x7F 0 59
  have hhour := @decodeAlarmHour_matches config.hour (bus.register 0x10) bus.hour12
  have hday := @decodeAlarmBcdField_matches config.day (bus.register 0x11) 0x3F 1 31
  have hweekday := @decodeAlarmWeekday_matches config.weekday (bus.register 0x12)
  have hhourAlarm : config.hour.hourMatches bus.alarm =
      config.hour.hourMatches (hourAlarm bus.hour12 (bus.register 0x10)) := by
    rw [alarm_eq]
    rfl
  have hmatches : config.matches bus.alarm = true ↔
      bus.alarm.configurationValid = true ∧ config.second.matches bus.alarm.second = true ∧
        config.minute.matches bus.alarm.minute = true ∧
        config.hour.hourMatches bus.alarm = true ∧ config.day.matches bus.alarm.day = true ∧
        config.weekday.matches bus.alarm.weekday = true := by
    unfold AlarmConfig.matches
    cases bus.alarm.configurationValid <;> simp [and_assoc]
  rw [hmatches, hhourAlarm, alarm_eq, AlarmConfig.isValid]
  simp only [Bool.and_eq_true]
  -- field by field: the code checks all of them, then compares all of them
  constructor
  · rintro ⟨⟨⟨⟨⟨vsecond, vminute⟩, vhour⟩, vday⟩, vweekday⟩, msecond, mminute, mhour, mday,
      mweekday⟩
    have second := hsecond.1 ⟨vsecond, msecond⟩
    have minute := hminute.1 ⟨vminute, mminute⟩
    have hour := hhour.1 ⟨vhour, mhour⟩
    have day := hday.1 ⟨vday, mday⟩
    have weekday := hweekday.1 ⟨vweekday, mweekday⟩
    exact ⟨⟨second.1, minute.1, hour.1, day.1, weekday.1⟩, ⟨⟨⟨second.2, minute.2⟩, hour.2⟩,
      day.2⟩, weekday.2⟩
  · rintro ⟨holds, ⟨⟨⟨vsecond, vminute⟩, vhour⟩, vday⟩, vweekday⟩
    have second := hsecond.2 ⟨holds.second, vsecond⟩
    have minute := hminute.2 ⟨holds.minute, vminute⟩
    have hour := hhour.2 ⟨holds.hour, vhour⟩
    have day := hday.2 ⟨holds.day, vday⟩
    have weekday := hweekday.2 ⟨holds.weekday, vweekday⟩
    exact ⟨⟨⟨⟨⟨second.1, minute.1⟩, hour.1⟩, day.1⟩, weekday.1⟩, second.2, minute.2, hour.2,
      day.2, weekday.2⟩

end Bus

/-! ## The calendar's registers are read -/

theorem hourOfDay_false_iff {hour : UInt8} : hourOfDay false raw = some hour.toNat ↔
    Bcd.value (raw &&& 0x3F).toNat = some hour.toNat ∧ hour.toNat < 24 := by
  unfold hourOfDay
  simp only [Bool.false_eq_true, if_false, Option.filter_eq_some_iff, decide_eq_true_eq]

theorem osf_eq (raw : UInt8) : (raw >>> 7 &&& 0x01 != 0) = (raw &&& 0x80 != 0) := by
  revert raw
  exact forall_byte (by decide +kernel)

/-- **The calendar is read as a chip that counts 24 hours shows it.** -/
theorem decodeDateTime_iff {rawData : Bytes} :
    ((decodeDateTime rawData).calendarValid = true ∧ (decodeDateTime rawData).dateTime = dateTime) ↔
      rawData.at' 1 &&& 0x80 = 0 ∧ Denotes false rawData dateTime := by
  unfold decodeDateTime
  simp only [osf_eq, Bool.and_eq_true, beq_iff_eq, bne_eq_false_iff_eq, DateTime.isValid_iff]
  constructor
  · rintro ⟨⟨⟨⟨⟨⟨⟨⟨⟨hosf, hhundredth⟩, hsecond⟩, hminute⟩, hhour⟩, hday⟩, hmonth⟩, hyear⟩,
      hcalendar⟩, rfl⟩
    refine ⟨hosf, ?_⟩
    exact {
      hundredth := bcd_value_eq_some_iff.2 ⟨hhundredth, rfl⟩
      second := bcd_value_eq_some_iff.2 ⟨hsecond, rfl⟩
      minute := bcd_value_eq_some_iff.2 ⟨hminute, rfl⟩
      hour := hourOfDay_false_iff.2 ⟨bcd_value_eq_some_iff.2 ⟨hhour, rfl⟩, hcalendar.hour_lt⟩
      day := bcd_value_eq_some_iff.2 ⟨hday, rfl⟩
      weekday := rfl
      month := bcd_value_eq_some_iff.2 ⟨hmonth, rfl⟩
      year := bcd_value_eq_some_iff.2 ⟨hyear, rfl⟩
      onCalendar := hcalendar }
  · rintro ⟨hosf, hdenotes⟩
    obtain ⟨hhundredth, hhundredthEq⟩ := bcd_value_eq_some_iff.1 hdenotes.hundredth
    obtain ⟨hsecond, hsecondEq⟩ := bcd_value_eq_some_iff.1 hdenotes.second
    obtain ⟨hminute, hminuteEq⟩ := bcd_value_eq_some_iff.1 hdenotes.minute
    obtain ⟨hhour, hhourEq⟩ := bcd_value_eq_some_iff.1 (hourOfDay_false_iff.1 hdenotes.hour).1
    obtain ⟨hday, hdayEq⟩ := bcd_value_eq_some_iff.1 hdenotes.day
    obtain ⟨hmonth, hmonthEq⟩ := bcd_value_eq_some_iff.1 hdenotes.month
    obtain ⟨hyear, hyearEq⟩ := bcd_value_eq_some_iff.1 hdenotes.year
    have hcalendar := hdenotes.onCalendar
    have hdateTime : dateTime = ⟨dateTime.hundredth, dateTime.second, dateTime.minute,
      dateTime.hour, dateTime.day, dateTime.weekday, dateTime.month, dateTime.year⟩ := rfl
    rw [hhundredthEq, hsecondEq, hminuteEq, hhourEq, hdayEq, hdenotes.weekday, hmonthEq, hyearEq,
      ← hdateTime]
    exact ⟨⟨⟨⟨⟨⟨⟨⟨⟨hosf, hhundredth⟩, hsecond⟩, hminute⟩, hhour⟩, hday⟩, hmonth⟩, hyear⟩,
      hcalendar⟩, rfl⟩

/-- What is reported as a calendar is a time of a day of the calendar. -/
theorem decodeDateTime_valid {rawData : Bytes} (h : (decodeDateTime rawData).calendarValid = true) :
    (decodeDateTime rawData).dateTime.isValid = true :=
  DateTime.isValid_iff.2 (decodeDateTime_iff.1 ⟨h, rfl⟩).2.onCalendar

/-! ## When a read succeeds -/

namespace Bus

theorem readDateTime_ok (h : bus.readDateTime.1.1.result = .ok) :
    bus.readDateTime.1.2 = some (decodeDateTime bus.calendarRegisters) := by
  unfold readDateTime at *
  dsimp only at *
  split at h
  · simp [Reply.readStatus] at h
  · next hok =>
    rw [if_neg hok]
    rfl

theorem readDateTime_ok_iff : bus.readDateTime.1.1.result = .ok ↔ Succeeds 1 bus.replies := by
  unfold readDateTime
  dsimp only
  split
  · next hfailed =>
    simp only [Reply.readStatus, reduceCtorEq, false_iff]
    exact fun h => hfailed h.1
  · next hok => exact iff_of_true rfl ⟨not_not.1 hok, trivial⟩

theorem readAlarm_ok_iff : bus.readAlarm.1.1.result = .ok ↔ Succeeds 2 bus.replies := by
  unfold readAlarm
  dsimp only
  split
  · next hfailed =>
    simp only [Reply.readStatus, reduceCtorEq, false_iff]
    exact fun h => hfailed h.1
  · next hok =>
    split
    · next hfailed =>
      simp only [Reply.readStatus, reduceCtorEq, false_iff]
      exact fun h => hfailed h.2.1
    · next hread => exact iff_of_true rfl ⟨not_not.1 hok, not_not.1 hread, trivial⟩

theorem readAlarm_ok (h : bus.readAlarm.1.1.result = .ok) :
    bus.readAlarm.1.2 = bus.alarm ∧
      bus.readAlarm.2 = { bus with replies := bus.replies.tail.tail } := by
  have hsucceeds := readAlarm_ok_iff.1 h
  have hfirst : bus.reply.status = .ok := hsucceeds.1
  have hsecond : (bus.read regControl1 2).2.reply.status = .ok := hsucceeds.2.1
  unfold readAlarm
  dsimp only
  rw [if_neg (not_not.2 hfirst), if_neg (not_not.2 hsecond)]
  exact ⟨rfl, rfl⟩

end Bus

end Rtc

end CanGui
