import CanGui.Command.Encoders
/-!
# GUI and firmware agree

Each of the GUI's payloads is put beside what the validator and the
decoders read of it: first its bytes, then the word or the fields it
carries. `agrees_of_inRange` is all of them together.
-/

namespace CanGui

namespace Command

namespace Gui

/-! ## Bytes -/

/-- A number that fits a byte. -/
abbrev IsByte (value : ℤ) : Prop := 0 ≤ value ∧ value < 256

/-- A number of a payload, as a byte. -/
def byteOf (value : ℤ) : UInt8 := UInt8.ofNat value.toNat

theorem toNat_byteOf {value : ℤ} (h : 0 ≤ value ∧ value < 256) :
    ((byteOf value).toNat : ℤ) = value := by
  have hnat : value.toNat < 256 := by omega
  rw [byteOf, UInt8.toNat_ofNat', Nat.mod_eq_of_lt hnat]
  omega

theorem u32ToLe_bytes (value : ℤ) : ∀ byte ∈ u32ToLe value, IsByte byte := by
  simp only [u32ToLe, List.forall_mem_cons, List.not_mem_nil, false_imp_iff, implies_true,
    and_true]
  omega

theorem u16ToLe_bytes (value : ℤ) : ∀ byte ∈ u16ToLe value, IsByte byte := by
  simp only [u16ToLe, List.forall_mem_cons, List.not_mem_nil, false_imp_iff, implies_true,
    and_true]
  omega

/-- The word of a number that fits. -/
def wordOf (value : ℤ) : UInt32 := UInt32.ofNat value.toNat

theorem toNat_wordOf {value : ℤ} (h : 0 ≤ value ∧ value < 2 ^ 32) :
    ((wordOf value).toNat : ℤ) = value := by
  have hnat : value.toNat < 2 ^ 32 := by omega
  rw [wordOf, UInt32.toNat_ofNat', Nat.mod_eq_of_lt hnat]
  omega

theorem map_u32ToLe {value : ℤ} (h : 0 ≤ value ∧ value < 2 ^ 32) :
    (u32ToLe value).map byteOf = writeLe32 (wordOf value) := by
  obtain ⟨n, rfl⟩ := Int.eq_ofNat_of_zero_le h.1
  have hn : n < 4294967296 := by omega
  simp only [u32ToLe, writeLe32, wordOf, List.map_cons, List.map_nil, List.cons.injEq, and_true,
    ← UInt8.toNat_inj, byteOf, UInt8.toNat_ofNat', UInt32.toNat_toUInt8, UInt32.toNat_shiftRight,
    UInt32.toNat_ofNat', UInt32.reduceToNat, Nat.reduceMod, Nat.shiftRight_eq_div_pow]
  omega

/-- The half word of a number that fits. -/
def halfOf (value : ℤ) : UInt16 := UInt16.ofNat value.toNat

theorem toNat_halfOf {value : ℤ} (h : 0 ≤ value ∧ value < 2 ^ 16) :
    ((halfOf value).toNat : ℤ) = value := by
  have hnat : value.toNat < 2 ^ 16 := by omega
  rw [halfOf, UInt16.toNat_ofNat', Nat.mod_eq_of_lt hnat]
  omega

theorem map_u16ToLe {value : ℤ} (h : 0 ≤ value ∧ value < 2 ^ 16) :
    (u16ToLe value).map byteOf = writeLe16 (halfOf value) := by
  obtain ⟨n, rfl⟩ := Int.eq_ofNat_of_zero_le h.1
  have hn : n < 65536 := by omega
  simp only [u16ToLe, writeLe16, halfOf, List.map_cons, List.map_nil, List.cons.injEq, and_true,
    ← UInt8.toNat_inj, byteOf, UInt8.toNat_ofNat', UInt16.toNat_toUInt8, UInt16.toNat_shiftRight,
    UInt16.toNat_ofNat', UInt16.reduceToNat, Nat.reduceMod, Nat.shiftRight_eq_div_pow]
  omega

theorem isByte_around (head tail : Payload) (value : ℤ) (hhead : ∀ byte ∈ head, IsByte byte)
    (htail : ∀ byte ∈ tail, IsByte byte) :
    ∀ byte ∈ head ++ u32ToLe value ++ tail, IsByte byte := by
  rw [List.forall_mem_append, List.forall_mem_append]
  exact ⟨⟨hhead, u32ToLe_bytes value⟩, htail⟩

theorem map_around {value : ℤ} (h : 0 ≤ value ∧ value < 2 ^ 32) (head tail : Payload) :
    (head ++ u32ToLe value ++ tail).map byteOf =
      head.map byteOf ++ writeLe32 (wordOf value) ++ tail.map byteOf := by
  rw [List.map_append, List.map_append, map_u32ToLe h]

variable {payload : Payload} {frame : Bytes} {operation : Operation}

theorem carries_of (code : Code) (hlength : payload.length = 8)
    (hbytes : ∀ byte ∈ payload, IsByte byte) (hframe : payload.map byteOf = frame)
    (hcode : codeOf frame = some code) (hvalid : validPayload frame code = true)
    (hdecode : decode frame = some operation) : Carries payload operation :=
  ⟨frame, by rw [toFrame, if_pos ⟨hlength, hbytes⟩]; exact congrArg some hframe,
    validate_valid_iff.2 ⟨code, hcode, hvalid⟩, hdecode⟩

/-! ## Configurations -/

/-- The frame of a configuration. -/
def configFrame (command flags : UInt8) (canId : UInt32) (cycleTime : UInt16) : Bytes :=
  command :: flags :: (writeLe32 canId ++ writeLe16 cycleTime)

section Config

variable (command flags : UInt8) (canId : UInt32) (cycleTime : UInt16)

@[simp] theorem configFrame_canId :
    readLe32 ((configFrame command flags canId cycleTime).drop 2) = canId :=
  readLe32_writeLe32 canId _

@[simp] theorem configFrame_cycleTime :
    readLe16 ((configFrame command flags canId cycleTime).drop 6) = cycleTime := by
  have hread := readLe16_writeLe16 cycleTime []
  rw [List.append_nil] at hread
  exact hread

@[simp] theorem configFrame_flags :
    (configFrame command flags canId cycleTime).at' 1 = flags := rfl

theorem decodedConfig_configFrame (slotNo : ℤ) :
    decodedConfig slotNo (configFrame command flags canId cycleTime) =
      .configureSlot slotNo (flags &&& Control.slotFlagEnable != 0)
        (flags &&& Control.slotFlagExtendedId != 0) canId.toNat cycleTime.toNat := by
  simp [decodedConfig, Control.Slot.commandedEnable, Control.Slot.commandedExtended,
    Control.Slot.commandedId, Control.Slot.commandedCycle]

variable {command flags canId cycleTime}

theorem validPayload_configFrame {code : Code} (hcode : code = .setSlot1 ∨ code = .setSlot2)
    (hreserved : flags &&& 0xFC = 0)
    (hid : Control.isValidId (flags &&& Control.slotFlagExtendedId != 0) canId = true)
    (hcycle : cycleTime ≠ 0) :
    validPayload (configFrame command flags canId cycleTime) code = true := by
  rcases hcode with rfl | rfl <;>
    simp [validPayload, Control.Slot.commandedExtended, hreserved, hid, hcycle]

end Config

theorem slotFlags_byte (idType : IdType) : (slotFlags idType : ℤ) < 256 ∧
    byteOf (slotFlags idType) &&& 0xFC = 0 ∧
    (byteOf (slotFlags idType) &&& Control.slotFlagEnable != 0) = true ∧
    (byteOf (slotFlags idType) &&& Control.slotFlagExtendedId != 0) =
      decide (idType = .extended) := by
  cases idType <;> decide

/-- The largest identifier of a type. -/
def maximumId (idType : IdType) : ℕ := if idType = .extended then 0x1FFFFFFF else 0x7FF

theorem isValidId_iff (idType : IdType) (canId : UInt32) :
    Control.isValidId (decide (idType = .extended)) canId = true ↔
      canId.toNat ≤ maximumId idType := by
  cases idType <;> simp [Control.isValidId, maximumId, UInt32.le_iff_toNat_le]

/-- A configuration: the identifier and the cycle are words of their
own. -/
theorem carries_config {command slotNo : ℤ}
    (hcommand : command = 0x01 ∧ slotNo = 1 ∨ command = 0x02 ∧ slotNo = 2) (idType : IdType)
    {canId : ℕ} (hid : canId ≤ maximumId idType) {cycleTime : ℤ}
    (hcycle : 1 ≤ cycleTime ∧ cycleTime < 2 ^ 16) :
    Carries ([command, (slotFlags idType : ℤ)] ++ u32ToLe canId ++ u16ToLe cycleTime)
      (.configureSlot slotNo true (idType = .extended) canId cycleTime) := by
  obtain ⟨hflags, hreserved, henable, hextended⟩ := slotFlags_byte idType
  have hmaximum : maximumId idType ≤ 0x1FFFFFFF := by cases idType <;> decide
  have hword : (0 : ℤ) ≤ canId ∧ (canId : ℤ) < 2 ^ 32 := by omega
  have hcanId := toNat_wordOf hword
  have hcycleTime := toNat_halfOf ⟨by omega, hcycle.2⟩
  have hnonzero : halfOf cycleTime ≠ 0 := by
    intro hzero
    rw [hzero] at hcycleTime
    have hnat : ((0 : UInt16).toNat : ℤ) = 0 := rfl
    omega
  have hcommandByte : IsByte command := by omega
  have hbytes := isByte_around [command, (slotFlags idType : ℤ)] _ canId
    (List.forall_mem_cons.2 ⟨hcommandByte, List.forall_mem_cons.2 ⟨⟨by omega, hflags⟩, by simp⟩⟩)
    (u16ToLe_bytes cycleTime)
  have hframe : ([command, (slotFlags idType : ℤ)] ++ u32ToLe canId ++ u16ToLe cycleTime).map byteOf =
      configFrame (byteOf command) (byteOf (slotFlags idType)) (wordOf canId) (halfOf cycleTime) := by
    rw [map_around hword, map_u16ToLe ⟨by omega, hcycle.2⟩]
    rfl
  have hvalid : ∀ code, code = .setSlot1 ∨ code = .setSlot2 →
      validPayload (configFrame (byteOf command) (byteOf (slotFlags idType)) (wordOf canId)
        (halfOf cycleTime)) code = true := by
    intro code hcode
    refine validPayload_configFrame hcode hreserved ?_ hnonzero
    rw [hextended, isValidId_iff]
    omega
  have hdecoded := decodedConfig_configFrame (byteOf command) (byteOf (slotFlags idType))
    (wordOf canId) (halfOf cycleTime) slotNo
  rw [henable, hextended, hcanId, hcycleTime] at hdecoded
  rcases hcommand with ⟨rfl, rfl⟩ | ⟨rfl, rfl⟩
  · exact carries_of .setSlot1 rfl hbytes hframe rfl (hvalid _ (.inl rfl))
      (congrArg some hdecoded)
  · exact carries_of .setSlot2 rfl hbytes hframe rfl (hvalid _ (.inr rfl))
      (congrArg some hdecoded)

/-! ## Commands around one word -/

/-- A start of a counter. -/
theorem carries_start {command slotNo : ℤ}
    (hcommand : command = 0x11 ∧ slotNo = 1 ∨ command = 0x12 ∧ slotNo = 2) {counter : ℤ}
    (hcounter : 0 ≤ counter ∧ counter < 2 ^ 32) :
    Carries ([command, 0] ++ u32ToLe counter ++ [0, 0]) (.startCounter slotNo counter) := by
  have hcommandByte : IsByte command := by omega
  have hbytes := isByte_around [command, 0] [0, 0] counter
    (List.forall_mem_cons.2 ⟨hcommandByte, by decide⟩) (by decide)
  have hframe := map_around hcounter [command, 0] [0, 0]
  have hlimit : ∀ head tail, Control.Slot.commandedLimit
      (head :: 0 :: (writeLe32 (wordOf counter) ++ tail)) = wordOf counter :=
    fun _ _ => readLe32_writeLe32 _ _
  rcases hcommand with ⟨rfl, rfl⟩ | ⟨rfl, rfl⟩
  · refine carries_of .startSlot1Counter rfl hbytes hframe rfl rfl ?_
    change some (Operation.startCounter 1 (Control.Slot.commandedLimit
      (_ :: 0 :: (writeLe32 (wordOf counter) ++ _))).toNat) = _
    rw [hlimit, toNat_wordOf hcounter]
  · refine carries_of .startSlot2Counter rfl hbytes hframe rfl rfl ?_
    change some (Operation.startCounter 2 (Control.Slot.commandedLimit
      (_ :: 0 :: (writeLe32 (wordOf counter) ++ _))).toNat) = _
    rw [hlimit, toNat_wordOf hcounter]

theorem carries_pwm {frequencyHz dutyPercent : ℤ} (hfrequency : 0 ≤ frequencyHz ∧ frequencyHz ≤ 1000000)
    (hduty : 0 ≤ dutyPercent ∧ dutyPercent ≤ 100) :
    Carries ([0x40] ++ u32ToLe frequencyHz ++ [dutyPercent, 0, 0])
      (.pwm frequencyHz dutyPercent) := by
  have hword : 0 ≤ frequencyHz ∧ frequencyHz < 2 ^ 32 := by omega
  have hbyte : IsByte dutyPercent := by omega
  have hbytes := isByte_around [0x40] [dutyPercent, 0, 0] frequencyHz
    (by decide) (List.forall_mem_cons.2 ⟨hbyte, by decide⟩)
  have hframe := map_around hword [0x40] [dutyPercent, 0, 0]
  have hfrequencyNat := toNat_wordOf hword
  have hdutyNat := toNat_byteOf hbyte
  have hread : ∀ head tail, readLe32 (List.drop 1 (head :: (writeLe32 (wordOf frequencyHz) ++ tail))) =
    wordOf frequencyHz := fun _ _ => readLe32_writeLe32 _ _
  have hlow : wordOf frequencyHz ≤ 1000000 := by
    have hnat : (1000000 : UInt32).toNat = 1000000 := rfl
    rw [UInt32.le_iff_toNat_le]
    omega
  have hpercent : byteOf dutyPercent ≤ 100 := by
    have hnat : (100 : UInt8).toNat = 100 := rfl
    rw [UInt8.le_iff_toNat_le]
    omega
  refine carries_of .pwmSet rfl hbytes hframe rfl ?_ ?_
  · change (decide (readLe32 (List.drop 1 (_ :: (writeLe32 (wordOf frequencyHz) ++ _))) ≤ 1000000) &&
      decide (byteOf dutyPercent ≤ 100) && true) = true
    simp [hlow, hpercent]
  · change some (Operation.pwm (readLe32 (List.drop 1 (_ :: (writeLe32 (wordOf frequencyHz) ++ _)))).toNat
      (byteOf dutyPercent).toNat) = _
    rw [hread, hfrequencyNat, hdutyNat]

theorem carries_logRecord {sequence : ℤ} (h : 1 ≤ sequence ∧ sequence < 2 ^ 32) :
    Carries (requestRecord sequence) (.logRecord sequence) := by
  have hword : 0 ≤ sequence ∧ sequence < 2 ^ 32 := by omega
  have hbytes := isByte_around [0x31] [0, 0, 0] sequence (by decide)
    (by decide)
  have hframe := map_around hword [0x31] [0, 0, 0]
  have hsequence := toNat_wordOf hword
  have hread : ∀ head tail, readLe32 (List.drop 1 (head :: (writeLe32 (wordOf sequence) ++ tail))) =
    wordOf sequence := fun _ _ => readLe32_writeLe32 _ _
  have hnonzero : wordOf sequence ≠ 0 := by
    intro hzero
    rw [hzero] at hsequence
    have hnat : ((0 : UInt32).toNat : ℤ) = 0 := rfl
    omega
  refine carries_of .logReadSequence rfl hbytes hframe rfl ?_ ?_
  · change (readLe32 (List.drop 1 (_ :: (writeLe32 (wordOf sequence) ++ _))) != 0 && true) = true
    simp [hnonzero]
  · change some (Operation.logRecord
      (readLe32 (List.drop 1 (_ :: (writeLe32 (wordOf sequence) ++ _)))).toNat) = _
    rw [hread, hsequence]

/-! ## Commands of single bytes -/

theorem carries_led {ledNo state : ℤ} (hled : ledNo = 1 ∨ ledNo = 2)
    (hstate : state = 0 ∨ state = 1) : Carries (sendLedCommand ledNo state) (.led ledNo state) := by
  rcases hled with rfl | rfl <;> rcases hstate with rfl | rfl <;> exact ⟨_, rfl, by decide⟩

theorem carries_pwmSelfTest (start : Bool) :
    Carries (sendPwmSelfTest start) (.pwmSelfTest (if start then 1 else 0)) := by
  cases start <;> exact ⟨_, rfl, by decide⟩

theorem carries_disableAlarm :
    Carries disableAlarm (.setAlarm none none none none none) := ⟨_, rfl, by decide⟩

theorem carries_logInfo : Carries requestInfo .logInfo := ⟨_, rfl, by decide⟩

/-- Ten bits are the capable inputs'. -/
theorem polarityMask_capable {mask : ℕ} (hmask : mask < 1024) :
    UInt32.ofNat mask &&& ~~~tic12400BatteryCapableMask = 0 := by
  have hcapable : (~~~tic12400BatteryCapableMask).toNat = (2 ^ 22 - 1) * 2 ^ 10 := rfl
  refine UInt32.toNat_inj.1 ((UInt32.toNat_and _ _).trans (Nat.eq_of_testBit_eq fun i => ?_))
  rw [UInt32.toNat_ofNat', Nat.mod_eq_of_lt (by omega), hcapable, Nat.testBit_and,
    Nat.testBit_mul_two_pow]
  change _ = Nat.testBit 0 i
  rw [Nat.zero_testBit]
  by_cases hlow : 10 ≤ i
  · have hle : 2 ^ 10 ≤ 2 ^ i := Nat.pow_le_pow_right (by decide) hlow
    rw [Nat.testBit_lt_two_pow (Nat.lt_of_lt_of_le hmask hle), Bool.false_and]
  · rw [decide_eq_false hlow, Bool.false_and, Bool.and_false]

/-- And they are those of two bytes. -/
theorem polarityMask_bytes {mask : ℕ} (hmask : mask < 1024) :
    (UInt8.ofNat (mask % 256)).toUInt32 ||| (UInt8.ofNat (mask / 256)).toUInt32 <<< 8 |||
      (0 : UInt8).toUInt32 <<< 16 = UInt32.ofNat mask := by
  have hbytes := or_bytes (mask % 256) (mask / 256) 0 0 (by omega) (by omega) (by omega)
  refine UInt32.toNat_inj.1 ?_
  simp only [UInt32.toNat_or, UInt32.toNat_shiftLeft, UInt8.toNat_toUInt32, UInt8.toNat_ofNat',
    UInt32.toNat_ofNat', UInt32.reduceToNat, Nat.reduceMod, Nat.shiftLeft_eq] at hbytes ⊢
  rw [Nat.mod_eq_of_lt (by omega : mask % 256 < 2 ^ 8),
    Nat.mod_eq_of_lt (by omega : mask / 256 < 2 ^ 8),
    Nat.mod_eq_of_lt (by omega : mask / 256 * 2 ^ 8 < 2 ^ 32)]
  simp only [UInt8.toNat_zero, Nat.zero_mul, Nat.or_zero, Nat.zero_mod, Nat.mul_zero,
    Nat.add_zero] at hbytes ⊢
  omega

/-- Ten bits go through three bytes. -/
theorem decodeTic12400PolarityCommand_bytes : ∀ mask < 1024,
    decodeTic12400PolarityCommand
      [0x50, UInt8.ofNat (mask % 256), UInt8.ofNat (mask / 256), 0, 0, 0, 0, 0] =
        some (UInt32.ofNat mask) := by
  intro mask hmask
  have hcapable := polarityMask_capable hmask
  rw [← polarityMask_bytes hmask] at hcapable ⊢
  refine if_neg ?_
  rintro (hmask | hrest)
  · exact hmask hcapable
  · revert hrest
    change ¬((0 : UInt8) ≠ 0 ∨ (0 : UInt8) ≠ 0 ∨ (0 : UInt8) ≠ 0 ∨ (0 : UInt8) ≠ 0)
    decide

theorem carries_polarity {mask : ℕ} (hmask : mask < 1024) :
    Carries
      [0x50, (mask : ℤ) % 256, (mask : ℤ) / 2 ^ 8 % 256, (mask : ℤ) / 2 ^ 16 % 256, 0, 0, 0, 0]
      (.polarity mask) := by
  have hdecoded := decodeTic12400PolarityCommand_bytes mask hmask
  have hlow : byteOf ((mask : ℤ) % 256) = UInt8.ofNat (mask % 256) := by
    rw [byteOf]
    congr 1
  have hmiddle : byteOf ((mask : ℤ) / 2 ^ 8 % 256) = UInt8.ofNat (mask / 256) := by
    rw [byteOf]
    congr 1
    omega
  have hhigh : byteOf ((mask : ℤ) / 2 ^ 16 % 256) = 0 := by
    have hzero : ((mask : ℤ) / 2 ^ 16 % 256).toNat = 0 := by omega
    rw [byteOf, hzero]
    rfl
  have hframe : [0x50, (mask : ℤ) % 256, (mask : ℤ) / 2 ^ 8 % 256, (mask : ℤ) / 2 ^ 16 % 256, 0,
      0, 0, 0].map byteOf =
      [0x50, UInt8.ofNat (mask % 256), UInt8.ofNat (mask / 256), 0, 0, 0, 0, 0] := by
    simp only [List.map_cons, List.map_nil, hlow, hmiddle, hhigh]
    rfl
  refine carries_of .tic12400SetPolarity rfl ?_ hframe rfl ?_ ?_
  · simp only [List.forall_mem_cons, IsByte]
    simp
    omega
  · rw [validPayload, hdecoded]
    rfl
  · change (decodeTic12400PolarityCommand _).map _ = _
    rw [hdecoded]
    simp only [Option.map_some, Option.some.injEq, Operation.polarity.injEq, UInt32.toNat_ofNat']
    omega

variable {field : AlarmField}

/-- A field of an alarm that is in range, on its way. -/
theorem AlarmField.wire_inRange (minimum maximum : UInt8)
    (h : field.InRange minimum.toNat maximum.toNat) :
    IsByte field.wire ∧
      alarmFieldInvalid field.enabled (byteOf field.wire) minimum maximum = false ∧
      (if field.enabled = true then some ((byteOf field.wire).toNat : ℤ) else none) =
        field.asked := by
  cases henabled : field.enabled with
  | false =>
    have hwire : field.wire = 0 := by simp [wire, henabled]
    rw [hwire, asked, henabled]
    exact ⟨by decide, rfl, rfl⟩
  | true =>
    have hwire : field.wire = field.value := by simp [wire, henabled]
    have hmaximum := maximum.toNat_lt
    obtain ⟨hlow, hhigh⟩ := h henabled
    have hbyte : IsByte field.value := by omega
    have hnat := toNat_byteOf hbyte
    have hlow' : ¬ byteOf field.value < minimum := by
      rw [UInt8.lt_iff_toNat_lt]
      omega
    have hhigh' : ¬ maximum < byteOf field.value := by
      rw [UInt8.lt_iff_toNat_lt]
      omega
    rw [hwire, asked, henabled]
    exact ⟨hbyte, by simp [alarmFieldInvalid, hlow', hhigh'], by simp [hnat]⟩

/-- The mask of an alarm, bit by bit. -/
theorem enableMask_bits (alarm : AlarmRequest) :
    IsByte alarm.enableMask ∧ byteOf alarm.enableMask &&& ~~~rtcAlarmEnableMask = 0 ∧
      (byteOf alarm.enableMask &&& rtcAlarmEnableSecond != 0) = alarm.second.enabled ∧
      (byteOf alarm.enableMask &&& rtcAlarmEnableMinute != 0) = alarm.minute.enabled ∧
      (byteOf alarm.enableMask &&& rtcAlarmEnableHour != 0) = alarm.hour.enabled ∧
      (byteOf alarm.enableMask &&& rtcAlarmEnableDay != 0) = alarm.day.enabled ∧
      (byteOf alarm.enableMask &&& rtcAlarmEnableWeekday != 0) = alarm.weekday.enabled := by
  -- the values do not matter to the mask
  have hmask : alarm.enableMask = AlarmRequest.enableMask
    ⟨⟨alarm.second.enabled, 0⟩, ⟨alarm.minute.enabled, 0⟩, ⟨alarm.hour.enabled, 0⟩,
      ⟨alarm.day.enabled, 0⟩, ⟨alarm.weekday.enabled, 0⟩⟩ := rfl
  rw [hmask]
  generalize alarm.second.enabled = second, alarm.minute.enabled = minute,
    alarm.hour.enabled = hour, alarm.day.enabled = day, alarm.weekday.enabled = weekday
  revert second minute hour day weekday
  decide

theorem carries_alarm {alarm : AlarmRequest} (hsecond : alarm.second.InRange 0 59)
    (hminute : alarm.minute.InRange 0 59) (hhour : alarm.hour.InRange 0 23)
    (hday : alarm.day.InRange 1 31) (hweekday : alarm.weekday.InRange 0 6) :
    Carries [0x22, alarm.enableMask, alarm.second.wire, alarm.minute.wire, alarm.hour.wire,
        alarm.day.wire, alarm.weekday.wire, 0]
      (.setAlarm alarm.second.asked alarm.minute.asked alarm.hour.asked alarm.day.asked
        alarm.weekday.asked) := by
  obtain ⟨hmask, hreserved, hsecondBit, hminuteBit, hhourBit, hdayBit, hweekdayBit⟩ :=
    enableMask_bits alarm
  obtain ⟨hsecondByte, hsecondValid, hsecondAsked⟩ :=
    AlarmField.wire_inRange 0 59 hsecond
  obtain ⟨hminuteByte, hminuteValid, hminuteAsked⟩ :=
    AlarmField.wire_inRange 0 59 hminute
  obtain ⟨hhourByte, hhourValid, hhourAsked⟩ :=
    AlarmField.wire_inRange 0 23 hhour
  obtain ⟨hdayByte, hdayValid, hdayAsked⟩ :=
    AlarmField.wire_inRange 1 31 hday
  obtain ⟨hweekdayByte, hweekdayValid, hweekdayAsked⟩ :=
    AlarmField.wire_inRange 0 6 hweekday
  have hdecoded : decodeRtcAlarmCommand [0x22, byteOf alarm.enableMask, byteOf alarm.second.wire,
      byteOf alarm.minute.wire, byteOf alarm.hour.wire, byteOf alarm.day.wire,
      byteOf alarm.weekday.wire, 0] =
      some ⟨byteOf alarm.enableMask, byteOf alarm.second.wire, byteOf alarm.minute.wire,
        byteOf alarm.hour.wire, byteOf alarm.day.wire, byteOf alarm.weekday.wire⟩ := by
    simp [decodeRtcAlarmCommand, Bytes.at', hreserved, hsecondBit, hminuteBit, hhourBit, hdayBit,
      hweekdayBit, hsecondValid, hminuteValid, hhourValid, hdayValid, hweekdayValid]
  have hfield : ∀ (bit value : UInt8) (field : AlarmField),
      (byteOf alarm.enableMask &&& bit != 0) = field.enabled →
        (if byteOf alarm.enableMask &&& bit ≠ 0 then some (value.toNat : ℤ) else none) =
          if field.enabled = true then some (value.toNat : ℤ) else none := by
    intro bit value field hbit
    rw [← hbit]
    simp
  refine carries_of .rtcSetAlarm rfl ?_ rfl rfl ?_ ?_
  · simp only [List.forall_mem_cons]
    exact ⟨by decide, hmask, hsecondByte, hminuteByte, hhourByte, hdayByte, hweekdayByte,
      by decide, by simp⟩
  · change (decodeRtcAlarmCommand _).isSome = true
    exact congrArg Option.isSome hdecoded
  · change (decodeRtcAlarmCommand _).map decodedAlarm = _
    refine (congrArg (Option.map decodedAlarm) hdecoded).trans ?_
    simp only [Option.map_some, decodedAlarm, alarmField]
    rw [hfield _ _ _ hsecondBit, hfield _ _ _ hminuteBit, hfield _ _ _ hhourBit,
      hfield _ _ _ hdayBit, hfield _ _ _ hweekdayBit, hsecondAsked, hminuteAsked, hhourAsked,
      hdayAsked, hweekdayAsked]

/-- In the years of the chip the two calendars have the same months. -/
theorem daysInMonth_eq : ∀ year < 100, ∀ month < 13, 1 ≤ month →
    ((Rtc.daysInMonth (UInt8.ofNat month) (UInt8.ofNat year)).toNat : ℤ) =
      monthDays ((year : ℤ) + 2000) month := by
  decide +kernel

/-- A month and a day of the week share a byte. -/
theorem monthWeekday_bits : ∀ month < 32, ∀ weekday < 8,
    month ||| weekday <<< 5 < 256 ∧
      UInt8.ofNat (month ||| weekday <<< 5) >>> 5 &&& 0x07 = UInt8.ofNat weekday ∧
      UInt8.ofNat (month ||| weekday <<< 5) &&& 0x1F = UInt8.ofNat month := by
  decide +kernel

theorem sentWeekday_inRange {request : DateTimeRequest}
    (h : request.autoWeekday = false → 0 ≤ request.weekday ∧ request.weekday ≤ 6) :
    0 ≤ request.sentWeekday ∧ request.sentWeekday ≤ 6 := by
  unfold DateTimeRequest.sentWeekday
  cases hauto : request.autoWeekday with
  | false => exact h hauto
  | true =>
    rw [if_pos rfl]
    omega

/-- A date that Python takes is one of the chip's, in the chip's years. -/
theorem date_isValid {year month day : ℤ} (hdate : isDate year month day = true)
    (hyear : 2000 ≤ year ∧ year ≤ 2099) :
    1 ≤ month ∧ month ≤ 12 ∧ IsByte day ∧ ¬ byteOf day < 1 ∧
      ¬ Rtc.daysInMonth (byteOf month) (byteOf (year - 2000)) < byteOf day := by
  simp only [isDate, Bool.and_eq_true, decide_eq_true_eq] at hdate
  obtain ⟨⟨⟨⟨⟨-, -⟩, hmonthLow⟩, hmonthHigh⟩, hdayLow⟩, hdayHigh⟩ := hdate
  have hdays := daysInMonth_eq (year - 2000).toNat (by omega) month.toNat (by omega) (by omega)
  have hsame : ((year - 2000).toNat : ℤ) + 2000 = year := by omega
  have hsame' : (month.toNat : ℤ) = month := by omega
  rw [hsame, hsame'] at hdays
  have hlt := (Rtc.daysInMonth (UInt8.ofNat month.toNat) (UInt8.ofNat (year - 2000).toNat)).toNat_lt
  have hbyte : IsByte day := by omega
  have hnat := toNat_byteOf hbyte
  refine ⟨hmonthLow, hmonthHigh, hbyte, ?_, ?_⟩
  · have hone : (1 : UInt8).toNat = 1 := rfl
    rw [UInt8.lt_iff_toNat_lt]
    omega
  · rw [UInt8.lt_iff_toNat_lt]
    change ¬ (Rtc.daysInMonth (UInt8.ofNat month.toNat) (UInt8.ofNat (year - 2000).toNat)).toNat <
      (byteOf day).toNat
    omega

theorem le_of_inRange {value : ℤ} (maximum : UInt8) (h : 0 ≤ value ∧ value ≤ maximum.toNat) :
    IsByte value ∧ ¬ maximum < byteOf value ∧ ((byteOf value).toNat : ℤ) = value := by
  have hmaximum := maximum.toNat_lt
  have hbyte : IsByte value := by omega
  have hnat := toNat_byteOf hbyte
  refine ⟨hbyte, ?_, hnat⟩
  rw [UInt8.lt_iff_toNat_lt]
  omega

theorem carries_dateTime {request : DateTimeRequest}
    (hdate : isDate request.fullYear request.month request.day = true)
    (h : (Request.dateTime request).InRange) :
    Carries
      [0x21, request.hundredth, request.second, request.minute, request.hour, request.day,
        ((request.month % 32).toNat ||| (request.sentWeekday % 8).toNat <<< 5 : ℕ),
        request.fullYear - 2000]
      (.setDateTime request.hundredth request.second request.minute request.hour request.day
        request.month (request.fullYear - 2000) request.sentWeekday) := by
  obtain ⟨hhundredth, hsecond, hminute, hhour, hyear, hweekday⟩ := h
  obtain ⟨hmonthLow, hmonthHigh, hdayByte, hdayLow, hdayHigh⟩ := date_isValid hdate hyear
  obtain ⟨hweekdayLow, hweekdayHigh⟩ := sentWeekday_inRange hweekday
  obtain ⟨hhundredthByte, hhundredthLe, hhundredthNat⟩ := le_of_inRange 99 hhundredth
  obtain ⟨hsecondByte, hsecondLe, hsecondNat⟩ := le_of_inRange 59 hsecond
  obtain ⟨hminuteByte, hminuteLe, hminuteNat⟩ := le_of_inRange 59 hminute
  obtain ⟨hhourByte, hhourLe, hhourNat⟩ := le_of_inRange 23 hhour
  have hyearOfCentury : 0 ≤ request.fullYear - 2000 ∧ request.fullYear - 2000 ≤ 99 := by omega
  obtain ⟨hyearByte, hyearLe, hyearNat⟩ := le_of_inRange 99 hyearOfCentury
  obtain ⟨-, hweekdayLe, hweekdayNat⟩ := le_of_inRange 6 (And.intro hweekdayLow hweekdayHigh)
  have hmonthByte : IsByte request.month := by omega
  have hmonthNat := toNat_byteOf hmonthByte
  have hdayNat := toNat_byteOf hdayByte
  -- month and weekday share a byte, and are each read back from it
  obtain ⟨hpacked, hweekdayBits, hmonthBits⟩ := monthWeekday_bits (request.month % 32).toNat
    (by omega) (request.sentWeekday % 8).toNat (by omega)
  have hmonthSame : (request.month % 32).toNat = request.month.toNat := by omega
  have hweekdaySame : (request.sentWeekday % 8).toNat = request.sentWeekday.toNat := by omega
  rw [hmonthSame, hweekdaySame] at hpacked hweekdayBits hmonthBits
  rw [hmonthSame, hweekdaySame]
  generalize request.month.toNat ||| request.sentWeekday.toNat <<< 5 = monthWeekday
    at hpacked hweekdayBits hmonthBits ⊢
  have hread : dateTimeOf [0x21, byteOf request.hundredth, byteOf request.second,
      byteOf request.minute, byteOf request.hour, byteOf request.day, byteOf monthWeekday,
      byteOf (request.fullYear - 2000)] =
      { hundredth := byteOf request.hundredth
        second := byteOf request.second
        minute := byteOf request.minute
        hour := byteOf request.hour
        day := byteOf request.day
        weekday := byteOf request.sentWeekday
        month := byteOf request.month
        year := byteOf (request.fullYear - 2000) } := by
    simp only [dateTimeOf, Rtc.DateTime.mk.injEq]
    exact ⟨rfl, rfl, rfl, rfl, rfl, hweekdayBits, hmonthBits, rfl⟩
  refine carries_of .rtcSetDateTime rfl ?_ rfl rfl ?_ ?_
  · simp only [List.forall_mem_cons]
    exact ⟨by decide, hhundredthByte, hsecondByte, hminuteByte, hhourByte, hdayByte,
      ⟨by omega, by omega⟩, hyearByte, by simp⟩
  · change (dateTimeOf _).isValid = true
    refine (congrArg Rtc.DateTime.isValid hread).trans ?_
    simp [Rtc.DateTime.isValid, hhundredthLe, hsecondLe, hminuteLe, hhourLe, hyearLe, hweekdayLe,
      hdayLow, hdayHigh]
  · change some (decodedDateTime (dateTimeOf _)) = _
    refine (congrArg (fun dateTime => some (decodedDateTime dateTime)) hread).trans ?_
    simp only [decodedDateTime, hhundredthNat, hsecondNat, hminuteNat, hhourNat, hdayNat,
      hmonthNat, hyearNat, hweekdayNat]

/-! ## Every command -/

section Agreement

variable {int16 : List Char → Option ℕ}

/-- What the controller's check lets through. -/
theorem configureAndStartSlot_ok {canIdText : String} {idType : IdType}
    {slotNo cycleTime counter : ℤ} {payloads : List Payload}
    (h : configureAndStartSlot int16 slotNo canIdText idType cycleTime counter = .ok payloads) :
    ∃ canId, parseCanId int16 canIdText = .ok canId ∧ canId ≤ maximumId idType ∧
      payloads =
        [[if slotNo = 1 then 0x01 else 0x02, (slotFlags idType : ℤ)] ++ u32ToLe canId ++
            u16ToLe cycleTime,
          [if slotNo = 1 then 0x11 else 0x12, 0] ++ u32ToLe counter ++ [0, 0]] := by
  unfold configureAndStartSlot at h
  cases hparse : parseCanId int16 canIdText with
  | error refusal =>
    rw [hparse] at h
    cases h
  | ok canId =>
    simp only [hparse] at h
    split at h
    · cases h
    · next hextended =>
      split at h
      · cases h
      · next hstandard =>
        refine ⟨canId, rfl, ?_, (Except.ok.inj h).symm⟩
        cases idType with
        | standard => simpa [maximumId] using hstandard
        | extended => simpa [maximumId] using hextended

/-- **Every command in range is what it was meant to be.** -/
theorem agrees_of_inRange (int16 : List Char → Option ℕ) (request : Request)
    (h : request.InRange) : Agrees int16 request := by
  intro payloads hpayloads
  cases request with
  | slot slotNo canIdText idType cycleTime counter =>
    obtain ⟨hslot, hcycle, hcounter⟩ := h
    obtain ⟨canId, hparse, hid, rfl⟩ := configureAndStartSlot_ok hpayloads
    simp only [Request.operations, hparse]
    -- two commands go out; both are for the same slot
    have hcommands : ∀ first second : ℤ,
        (if slotNo = 1 then first else second) = first ∧ slotNo = 1 ∨
          (if slotNo = 1 then first else second) = second ∧ slotNo = 2 := by
      intro first second
      rcases hslot with rfl | rfl
      · exact .inl ⟨rfl, rfl⟩
      · exact .inr ⟨rfl, rfl⟩
    exact .cons (carries_config (hcommands _ _) idType hid hcycle)
      (.cons (carries_start (hcommands _ _) hcounter) .nil)
  | led ledNo state =>
    obtain rfl := (Except.ok.inj hpayloads).symm
    exact .cons (carries_led h.1 h.2) .nil
  | pwm frequencyHz dutyPercent enabled =>
    simp only [Request.encode, sendPwmCommand] at hpayloads
    split at hpayloads
    · cases hpayloads
    · next hfrequency =>
      split at hpayloads
      · cases hpayloads
      · next hduty =>
        obtain rfl := (Except.ok.inj hpayloads).symm
        rw [not_not] at hfrequency hduty
        refine .cons (carries_pwm ?_ hduty) .nil
        split <;> omega
  | pwmSelfTest start =>
    obtain rfl := (Except.ok.inj hpayloads).symm
    exact .cons (carries_pwmSelfTest start) .nil
  | alarm fields =>
    obtain ⟨hsecond, hminute, hhour, hday, hweekday⟩ := h
    simp only [Request.encode, sendAlarm] at hpayloads
    split at hpayloads
    · cases hpayloads
    · obtain rfl := (Except.ok.inj hpayloads).symm
      exact .cons (carries_alarm hsecond hminute hhour hday hweekday) .nil
  | disableAlarm =>
    obtain rfl := (Except.ok.inj hpayloads).symm
    exact .cons carries_disableAlarm .nil
  | dateTime fields =>
    simp only [Request.encode, sendDatetime] at hpayloads
    split at hpayloads
    · next hdate =>
      obtain rfl := (Except.ok.inj hpayloads).symm
      exact .cons (carries_dateTime hdate h) .nil
    · cases hpayloads
  | polarity batterySwitchMask =>
    simp only [Request.encode, requestPolarity] at hpayloads
    split at hpayloads
    · cases hpayloads
    · next hmask =>
      obtain rfl := (Except.ok.inj hpayloads).symm
      rw [not_or, not_not, Nat.shiftRight_eq_div_pow] at hmask
      -- a mask without bits above is not negative
      obtain ⟨mask, rfl⟩ := Int.eq_ofNat_of_zero_le (a := batterySwitchMask) (by omega)
      exact .cons (carries_polarity (by omega)) .nil
  | logInfo =>
    obtain rfl := (Except.ok.inj hpayloads).symm
    exact .cons carries_logInfo .nil
  | logRecord sequence =>
    obtain rfl := (Except.ok.inj hpayloads).symm
    exact .cons (carries_logRecord h) .nil

/-- A slot, as the widgets give it at the start. -/
theorem agrees_of_inRange_slot :
    (Request.slot 1 "0x123" .standard 50 100).InRange ∧
      (Request.encode (fun _ => some 0x123) (.slot 1 "0x123" .standard 50 100)).isOk = true ∧
      Agrees (fun _ => some 0x123) (.slot 1 "0x123" .standard 50 100) :=
  have hrange : (Request.slot 1 "0x123" .standard 50 100).InRange := by
    refine ⟨.inl rfl, ?_, ?_⟩ <;> decide
  ⟨hrange, by decide +kernel, agrees_of_inRange _ _ hrange⟩

/-- A cycle of no time passes the controller, and is not valid to the
firmware. -/
theorem zeroCycle_disagrees :
    ¬ Agrees (fun _ => some 0x123) (.slot 1 "0x123" .standard 0 100) := by
  intro h
  have hsent : Request.encode (fun _ => some 0x123) (.slot 1 "0x123" .standard 0 100) =
      .ok [[0x01, 0x01, 0x23, 0x01, 0, 0, 0, 0], [0x11, 0, 100, 0, 0, 0, 0, 0]] := by
    decide +kernel
  have hcarries := h _ hsent
  cases hcarries with
  | cons hconfig _ =>
    obtain ⟨frame, hframe, hvalid, -⟩ := hconfig
    obtain rfl := Option.some.inj hframe
    revert hvalid
    decide +kernel

/-- What the input widgets let through. -/
def Request.FromWidgets : Request → Prop
  | slot slotNo _ _ cycleTime counter =>
    (slotNo = 1 ∨ slotNo = 2) ∧ (1 ≤ cycleTime ∧ cycleTime ≤ 60000) ∧
      1 ≤ counter ∧ counter ≤ 2000000000
  | request => request.InRange

theorem inRange_of_fromWidgets {request : Request} (h : request.FromWidgets) :
    request.InRange := by
  cases request with
  | slot slotNo canIdText idType cycleTime counter =>
    obtain ⟨hslot, hcycle, hcounter⟩ := h
    exact ⟨hslot, ⟨hcycle.1, by omega⟩, by omega, by omega⟩
  | _ => exact h

end Agreement

end Gui

end Command

end CanGui
