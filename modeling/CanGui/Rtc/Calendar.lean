import CanGui.Common.Calendar
import CanGui.Rtc.Driver
/-!
# PCA2131 — its calendar

The eight bytes of a date and time as a date, a day of the week and a time
of the day: what the driver's check lets through is what the calendar of a
hundred years has.
-/

namespace CanGui

namespace Rtc

open Calendar (Scale Moment Date)

def hundredthsPerSecond : Nat := 100
def hundredthsPerMinute : Nat := 6000
def hundredthsPerHour : Nat := 360000
def hundredthsPerDay : Nat := 8640000

/-- The chip's calendar: a hundred years, counted in hundredths of a
second. -/
def scale : Scale := ⟨100, hundredthsPerDay, by decide⟩

namespace DateTime

/-- The time of the day, in hundredths of a second. -/
def hundredthsOfDay (dateTime : DateTime) : Nat :=
  dateTime.hour.toNat * hundredthsPerHour + dateTime.minute.toNat * hundredthsPerMinute +
    dateTime.second.toNat * hundredthsPerSecond + dateTime.hundredth.toNat

def date (dateTime : DateTime) : Date :=
  ⟨dateTime.year.toNat, dateTime.month.toNat, dateTime.day.toNat⟩

def moment (dateTime : DateTime) : Moment :=
  ⟨dateTime.date, dateTime.weekday.toNat, dateTime.hundredthsOfDay⟩

/-- It is a time of a day of the calendar. -/
structure OnCalendar (dateTime : DateTime) : Prop where
  hundredth_lt : dateTime.hundredth.toNat < 100
  second_lt : dateTime.second.toNat < 60
  minute_lt : dateTime.minute.toNat < 60
  hour_lt : dateTime.hour.toNat < 24
  weekday_lt : dateTime.weekday.toNat < 7
  date : dateTime.date.Valid 100

end DateTime

/-! ## Months -/

variable {month year : UInt8} {dateTime : DateTime}

theorem isLeapYear_iff : isLeapYear year = true ↔ Calendar.Leap year.toNat := by
  simp [isLeapYear, Calendar.Leap, ← UInt8.toNat_inj]

theorem exists_month (hpos : 1 ≤ month.toNat) (hle : month.toNat ≤ 12) : month ∈
    ([1, 2, 3, 4, 5, 6, 7, 8, 9, 10, 11, 12] : List UInt8) := by
  have hmonth := UInt8.ofNat_toNat (x := month)
  interval_cases h : month.toNat <;> rw [← hmonth] <;> decide

theorem toNat_daysInMonth (hpos : 1 ≤ month.toNat) (hle : month.toNat ≤ 12) :
    (daysInMonth month year).toNat = Calendar.monthLength year.toNat month.toNat := by
  have hleap := @isLeapYear_iff year
  have hmonth := exists_month hpos hle
  simp only [List.mem_cons, List.not_mem_nil, or_false] at hmonth
  rcases hmonth with rfl | rfl | rfl | rfl | rfl | rfl | rfl | rfl | rfl | rfl | rfl | rfl <;>
    by_cases h : Calendar.Leap year.toNat <;> simp [daysInMonth, Calendar.monthLength, hleap, h]

/-- A month that is not has no days. -/
theorem daysInMonth_eq_zero (h : ¬(1 ≤ month.toNat ∧ month.toNat ≤ 12)) :
    daysInMonth month year = 0 := by
  rw [daysInMonth, if_pos]
  simp only [UInt8.lt_iff_toNat_lt, UInt8.reduceToNat]
  omega

namespace DateTime

/-- **The driver's check lets through what is on the calendar.** -/
theorem isValid_iff : dateTime.isValid = true ↔ dateTime.OnCalendar := by
  have hranges : dateTime.isValid = true ↔
      (dateTime.hundredth.toNat ≤ 99 ∧ dateTime.second.toNat ≤ 59 ∧ dateTime.minute.toNat ≤ 59 ∧
        dateTime.hour.toNat ≤ 23 ∧ dateTime.weekday.toNat ≤ 6 ∧ dateTime.year.toNat ≤ 99) ∧
      1 ≤ dateTime.day.toNat ∧
        dateTime.day.toNat ≤ (daysInMonth dateTime.month dateTime.year).toNat := by
    unfold isValid
    simp only [UInt8.lt_iff_toNat_lt, UInt8.reduceToNat]
    split
    · simp only [Bool.false_eq_true, false_iff]
      omega
    · split
      · simp only [Bool.false_eq_true, false_iff]
        omega
      · simp only [true_iff]
        omega
  rw [hranges]
  by_cases hmonth : 1 ≤ dateTime.month.toNat ∧ dateTime.month.toNat ≤ 12
  · rw [toNat_daysInMonth hmonth.1 hmonth.2]
    constructor
    · rintro ⟨⟨hhundredth, hsecond, hminute, hhour, hweekday, hyear⟩, hday, hlast⟩
      exact ⟨by omega, by omega, by omega, by omega, by omega, Nat.lt_succ_of_le hyear, hmonth.1,
        hmonth.2, hday, hlast⟩
    · rintro ⟨hhundredth, hsecond, hminute, hhour, hweekday, hyear, -, -, hday, hlast⟩
      exact ⟨⟨by omega, by omega, by omega, by omega, by omega, Nat.le_of_lt_succ hyear⟩, hday,
        hlast⟩
  · rw [daysInMonth_eq_zero hmonth]
    constructor
    · rintro ⟨-, hday, hlast⟩
      simp only [UInt8.toNat_zero] at hlast
      omega
    · intro h
      exact absurd ⟨h.date.month_pos, h.date.month_le⟩ hmonth

/-- A time of a day of the calendar is one of its moments. -/
theorem OnCalendar.moment_valid (h : dateTime.OnCalendar) : dateTime.moment.Valid scale := by
  obtain ⟨hhundredth, hsecond, hminute, hhour, hweekday, hdate⟩ := h
  refine ⟨hdate, hweekday, ?_⟩
  show dateTime.hundredthsOfDay < 8640000
  simp only [hundredthsOfDay, hundredthsPerHour, hundredthsPerMinute, hundredthsPerSecond]
  omega

end DateTime

end Rtc

end CanGui
