import Mathlib.Data.Nat.Init
import Mathlib.Logic.Function.Iterate
import Mathlib.Tactic.Common

/-!
# Calendars of twelve months

A rule that tells the leap years gives a calendar.  The date of a day is found
by going from one day to the next, starting on the first of January of an epoch
year.  Dates are numbered by the days in front of them, and the date of a day
is the only one with that number.  Days of the week are counted in the same
way.
-/

namespace EchoServer

namespace CivilCalendar

/-- The days of a month; the months count from one. -/
def monthLength (leap : Bool) (month : Nat) : Nat :=
  if month = 2 then if leap then 29 else 28
  else if month ∈ [4, 6, 9, 11] then 30
  else 31

def yearLength (leap : Bool) : Nat :=
  if leap then 366 else 365

/-- The days of a year in front of one of its months. -/
def daysBeforeMonth (leap : Bool) : Nat → Nat
  | 0 => 0
  | 1 => 0
  | month + 2 =>
      daysBeforeMonth leap (month + 1) + monthLength leap (month + 1)

/-- A date of the calendar with the given leap years. -/
@[ext]
structure Date (leap : Nat → Bool) where
  year : Nat
  month : Nat
  day : Nat
  month_pos : 0 < month
  month_le : month ≤ 12
  day_pos : 0 < day
  day_le : day ≤ monthLength (leap year) month

/-- Every fourth year is a leap year. -/
def julianLeap (year : Nat) : Bool :=
  year % 4 = 0

/-- Every fourth year is a leap year, except for the centuries that are not
divisible by 400. -/
def gregorianLeap (year : Nat) : Bool :=
  year % 4 = 0 ∧ (year % 100 ≠ 0 ∨ year % 400 = 0)

variable {leap : Nat → Bool}

theorem monthLength_pos (leapYear : Bool) (month : Nat) :
    0 < monthLength leapYear month := by
  unfold monthLength
  split_ifs <;> omega

theorem monthLength_le (leapYear : Bool) (month : Nat) :
    monthLength leapYear month ≤ 31 := by
  unfold monthLength
  split_ifs <;> omega

namespace Date

/-- The first of January. -/
def newYear (leap : Nat → Bool) (year : Nat) : Date leap where
  year := year
  month := 1
  day := 1
  month_pos := by decide
  month_le := by decide
  day_pos := by decide
  day_le := monthLength_pos _ _

/-- The day after. -/
def tomorrow (date : Date leap) : Date leap :=
  if inMonth : date.day < monthLength (leap date.year) date.month then
    { date with
      day := date.day + 1
      day_pos := Nat.succ_pos _
      day_le := inMonth }
  else if inYear : date.month < 12 then
    { year := date.year
      month := date.month + 1
      day := 1
      month_pos := Nat.succ_pos _
      month_le := inYear
      day_pos := Nat.one_pos
      day_le := monthLength_pos _ _ }
  else
    newYear leap (date.year + 1)

/-- The days of its year in front of a date. -/
def dayOfYear (date : Date leap) : Nat :=
  daysBeforeMonth (leap date.year) date.month + (date.day - 1)

/-- One date comes before another. -/
def Earlier (first second : Date leap) : Prop :=
  first.year < second.year ∨
    first.year = second.year ∧
      (first.month < second.month ∨
        first.month = second.month ∧ first.day < second.day)

end Date

/-- The date a number of days after the first day of an epoch. -/
def dateOn (leap : Nat → Bool) (epoch days : Nat) : Date leap :=
  Date.tomorrow^[days] (Date.newYear leap epoch)

/-- The days of a number of years from an epoch on. -/
def daysOfYears (leap : Nat → Bool) (epoch : Nat) : Nat → Nat
  | 0 => 0
  | years + 1 =>
      daysOfYears leap epoch years + yearLength (leap (epoch + years))

/-- The days from an epoch to a date. -/
def Date.dayNumber (epoch : Nat) (date : Date leap) : Nat :=
  daysOfYears leap epoch (date.year - epoch) + date.dayOfYear

inductive Weekday
  | sunday
  | monday
  | tuesday
  | wednesday
  | thursday
  | friday
  | saturday

namespace Weekday

/-- The weekday of the next day. -/
def next : Weekday → Weekday
  | sunday => monday
  | monday => tuesday
  | tuesday => wednesday
  | wednesday => thursday
  | thursday => friday
  | friday => saturday
  | saturday => sunday

/-- The days since Sunday. -/
def number : Weekday → Nat
  | sunday => 0
  | monday => 1
  | tuesday => 2
  | wednesday => 3
  | thursday => 4
  | friday => 5
  | saturday => 6

theorem number_next (weekday : Weekday) :
    weekday.next.number = (weekday.number + 1) % 7 := by
  cases weekday <;> rfl

theorem number_lt (weekday : Weekday) : weekday.number < 7 := by
  cases weekday <;> decide

/-- The weekday a number of days later. -/
theorem number_iterate_next (weekday : Weekday) (days : Nat) :
    (next^[days] weekday).number = (days + weekday.number) % 7 := by
  induction days with
  | zero => simp [Nat.mod_eq_of_lt (number_lt weekday)]
  | succ days ih =>
      rw [Function.iterate_succ_apply', number_next, ih]
      omega

end Weekday

/-- The last day of December ends the year. -/
theorem daysBeforeMonth_december (leapYear : Bool) :
    daysBeforeMonth leapYear 12 + monthLength leapYear 12 =
      yearLength leapYear := by
  cases leapYear <;> rfl

theorem daysBeforeMonth_succ (leapYear : Bool) {month : Nat}
    (positive : 0 < month) :
    daysBeforeMonth leapYear (month + 1) =
      daysBeforeMonth leapYear month + monthLength leapYear month := by
  cases month with
  | zero => exact absurd positive (Nat.lt_irrefl 0)
  | succ month => rfl

/-- A month comes behind the earlier ones. -/
theorem daysBeforeMonth_le (leapYear : Bool) {first second : Nat}
    (positive : 0 < first) (earlier : first < second) :
    daysBeforeMonth leapYear first + monthLength leapYear first ≤
      daysBeforeMonth leapYear second := by
  induction second, earlier using Nat.le_induction with
  | base => exact Nat.le_of_eq (daysBeforeMonth_succ leapYear positive).symm
  | succ second later ih =>
      rw [daysBeforeMonth_succ leapYear (by omega)]
      omega

/-- A year comes behind the earlier ones. -/
theorem daysOfYears_le (leap : Nat → Bool) (epoch : Nat)
    {first second : Nat} (earlier : first < second) :
    daysOfYears leap epoch first + yearLength (leap (epoch + first)) ≤
      daysOfYears leap epoch second := by
  induction second, earlier using Nat.le_induction with
  | base => exact Nat.le_refl _
  | succ second later ih =>
      rw [daysOfYears]
      omega

namespace Date

theorem day_le_31 (date : Date leap) : date.day ≤ 31 :=
  Nat.le_trans date.day_le (monthLength_le _ _)

theorem dayOfYear_lt (date : Date leap) :
    date.dayOfYear < yearLength (leap date.year) := by
  have positive := date.day_pos
  have inMonth := date.day_le
  have december := daysBeforeMonth_december (leap date.year)
  unfold dayOfYear
  rcases Nat.lt_or_ge date.month 12 with earlier | last
  · have behind := daysBeforeMonth_le (leap date.year) date.month_pos earlier
    omega
  · have isLast : date.month = 12 := Nat.le_antisymm date.month_le last
    rw [isLast] at inMonth ⊢
    omega

/-- The day after has the next number. -/
theorem dayNumber_tomorrow {epoch : Nat} {date : Date leap}
    (since : epoch ≤ date.year) :
    date.tomorrow.dayNumber epoch = date.dayNumber epoch + 1 ∧
      epoch ≤ date.tomorrow.year := by
  have positive := date.day_pos
  have inMonth := date.day_le
  unfold tomorrow
  split_ifs with sameMonth sameYear
  · refine ⟨?_, since⟩
    simp only [dayNumber, dayOfYear]
    omega
  · refine ⟨?_, since⟩
    simp only [dayNumber, dayOfYear,
      daysBeforeMonth_succ (leap date.year) date.month_pos]
    omega
  · refine ⟨?_, Nat.le_succ_of_le since⟩
    have december := daysBeforeMonth_december (leap date.year)
    have isLast : date.month = 12 := by
      have := date.month_le
      omega
    have years : date.year + 1 - epoch = date.year - epoch + 1 := by omega
    have same : epoch + (date.year - epoch) = date.year := by omega
    rw [isLast] at sameMonth inMonth
    simp only [dayNumber, dayOfYear, newYear, years, daysOfYears, same,
      isLast, daysBeforeMonth]
    simp only [daysBeforeMonth] at december
    omega

/-- Earlier dates have smaller numbers. -/
theorem dayNumber_lt {epoch : Nat} {first second : Date leap}
    (since : epoch ≤ first.year) (earlier : first.Earlier second) :
    first.dayNumber epoch < second.dayNumber epoch := by
  have firstPositive := first.day_pos
  have firstInMonth := first.day_le
  unfold dayNumber
  rcases earlier with earlierYear | ⟨sameYear, earlierMonth | ⟨sameMonth, _⟩⟩
  · have behind := daysOfYears_le leap epoch
      (show first.year - epoch < second.year - epoch by omega)
    have same : epoch + (first.year - epoch) = first.year := by omega
    rw [same] at behind
    have inYear := first.dayOfYear_lt
    omega
  · have behind := daysBeforeMonth_le (leap first.year) first.month_pos
      earlierMonth
    simp only [dayOfYear, sameYear] at behind firstInMonth ⊢
    omega
  · simp only [dayOfYear, sameYear, sameMonth]
    omega

theorem earlier_or_eq (first second : Date leap) :
    first.Earlier second ∨ first = second ∨ second.Earlier first := by
  by_cases same : first.year = second.year ∧ first.month = second.month ∧
      first.day = second.day
  · exact .inr (.inl (Date.ext same.1 same.2.1 same.2.2))
  · unfold Earlier
    omega

/-- A date is determined by its number. -/
theorem eq_of_dayNumber_eq {epoch : Nat} {first second : Date leap}
    (firstSince : epoch ≤ first.year) (secondSince : epoch ≤ second.year)
    (same : first.dayNumber epoch = second.dayNumber epoch) :
    first = second := by
  rcases first.earlier_or_eq second with earlier | equal | later
  · have := dayNumber_lt firstSince earlier
    omega
  · exact equal
  · have := dayNumber_lt secondSince later
    omega

end Date

theorem dayNumber_dateOn (leap : Nat → Bool) (epoch days : Nat) :
    (dateOn leap epoch days).dayNumber epoch = days ∧
      epoch ≤ (dateOn leap epoch days).year := by
  induction days with
  | zero =>
      simp [dateOn, Date.newYear, Date.dayNumber, Date.dayOfYear,
        daysBeforeMonth, daysOfYears]
  | succ days ih =>
      have next := Date.dayNumber_tomorrow ih.2
      rw [ih.1] at next
      rw [dateOn, Function.iterate_succ_apply']
      exact next

/-- The date of a day is the only one with its number. -/
theorem dateOn_eq_iff {epoch days : Nat} {date : Date leap}
    (since : epoch ≤ date.year) :
    dateOn leap epoch days = date ↔ date.dayNumber epoch = days := by
  obtain ⟨number, dateSince⟩ := dayNumber_dateOn leap epoch days
  constructor
  · rintro rfl
    exact number
  · intro same
    exact Date.eq_of_dayNumber_eq dateSince since (number.trans same.symm)

/-- No later day has an earlier date. -/
theorem not_earlier_dateOn {epoch first second : Nat}
    (ordered : first ≤ second) :
    ¬ (dateOn leap epoch second).Earlier (dateOn leap epoch first) := by
  intro earlier
  obtain ⟨secondNumber, secondSince⟩ :=
    dayNumber_dateOn leap epoch second
  have numbers := Date.dayNumber_lt secondSince earlier
  rw [secondNumber, (dayNumber_dateOn leap epoch first).1] at numbers
  omega

theorem dateOn_injective (leap : Nat → Bool) (epoch : Nat) :
    Function.Injective (dateOn leap epoch) := by
  intro first second same
  rw [← (dayNumber_dateOn leap epoch first).1, same,
    (dayNumber_dateOn leap epoch second).1]

end CivilCalendar

end EchoServer
