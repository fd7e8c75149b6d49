import EchoServer.CalendarTime
import Mathlib.Data.List.GetD

/-!
# The calendar functions and the civil calendar

`time_to_tm` counts in cycles of four years, so it follows the calendar in
which every fourth year is a leap year.  That calendar and the civil one part
on the first of March 2100.  `tm_yday` is counted from the year in front of a
first of January that the loop over the months carries into.
-/

namespace EchoServer

open CivilCalendar

/-- The days from the first of January 1970 to a time, in a zone eight hours
ahead. -/
def localDay (time : Nat) : Nat :=
  (time + 8 * 3600) / 86400

/-- The seconds of its day in front of a time. -/
def secondOfDay (time : Nat) : Nat :=
  (time + 8 * 3600) % 86400

/-- The date of a time. -/
def civilDate (time : Nat) : Date gregorianLeap :=
  dateOn gregorianLeap 1970 (localDay time)

/-- The first of January 1970 was a Thursday. -/
def civilWeekday (time : Nat) : Weekday :=
  Weekday.next^[localDay time] .thursday

/-- The fields are the date and the time of day in the local zone. -/
structure Tm.ShowsLocalTime (tm : Tm) (time : Nat) : Prop where
  year : tm.tmYear + 1900 = (civilDate time).year
  mon : tm.tmMon + 1 = (civilDate time).month
  mday : tm.tmMday = (civilDate time).day
  hour : tm.tmHour = secondOfDay time / 3600
  min : tm.tmMin = secondOfDay time % 3600 / 60
  sec : tm.tmSec = secondOfDay time % 60
  wday : tm.tmWday = (civilWeekday time).number
  yday : tm.tmYday = (civilDate time).dayOfYear

/-- The first days of the second, third and fourth year of a cycle. -/
def YearCarried (day : Nat) : Prop :=
  day % 1461 ∈ [365, 730, 1096]

instance (day : Nat) : Decidable (YearCarried day) :=
  inferInstanceAs (Decidable (_ ∈ _))

/-- The first of March 2100, counted in days from the epoch. -/
def firstOfMarch2100 : Nat :=
  47541

/-- The loop over the years finds the year of the cycle; it leaves the first
day of the next year to the loop over the months. -/
theorem leaveYears_cycle {day : Nat} (inCycle : day < 1461) :
    let left := leaveYears leapYear 0 day
    left.1 < 4 ∧ 365 * left.1 + (left.1 + 1) / 4 + left.2 = day ∧
      left.2 ≤ yearLength (leapYear.getD left.1 false) ∧
      (left.2 = yearLength (leapYear.getD left.1 false) ↔
        YearCarried day) := by
  simp only [leapYear, leaveYears, Bool.false_eq_true, if_false, if_true,
    YearCarried, List.mem_cons, List.not_mem_nil, or_false,
    Nat.mod_eq_of_lt inCycle]
  split_ifs <;> simp [yearLength] <;> omega

theorem monthDays_eq : ∀ leap : Bool, ∀ j < 12,
    (if leap ∧ j = 1 then 29 else monthDays.getD j 0) =
      monthLength leap (j + 1) := by
  decide

/-- The loop over the months finds the month and the days left in it, or
carries into the next year. -/
theorem leaveMonths_spec (leap : Bool) (months : List Nat) :
    ∀ j leave, months = monthDays.drop j → j ≤ 12 →
      daysBeforeMonth leap (j + 1) + leave ≤ yearLength leap →
      let left := leaveMonths leap months j leave
      daysBeforeMonth leap (left.1 + 1) + left.2 =
          daysBeforeMonth leap (j + 1) + leave ∧
        (left.1 < 12 ∧ left.2 < monthLength leap (left.1 + 1) ∨
          left.1 = 12 ∧ left.2 = 0) := by
  have december : daysBeforeMonth leap (12 + 1) = yearLength leap :=
    daysBeforeMonth_december leap
  induction months with
  | nil =>
      intro j leave behind within inYear
      obtain rfl : j = 12 := by
        have outside := List.drop_eq_nil_iff.mp behind.symm
        exact Nat.le_antisymm within outside
      refine ⟨rfl, .inr ⟨rfl, ?_⟩⟩
      simp only [leaveMonths]
      omega
  | cons days months ih =>
      intro j leave behind within inYear
      have inTable : j < monthDays.length := by
        by_contra outside
        rw [List.drop_eq_nil_of_le (by omega)] at behind
        cases behind
      rw [List.drop_eq_getElem_cons inTable] at behind
      obtain ⟨rfl, rest⟩ := List.cons.inj behind
      have length := monthDays_eq leap j inTable
      rw [List.getD_eq_getElem _ _ inTable] at length
      have next : daysBeforeMonth leap (j + 1 + 1) =
          daysBeforeMonth leap (j + 1) + monthLength leap (j + 1) :=
        daysBeforeMonth_succ leap (Nat.succ_pos j)
      have nonempty := monthLength_pos leap (j + 1 + 1)
      change j < 12 at inTable
      simp only [leaveMonths, length]
      split_ifs with inMonth onLast
      · exact ⟨rfl, .inl ⟨inTable, inMonth⟩⟩
      · refine ⟨by rw [next, onLast]; rfl, ?_⟩
        rcases Nat.lt_or_eq_of_le inTable with earlier | last
        · exact .inl ⟨earlier, nonempty⟩
        · exact .inr ⟨last, rfl⟩
      · have left := ih (j + 1) (leave - monthLength leap (j + 1)) rest
          inTable (by omega)
        rw [next] at left
        simp only at left ⊢
        omega

theorem daysOfYears_julian (years : Nat) :
    daysOfYears julianLeap 1970 years = 365 * years + (years + 1) / 4 := by
  induction years with
  | zero => rfl
  | succ years ih =>
      simp only [daysOfYears, ih, yearLength, julianLeap,
        decide_eq_true_eq]
      split_ifs <;> omega

/-- Before 2200 the civil calendar leaves out one leap day. -/
theorem daysOfYears_gregorian {years : Nat} (bound : years ≤ 230) :
    daysOfYears gregorianLeap 1970 years + (if years ≤ 130 then 0 else 1) =
      365 * years + (years + 1) / 4 := by
  induction years with
  | zero => rfl
  | succ years ih =>
      have before := ih (by omega)
      simp only [daysOfYears, yearLength, gregorianLeap,
        decide_eq_true_eq]
      split_ifs at before ⊢ <;> omega

/-- The table of the leap years in a cycle of four. -/
theorem julianLeap_cycle {i : Nat} (inCycle : i < 4) (cycles : Nat) :
    julianLeap (cycles * 4 + i + 70 + 1900) = leapYear.getD i false := by
  have table : ∀ i < 4, leapYear.getD i false = decide (i % 4 = 2) := by
    decide
  rw [table i inCycle]
  apply decide_eq_decide.mpr
  omega

/-- The days of a cycle up to a year of it, and up to the next year. -/
theorem daysOfCycle_succ : ∀ i < 4,
    365 * (i + 1) + (i + 2) / 4 =
      365 * i + (i + 1) / 4 + yearLength (leapYear.getD i false) := by
  decide

/-- The date that `time_to_tm` fills in is that of the calendar in which every
fourth year is a leap year. -/
theorem timeToTm_date {time : Nat} (bound : time < 2 ^ 32) :
    let date := dateOn julianLeap 1970 (localDay time)
    (timeToTm time).tmYear + 1900 = date.year ∧
      (timeToTm time).tmMon + 1 = date.month ∧
      (timeToTm time).tmMday = date.day ∧
      (¬ YearCarried (localDay time) →
        (timeToTm time).tmYday = date.dayOfYear) ∧
      (YearCarried (localDay time) →
        0 < (timeToTm time).tmYday ∧ date.month = 1 ∧ date.day = 1) := by
  have day : (time % 2 ^ 32 / 60 / 60 + 8) / 24 = localDay time := by
    unfold localDay
    omega
  have inCycle := leaveYears_cycle
    (show localDay time % (365 * 4 + 1) < 1461 from Nat.mod_lt _ (by decide))
  rcases years : leaveYears leapYear 0 (localDay time % (365 * 4 + 1)) with
    ⟨i, yearDays⟩
  rw [years] at inCycle
  simp only [YearCarried, Nat.mod_mod] at inCycle
  obtain ⟨fourYears, split, inYear, carried⟩ := inCycle
  have leap := julianLeap_cycle fourYears (localDay time / (365 * 4 + 1))
  have inMonths := leaveMonths_spec (leapYear.getD i false) monthDays 0
    yearDays rfl (by decide) (by simpa [daysBeforeMonth] using inYear)
  rcases months : leaveMonths (leapYear.getD i false) monthDays 0 yearDays with
    ⟨j, left⟩
  rw [months] at inMonths
  simp only [daysBeforeMonth, Nat.zero_add] at inMonths
  simp only [timeToTm, day, years, months]
  obtain ⟨before, ⟨inTable, inMonth⟩ | ⟨rfl, rfl⟩⟩ := inMonths
  · let date : Date julianLeap :=
      { year := localDay time / (365 * 4 + 1) * 4 + i + 70 + 1900
        month := j + 1
        day := left + 1
        month_pos := Nat.succ_pos j
        month_le := inTable
        day_pos := Nat.succ_pos left
        day_le := leap ▸ inMonth }
    have dayOfYear : date.dayOfYear = yearDays := by
      simp only [Date.dayOfYear, date, leap]
      exact before
    have isDate : dateOn julianLeap 1970 (localDay time) = date := by
      apply (dateOn_eq_iff (by simp only [date]; omega)).mpr
      rw [Date.dayNumber, dayOfYear, daysOfYears_julian]
      simp only [date]
      omega
    have inYear := date.dayOfYear_lt
    rw [dayOfYear, leap] at inYear
    have notLast : ¬ 12 ≤ j := Nat.not_le.mpr inTable
    rw [isDate]
    refine ⟨?_, ?_, rfl, fun _ => ?_, fun isCarried => ?_⟩
    · simp only [notLast, if_false, date]
    · simp only [notLast, if_false, date]
    · rw [dayOfYear]
    · exact absurd (carried.mpr isCarried) (Nat.ne_of_lt inYear)
  · have december := daysBeforeMonth_december (leapYear.getD i false)
    have wholeYear :
        yearDays = yearLength (leapYear.getD i false) := by
      rw [← december, ← before]
      rfl
    have isDate : dateOn julianLeap 1970 (localDay time) =
        Date.newYear julianLeap
          (localDay time / (365 * 4 + 1) * 4 + i + 70 + 1 + 1900) := by
      apply (dateOn_eq_iff (by simp only [Date.newYear]; omega)).mpr
      have number := daysOfCycle_succ i fourYears
      rw [← wholeYear] at number
      simp only [Date.dayNumber, daysOfYears_julian, Date.newYear,
        Date.dayOfYear, daysBeforeMonth]
      omega
    have someDays : 0 < yearDays := by
      rw [wholeYear, yearLength]
      split_ifs <;> decide
    rw [isDate]
    refine ⟨rfl, rfl, rfl, fun notCarried => ?_, fun _ => ?_⟩
    · exact absurd (carried.mp wholeYear) notCarried
    · exact ⟨by exact_mod_cast someDays, rfl, rfl⟩

/-- A leap day moves all months behind February. -/
theorem daysBeforeMonth_leap : ∀ month ≤ 12,
    daysBeforeMonth true month =
      daysBeforeMonth false month + if month ≤ 2 then 0 else 1 := by
  decide

/-- The leap years of the two calendars that a 32-bit time can come to. -/
theorem gregorianLeap_eq {year : Nat} (since : 1970 ≤ year)
    (bound : year < 2200) :
    gregorianLeap year = (julianLeap year && year ≠ 2100) := by
  unfold gregorianLeap julianLeap
  rw [← Bool.decide_and]
  apply decide_eq_decide.mpr
  omega

/-- Until the end of February 2100 a date of the calendar in which every
fourth year is a leap year is one of the civil calendar too, with as many days
in front of its month. -/
theorem month_gregorian {date : Date julianLeap} (since : 1970 ≤ date.year)
    (before : date.dayNumber 1970 < firstOfMarch2100) :
    date.day ≤ monthLength (gregorianLeap date.year) date.month ∧
      daysBeforeMonth (gregorianLeap date.year) date.month =
        daysBeforeMonth (julianLeap date.year) date.month := by
  have inMonth := date.day_le
  rw [Date.dayNumber, daysOfYears_julian] at before
  simp only [firstOfMarch2100] at before
  by_cases last : date.year = 2100
  · have noLeap : gregorianLeap date.year = false := by rw [last]; rfl
    have leap : julianLeap date.year = true := by rw [last]; rfl
    rw [Date.dayOfYear, leap] at before
    rw [leap] at inMonth ⊢
    rw [noLeap]
    have february : daysBeforeMonth true 2 + monthLength true 2 = 60 := rfl
    obtain first | second | later :
        date.month = 1 ∨ date.month = 2 ∨ 2 < date.month := by
      have := date.month_pos
      omega
    · rw [first] at inMonth ⊢
      exact ⟨inMonth, rfl⟩
    · rw [second] at before ⊢
      have january : daysBeforeMonth true 2 = 31 := rfl
      have length : monthLength false 2 = 28 := rfl
      refine ⟨?_, rfl⟩
      omega
    · have behind := daysBeforeMonth_le true (by decide) later
      omega
  · have same : gregorianLeap date.year = julianLeap date.year := by
      simp [gregorianLeap_eq since (by omega), last]
    rw [same]
    exact ⟨inMonth, rfl⟩

/-- The two calendars agree until the end of February 2100. -/
theorem dateOn_gregorian {day : Nat} (before : day < firstOfMarch2100) :
    let date := dateOn julianLeap 1970 day
    (dateOn gregorianLeap 1970 day).year = date.year ∧
      (dateOn gregorianLeap 1970 day).month = date.month ∧
      (dateOn gregorianLeap 1970 day).day = date.day ∧
      (dateOn gregorianLeap 1970 day).dayOfYear = date.dayOfYear := by
  obtain ⟨number, since⟩ := dayNumber_dateOn julianLeap 1970 day
  generalize dateOn julianLeap 1970 day = date at number since
  obtain ⟨inMonth, monthStart⟩ :=
    month_gregorian since (number.symm ▸ before)
  let civil : Date gregorianLeap :=
    { year := date.year
      month := date.month
      day := date.day
      month_pos := date.month_pos
      month_le := date.month_le
      day_pos := date.day_pos
      day_le := inMonth }
  have dayOfYear : civil.dayOfYear = date.dayOfYear := by
    simp only [Date.dayOfYear, civil, monthStart]
  have sameYears : daysOfYears gregorianLeap 1970 (date.year - 1970) =
      daysOfYears julianLeap 1970 (date.year - 1970) := by
    rw [← number, Date.dayNumber, daysOfYears_julian] at before
    simp only [firstOfMarch2100] at before
    have closed := daysOfYears_gregorian
      (show date.year - 1970 ≤ 230 by omega)
    rw [if_pos (by omega), Nat.add_zero] at closed
    rw [closed, daysOfYears_julian]
  have isDate : dateOn gregorianLeap 1970 day = civil := by
    apply (dateOn_eq_iff (show 1970 ≤ civil.year from since)).mpr
    rw [Date.dayNumber, dayOfYear]
    simp only [civil, sameYears]
    exact number
  rw [isDate]
  exact ⟨rfl, rfl, rfl, dayOfYear⟩

/-- From the first of March 2100 on the two calendars differ, as far as a
32-bit time goes. -/
theorem dateOn_differs {day : Nat} (since : firstOfMarch2100 ≤ day)
    (bound : day < 50000) :
    let date := dateOn julianLeap 1970 day
    ¬ ((dateOn gregorianLeap 1970 day).year = date.year ∧
      (dateOn gregorianLeap 1970 day).month = date.month ∧
      (dateOn gregorianLeap 1970 day).day = date.day) := by
  rintro date ⟨years, months, days⟩
  obtain ⟨number, dateSince⟩ := dayNumber_dateOn julianLeap 1970 day
  obtain ⟨civilNumber, -⟩ := dayNumber_dateOn gregorianLeap 1970 day
  change date.dayNumber 1970 = day at number
  change 1970 ≤ date.year at dateSince
  generalize dateOn gregorianLeap 1970 day = civil at *
  have inMonth := civil.day_le
  have positive := date.day_pos
  have within := date.month_le
  have inYear := date.dayOfYear_lt
  rw [Date.dayNumber, daysOfYears_julian] at number
  rw [Date.dayNumber] at civilNumber
  simp only [Date.dayOfYear, years, months, days]
    at civilNumber inMonth number inYear
  simp only [firstOfMarch2100] at since
  have closed := daysOfYears_gregorian
    (show date.year - 1970 ≤ 230 by omega)
  have leapEq := gregorianLeap_eq dateSince (by omega)
  have atMost : yearLength (julianLeap date.year) ≤ 366 := by
    unfold yearLength
    split_ifs <;> decide
  obtain early | last | late :
      date.year < 2100 ∨ date.year = 2100 ∨ 2100 < date.year := by omega
  · omega
  · have noLeap : gregorianLeap date.year = false := by rw [last]; rfl
    have leap : julianLeap date.year = true := by rw [last]; rfl
    have moved := daysBeforeMonth_leap date.month within
    rw [noLeap] at inMonth civilNumber
    rw [leap] at number
    have firstMonths : date.month ≤ 2 := by
      by_contra behind
      rw [if_neg behind] at moved
      omega
    have ends : ∀ month ≤ 2,
        daysBeforeMonth false month + monthLength false month ≤ 59 := by
      decide
    have behind := ends date.month firstMonths
    omega
  · have same : gregorianLeap date.year = julianLeap date.year := by
      rw [leapEq, decide_eq_true (Nat.ne_of_gt late), Bool.and_true]
    rw [same] at civilNumber
    rw [if_neg (by omega)] at closed
    omega

/-- The time of day and the weekday are right for every time. -/
theorem timeToTm_clock {time : Nat} (bound : time < 2 ^ 32) :
    (timeToTm time).tmHour = secondOfDay time / 3600 ∧
      (timeToTm time).tmMin = secondOfDay time % 3600 / 60 ∧
      (timeToTm time).tmSec = secondOfDay time % 60 ∧
      (timeToTm time).tmWday = (civilWeekday time).number := by
  rw [civilWeekday, Weekday.number_iterate_next]
  simp only [timeToTm, secondOfDay, localDay, Weekday.number]
  omega

/-- `time_to_tm` fills in the local date and time of a 32-bit time if and only
if the time is before March 2100 and not on a first of January that ends a
year of the cycle. -/
theorem timeToTm_showsLocalTime_iff (time : Nat) (bound : time < 2 ^ 32) :
    (timeToTm time).ShowsLocalTime time ↔
      localDay time < firstOfMarch2100 ∧ ¬ YearCarried (localDay time) := by
  obtain ⟨years, months, days, yday, carried⟩ := timeToTm_date bound
  constructor
  · intro shows
    have before : localDay time < firstOfMarch2100 := by
      by_contra after
      have inRange : localDay time < 50000 := by
        unfold localDay
        omega
      apply dateOn_differs (Nat.le_of_not_lt after) inRange
      exact ⟨shows.year.symm.trans years, shows.mon.symm.trans months,
        shows.mday.symm.trans days⟩
    refine ⟨before, ?_⟩
    intro isCarried
    obtain ⟨someDays, january, first⟩ := carried isCarried
    have yearDays := shows.yday
    rw [civilDate, (dateOn_gregorian before).2.2.2, Date.dayOfYear, january,
      first] at yearDays
    simp only [daysBeforeMonth] at yearDays
    omega
  · rintro ⟨before, notCarried⟩
    obtain ⟨civilYears, civilMonths, civilDays, civilYday⟩ :=
      dateOn_gregorian before
    obtain ⟨hour, min, sec, wday⟩ := timeToTm_clock bound
    refine ⟨?_, ?_, ?_, hour, min, sec, wday, ?_⟩
    · exact years.trans civilYears.symm
    · exact months.trans civilMonths.symm
    · exact days.trans civilDays.symm
    · rw [yday notCarried, civilDate, civilYday]

/-- The 29th of February 2024, at one second before midnight. -/
theorem timeToTm_showsLocalTime_leapDay :
    (timeToTm 1709222399).ShowsLocalTime 1709222399 :=
  (timeToTm_showsLocalTime_iff 1709222399 (by decide)).mpr (by decide)

/-- On the first of January 1971 `tm_yday` is 365. -/
theorem timeToTm_firstOfJanuary1971 :
    31507200 < 2 ^ 32 ∧ ¬ (timeToTm 31507200).ShowsLocalTime 31507200 := by
  refine ⟨by decide, ?_⟩
  intro shows
  have yearDays := shows.yday
  have isCarried : YearCarried (localDay 31507200) := by decide
  obtain ⟨-, -, -, -, carried⟩ :=
    timeToTm_date (show 31507200 < 2 ^ 32 by decide)
  obtain ⟨someDays, january, first⟩ := carried isCarried
  rw [civilDate, (dateOn_gregorian (by decide)).2.2.2, Date.dayOfYear,
    january, first] at yearDays
  simp only [daysBeforeMonth] at yearDays
  omega

/-- The form in which a day is documented: 20190101. -/
def documentedDay (time : Nat) : Nat :=
  (civilDate time).year * 10000 + (civilDate time).month * 100 +
    (civilDate time).day

/-- The packed date is one month behind the documented form. -/
theorem getNowDay_add {time : Nat}
    (before : localDay time < firstOfMarch2100) :
    getNowDay time + 100 = documentedDay time := by
  have bound : time < 2 ^ 32 := by
    simp only [localDay, firstOfMarch2100] at before
    omega
  obtain ⟨years, months, days, -, -⟩ := timeToTm_date bound
  obtain ⟨civilYears, civilMonths, civilDays, -⟩ := dateOn_gregorian before
  rw [documentedDay, civilDate, civilYears, civilMonths, civilDays, ← years,
    ← months, ← days, getNowDay]
  omega

/-- The documented form orders the dates. -/
theorem documentedDay_le {time other : Nat} (ordered : time ≤ other) :
    documentedDay time ≤ documentedDay other := by
  have days : localDay time ≤ localDay other := by
    unfold localDay
    omega
  have notEarlier : ¬ (civilDate other).Earlier (civilDate time) :=
    not_earlier_dateOn days
  have monthBound := (civilDate time).month_le
  have dayBound := Date.day_le_31 (civilDate time)
  unfold Date.Earlier at notEarlier
  unfold documentedDay
  omega

/-- The documented form tells the dates apart. -/
theorem documentedDay_eq_iff {time other : Nat} :
    documentedDay time = documentedDay other ↔
      civilDate time = civilDate other := by
  constructor
  · intro same
    have monthBound := (civilDate time).month_le
    have dayBound := Date.day_le_31 (civilDate time)
    have otherMonthBound := (civilDate other).month_le
    have otherDayBound := Date.day_le_31 (civilDate other)
    unfold documentedDay at same
    apply Date.ext <;> omega
  · intro same
    rw [documentedDay, documentedDay, same]

/-- Two times have the same date if they are on the same day. -/
theorem civilDate_eq_iff {time other : Nat} :
    civilDate time = civilDate other ↔ localDay time = localDay other :=
  (dateOn_injective gregorianLeap 1970).eq_iff

/-- Before March 2100 `getNowDay` never is the day in its documented form: it
is one month behind.  It still grows with the time, and is the same for two
times if and only if they have the same date. -/
theorem getNowDay_not_documented (time other : Nat)
    (before : localDay time < firstOfMarch2100)
    (otherBefore : localDay other < firstOfMarch2100) :
    getNowDay time ≠ documentedDay time ∧
      getNowDay time + 100 = documentedDay time ∧
      (time ≤ other → getNowDay time ≤ getNowDay other) ∧
      (getNowDay time = getNowDay other ↔
        civilDate time = civilDate other) := by
  have timeDay := getNowDay_add before
  have otherDay := getNowDay_add otherBefore
  refine ⟨by omega, timeDay, ?_, ?_⟩
  · intro ordered
    have grows := documentedDay_le ordered
    omega
  · rw [← documentedDay_eq_iff, ← timeDay, ← otherDay,
      Nat.add_right_cancel_iff]

/-- The epoch, and a day later. -/
theorem getNowDay_not_documented_epoch :
    getNowDay 0 ≠ documentedDay 0 ∧ getNowDay 0 + 100 = documentedDay 0 ∧
      (0 ≤ 86400 → getNowDay 0 ≤ getNowDay 86400) ∧
      (getNowDay 0 = getNowDay 86400 ↔ civilDate 0 = civilDate 86400) :=
  getNowDay_not_documented 0 86400 (by decide) (by decide)

/-- The first of January 1970 is stamped 19700001. -/
theorem getNowDay_epoch :
    localDay 0 < firstOfMarch2100 ∧ getNowDay 0 = 19700001 ∧
      documentedDay 0 = 19700101 := by
  decide

/-- The days that `tm_to_time` counts in front of a month. -/
theorem monthbegin_eq : ∀ leap : Bool, ∀ mon < 12,
    monthbegin[mon]? =
      some ((daysBeforeMonth leap (mon + 1) : Int) -
        if leap ∧ mon > 1 then 1 else 0) := by
  decide

theorem monthlen_eq : ∀ leap : Bool, ∀ mon < 12,
    monthlen[mon]? =
      some ((monthLength leap (mon + 1) : Int) -
        if leap ∧ mon = 1 then 1 else 0) := by
  decide

theorem fourthYear_eq (tm : Tm) :
    fourthYear tm = julianLeap (tm.tmYear + 1900) := by
  have lowBits : tm.tmYear &&& 3 = tm.tmYear % 4 :=
    Nat.and_two_pow_sub_one_eq_mod tm.tmYear 2
  unfold fourthYear julianLeap
  apply decide_eq_decide.mpr
  omega

/-- The test does not read the fields that are set in front of it. -/
theorem pastMonth_setDays (length : Int) (tm : Tm) (yday wday : Int) :
    pastMonth length { tm with tmYday := yday, tmWday := wday } =
      pastMonth length tm :=
  rfl

/-- `tm_to_time` counts the day of a date of the calendar in which every
fourth year is a leap year, without asking `mktime`. -/
theorem tmToTime_date {tm : Tm} {date : Date julianLeap}
    (since : 1970 ≤ date.year) (years : tm.tmYear + 1900 = date.year)
    (months : tm.tmMon + 1 = date.month) (days : tm.tmMday = date.day) :
    ∃ length after,
      monthlen[tm.tmMon]? = some length ∧ pastMonth length tm = false ∧
        ∀ mktime, tmToTime mktime tm =
          some (after,
            (date.dayNumber 1970 : Int) * 86400 +
              ((tm.tmHour : Int) - 8) * 3600 + tm.tmMin * 60 + tm.tmSec) := by
  have inMonth := date.day_le
  have positive := date.day_pos
  have inTable : tm.tmMon < 12 := by
    have := date.month_le
    omega
  have leap : fourthYear tm = julianLeap date.year := by
    rw [fourthYear_eq, years]
  rw [← months] at inMonth
  have length := monthlen_eq (julianLeap date.year) _ inTable
  have begins := monthbegin_eq (julianLeap date.year) _ inTable
  have notPast : pastMonth
      ((monthLength (julianLeap date.year) (tm.tmMon + 1) : Int) -
        if julianLeap date.year ∧ tm.tmMon = 1 then 1 else 0) tm = false := by
    apply decide_eq_false
    rw [leap, days]
    split_ifs <;> omega
  have daysInYear :
      ((daysBeforeMonth (julianLeap date.year) (tm.tmMon + 1) : Int) -
          if julianLeap date.year ∧ tm.tmMon > 1 then 1 else 0) +
        tm.tmMday - 1 +
        (if julianLeap date.year ∧ tm.tmMon > 1 then 1 else 0) =
      daysBeforeMonth (julianLeap date.year) (tm.tmMon + 1) +
        (date.day - 1 : Nat) := by
    rw [days]
    split_ifs <;> omega
  have daysSince :
      ((daysBeforeMonth (julianLeap date.year) (tm.tmMon + 1) : Int) +
          (date.day - 1 : Nat)) +
        365 * ((tm.tmYear : Int) - 70) + ((tm.tmYear : Int) - 69).tdiv 4 =
      date.dayNumber 1970 := by
    rw [Int.tdiv_eq_ediv_of_nonneg (by omega), Date.dayNumber,
      daysOfYears_julian, Date.dayOfYear, months]
    omega
  refine ⟨_,
    { tm with
      tmYday := daysBeforeMonth (julianLeap date.year) (tm.tmMon + 1) +
        (date.day - 1 : Nat)
      tmWday := ((date.dayNumber 1970 : Int) + 4).tmod 7 },
    length, notPast, ?_⟩
  intro mktime
  simp only [tmToTime, begins, length, Option.bind_eq_bind,
    Option.bind_some, leap, daysInYear, daysSince, pastMonth_setDays,
    notPast, Bool.false_eq_true, if_false]

/-- `tm_to_time` turns the struct that `time_to_tm` makes of a 32-bit time
back into this time, without asking `mktime`, and neither of them leaves a
table. -/
theorem tmToTime_timeToTm (time : Nat) (bound : time < 2 ^ 32) :
    (leaveYears leapYear 0 (localDay time % (365 * 4 + 1))).1 <
        leapYear.length ∧
      (timeToTm time).tmMon < monthbegin.length ∧
      ∃ length tm,
        monthlen[(timeToTm time).tmMon]? = some length ∧
          pastMonth length (timeToTm time) = false ∧
          ∀ mktime, tmToTime mktime (timeToTm time) =
            some (tm, (time : Int)) := by
  have cycle := leaveYears_cycle
    (show localDay time % (365 * 4 + 1) < 1461 from Nat.mod_lt _ (by decide))
  obtain ⟨years, months, days, -, -⟩ := timeToTm_date bound
  obtain ⟨hour, min, sec, -⟩ := timeToTm_clock bound
  obtain ⟨number, since⟩ :=
    dayNumber_dateOn julianLeap 1970 (localDay time)
  have inTable : (timeToTm time).tmMon < 12 := by
    have := (dateOn julianLeap 1970 (localDay time)).month_le
    omega
  have counted : (localDay time : Int) * 86400 +
      ((secondOfDay time / 3600 : Nat) - 8) * 3600 +
      (secondOfDay time % 3600 / 60 : Nat) * 60 +
      (secondOfDay time % 60 : Nat) = time := by
    unfold localDay secondOfDay
    omega
  obtain ⟨length, tm, inMonth, notPast, turnedBack⟩ :=
    tmToTime_date since years months days
  rw [number, hour, min, sec, counted] at turnedBack
  exact ⟨cycle.1, inTable, length, tm, inMonth, notPast, turnedBack⟩

/-- A time in November 2023. -/
theorem tmToTime_timeToTm_2023 :
    (leaveYears leapYear 0
          (localDay 1700000000 % (365 * 4 + 1))).1 < leapYear.length ∧
      (timeToTm 1700000000).tmMon < monthbegin.length ∧
      ∃ length tm,
        monthlen[(timeToTm 1700000000).tmMon]? = some length ∧
          pastMonth length (timeToTm 1700000000) = false ∧
          ∀ mktime, tmToTime mktime (timeToTm 1700000000) =
            some (tm, ((1700000000 : Nat) : Int)) :=
  tmToTime_timeToTm 1700000000 (by decide)

end EchoServer
