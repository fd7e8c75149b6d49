import EchoServer.CivilCalendar
import Mathlib.Algebra.Group.Nat.Defs

/-!
# Times and calendar fields

The calendar functions of `Utils.cpp`, which are written by hand because the
server runs in one time zone, eight hours ahead.  Times are nonnegative; a
`struct tm` made from one has no negative fields except for `tm_isdst`.
-/

namespace EchoServer

/-- `struct tm`. -/
structure Tm where
  tmYear : Nat
  tmMon : Nat
  tmMday : Nat
  tmHour : Nat
  tmMin : Nat
  tmSec : Nat
  tmWday : Int
  tmYday : Int
  tmIsdst : Int
  deriving DecidableEq

def monthDays : List Nat :=
  [31, 28, 31, 30, 31, 30, 31, 31, 30, 31, 30, 31]

def leapYear : List Bool :=
  [false, false, true, false]

/-- The loop of `time_to_tm` over the years: `i` and `leave_for_year_days`
after it. -/
def leaveYears : List Bool → Nat → Nat → Nat × Nat
  | [], i, leave => (i, leave)
  | leap :: years, i, leave =>
      let dayCount := if leap then 366 else 365
      if leave ≤ dayCount then (i, leave)
      else leaveYears years (i + 1) (leave - dayCount)

/-- The loop over the months: `j` and `leave_for_month_days` after it. -/
def leaveMonths (leap : Bool) : List Nat → Nat → Nat → Nat × Nat
  | [], j, leave => (j, leave)
  | days :: months, j, leave =>
      let days := if leap ∧ j = 1 then 29 else days
      if leave < days then (j, leave)
      else if leave = days then (j + 1, 0)
      else leaveMonths leap months (j + 1) (leave - days)

/-- `time_to_tm`. -/
def timeToTm (time : Nat) : Tm :=
  let minutes := time % 2 ^ 32 / 60
  let hours := minutes / 60 + 8
  let days := hours / 24
  let (i, yearDays) := leaveYears leapYear 0 (days % (365 * 4 + 1))
  let (j, monthDays) :=
    leaveMonths (leapYear.getD i false) monthDays 0 yearDays
  let tmYear := days / (365 * 4 + 1) * 4 + i + 70
  { tmYear := if 12 ≤ j then tmYear + 1 else tmYear
    tmMon := if 12 ≤ j then j - 12 else j
    tmMday := monthDays + 1
    tmHour := hours % 24
    tmMin := minutes % 60
    tmSec := time % 60
    tmWday := (days + 4) % 7
    -- Set in front of the loop over the months, and not changed when that
    -- loop carries into the next year.
    tmYday := yearDays
    tmIsdst := -1 }

/-- `getNowDay` at a time; the month counts from zero. -/
def getNowDay (time : Nat) : Nat :=
  let t := timeToTm time
  (t.tmYear + 1900) * 10000 + t.tmMon * 100 + t.tmMday

/-- `%02d`. -/
def twoDigits (number : Nat) : List Char :=
  if number < 10 then '0' :: Nat.toDigits 10 number
  else Nat.toDigits 10 number

/-- `getNowTimeStr` at a time. -/
def getNowTimeStr (time : Nat) : List Char :=
  let t := timeToTm time
  twoDigits t.tmHour ++ twoDigits t.tmMin ++ twoDigits t.tmSec

def monthlen : List Int :=
  [31, 28, 31, 30, 31, 30, 31, 31, 30, 31, 30, 31]

def monthbegin : List Int :=
  [0, 31, 59, 90, 120, 151, 181, 212, 243, 273, 304, 334]

/-- `!(tm_year & 3)`. -/
def fourthYear (tm : Tm) : Bool :=
  tm.tmYear &&& 3 = 0

/-- The condition under which `tm_to_time` asks `mktime`: the day is behind
the last one of its month, which has `length` days in most years. -/
def pastMonth (length : Int) (tm : Tm) : Bool :=
  tm.tmMday > length + if fourthYear tm ∧ tm.tmMon = 1 then 1 else 0

/-- `tm_to_time`: the struct and the time afterwards, unless a table is left.
What `mktime` does with a struct is a parameter. -/
def tmToTime (mktime : Tm → Tm × Int) (tm : Tm) : Option (Tm × Int) := do
  let begins ← monthbegin[tm.tmMon]?
  let length ← monthlen[tm.tmMon]?
  let yearDays := begins + tm.tmMday - 1 +
    if fourthYear tm ∧ tm.tmMon > 1 then 1 else 0
  let days := yearDays + 365 * ((tm.tmYear : Int) - 70) +
    ((tm.tmYear : Int) - 69).tdiv 4
  let time := days * 86400 + ((tm.tmHour : Int) - 8) * 3600 +
    tm.tmMin * 60 + tm.tmSec
  let tm := { tm with tmYday := yearDays, tmWday := (days + 4).tmod 7 }
  if pastMonth length tm then mktime tm else (tm, time)

end EchoServer
