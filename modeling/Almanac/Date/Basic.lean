import Almanac.Date.Month
import Almanac.Date.Weekday

/-!
# Dates

A date is a day number: the count of days since 1 January of year 0, which was a Saturday. Adding
days is then addition, equality is equality of numbers, and the weekday is a remainder. Year, month
and day are views of the number, found by looking up the year and then the month that it falls in.

The calendar has an end on either side. Whatever would lie outside, be it named by year, month and
day or reached by counting, is no date.
-/

namespace Almanac

/-- The first year of the calendar. -/
def firstYear : Int := -262143

/-- The last year of the calendar. -/
def lastYear : Int := 262142

/-- Days from 1 January of year 0 to 1 January of `year`: 365 a year, and one for every leap year
on the way. -/
def daysBeforeYear (year : Int) : Int :=
  365 * year + (year + 3) / 4 - (year + 99) / 100 + (year + 399) / 400

/-- Days of the year before the first of month number `month`. -/
def daysBeforeMonth (leap : Bool) (month : Nat) : Nat :=
  ((monthLengths leap).take month).foldl (· + ·) 0

/-- The number of the calendar's first day. -/
def firstDay : Int := daysBeforeYear firstYear

/-- The number of the calendar's last day. -/
def lastDay : Int := daysBeforeYear (lastYear + 1) - 1

/-- A day of the calendar. -/
structure Date where
  /-- Days since 1 January of year 0. -/
  dayNumber : Int
  first_le : firstDay ≤ dayNumber
  le_last : dayNumber ≤ lastDay
  deriving DecidableEq

namespace Date

@[ext] theorem ext {a b : Date} (h : a.dayNumber = b.dayNumber) : a = b := by
  cases a; cases b; cases h; rfl

instance : LE Date := ⟨fun a b => a.dayNumber ≤ b.dayNumber⟩

instance : LT Date := ⟨fun a b => a.dayNumber < b.dayNumber⟩

instance (a b : Date) : Decidable (a ≤ b) := inferInstanceAs (Decidable (a.dayNumber ≤ b.dayNumber))

instance (a b : Date) : Decidable (a < b) := inferInstanceAs (Decidable (a.dayNumber < b.dayNumber))

/-- The date with this day number, inside the calendar. -/
def ofDayNumber? (n : Int) : Option Date :=
  if h : firstDay ≤ n ∧ n ≤ lastDay then some ⟨n, h.1, h.2⟩ else none

/-- The date with this year, month and day, when the month has that day and the calendar has that
year. -/
def ofYearMonthDay? (year : Int) (month day : Nat) : Option Date :=
  match daysOfMonth? year month with
  | some length =>
    if 1 ≤ day ∧ day ≤ length then
      ofDayNumber? (daysBeforeYear year + daysBeforeMonth (isLeap year) month + day - 1)
    else none
  | none => none

/-- The date `days` later, or earlier when `days` is negative. -/
def addDays? (date : Date) (days : Int) : Option Date := ofDayNumber? (date.dayNumber + days)

/-- The year that day number `n` falls in. The estimate by mean length is off by one at most. -/
def yearOf (n : Int) : Int :=
  let estimate := 400 * n / 146097
  if n < daysBeforeYear estimate then estimate - 1
  else if daysBeforeYear (estimate + 1) ≤ n then estimate + 1
  else estimate

/-- The year of the date. -/
def year (date : Date) : Int := yearOf date.dayNumber

/-- How many days of its year lie before the date. -/
def dayOfYear (date : Date) : Nat := (date.dayNumber - daysBeforeYear date.year).toNat

/-- The month that has begun last after `days` days of a year. -/
def monthOf (leap : Bool) (days : Nat) : Nat :=
  ((List.range' 1 12).filter fun month => daysBeforeMonth leap month ≤ days).length

/-- The number of the date's month. -/
def month (date : Date) : Nat := monthOf (isLeap date.year) date.dayOfYear

/-- The day of the month. -/
def day (date : Date) : Nat := date.dayOfYear + 1 - daysBeforeMonth (isLeap date.year) date.month

/-- The day of the week. Day 0 was a Saturday. -/
def weekday (date : Date) : Weekday :=
  Weekday.ofIndex ((date.dayNumber + Weekday.saturday.index) % 7).toNat

/-- The first `weekday` of a month. -/
def firstWeekday? (year : Int) (month : Nat) (weekday : Weekday) : Option Date :=
  match ofYearMonthDay? year month 1 with
  | some first => ofYearMonthDay? year month (1 + first.weekday.daysUntil weekday)
  | none => none

/-- Years 0 to 9999 are four digits; any other year has a sign and at least four. -/
def yearText (year : Int) : String :=
  if 0 ≤ year ∧ year ≤ 9999 then Text.paddedDecimal 4 year.natAbs
  else (if year < 0 then "-" else "+") ++ Text.paddedDecimal 4 year.natAbs

/-- The date as year, month and day, joined by hyphens. -/
def toText (date : Date) : String :=
  yearText date.year ++ "-" ++ Text.paddedDecimal 2 date.month ++ "-" ++
    Text.paddedDecimal 2 date.day

instance : ToString Date := ⟨toText⟩

end Date

end Almanac
