import Almanac.Text.Ascii

/-!
# Months and their lengths

The proleptic Gregorian calendar: the leap rule, the length of every month, and the months by name.
A month is met in two ways. As a number it may be anything that can be typed, so its length is
optional; as a name it is one of twelve.
-/

namespace Almanac

/-- Every fourth year is a leap year, but of the full centuries only every fourth one. -/
def isLeap (year : Int) : Bool := (year % 4 == 0 && year % 100 != 0) || year % 400 == 0

/-- Lengths of the months, counted from the empty month 0 before January. -/
def monthLengths (leap : Bool) : List Nat :=
  [0, 31, if leap then 29 else 28, 31, 30, 31, 30, 31, 31, 30, 31, 30, 31]

/-- How many days month number `month` of `year` has. There is no month after the twelfth. -/
def daysOfMonth? (year : Int) (month : Nat) : Option Nat := (monthLengths (isLeap year))[month]?

/-- How many days month number `month` has in the years when it is longest. -/
def maxDaysOfMonth? (month : Nat) : Option Nat := daysOfMonth? 2000 month

/-- A month by name. -/
inductive Month
  | january | february | march | april | may | june
  | july | august | september | october | november | december
  deriving DecidableEq, Repr

namespace Month

/-- The twelve months in order. -/
def all : List Month :=
  [january, february, march, april, may, june, july, august, september, october, november, december]

/-- January is 1, December is 12. -/
def number : Month → Nat
  | january => 1
  | february => 2
  | march => 3
  | april => 4
  | may => 5
  | june => 6
  | july => 7
  | august => 8
  | september => 9
  | october => 10
  | november => 11
  | december => 12

/-- The full English name. -/
def name : Month → String
  | january => "January"
  | february => "February"
  | march => "March"
  | april => "April"
  | may => "May"
  | june => "June"
  | july => "July"
  | august => "August"
  | september => "September"
  | october => "October"
  | november => "November"
  | december => "December"

/-- The month with this full name, in any ASCII case. -/
def ofName? (name : String) : Option Month :=
  all.find? fun month => Text.sameLetters month.name name

theorem mem_all (month : Month) : month ∈ all := by cases month <;> decide

end Month

end Almanac
