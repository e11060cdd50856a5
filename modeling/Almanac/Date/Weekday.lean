import Almanac.Text.Ascii

/-!
# Weekdays

The seven days of the week, counted from Monday, and the distance from one to the next occurrence of
another.
-/

namespace Almanac

/-- A day of the week. -/
inductive Weekday
  | monday | tuesday | wednesday | thursday | friday | saturday | sunday
  deriving DecidableEq, Repr

namespace Weekday

/-- The seven weekdays from Monday on. -/
def all : List Weekday := [monday, tuesday, wednesday, thursday, friday, saturday, sunday]

/-- Monday is 0, Sunday is 6. -/
def index : Weekday → Nat
  | monday => 0
  | tuesday => 1
  | wednesday => 2
  | thursday => 3
  | friday => 4
  | saturday => 5
  | sunday => 6

/-- The weekday `n` days after a Monday. -/
def ofIndex (n : Nat) : Weekday :=
  match n % 7 with
  | 0 => monday
  | 1 => tuesday
  | 2 => wednesday
  | 3 => thursday
  | 4 => friday
  | 5 => saturday
  | _ => sunday

/-- The full English name, in lower case. -/
def name : Weekday → String
  | monday => "monday"
  | tuesday => "tuesday"
  | wednesday => "wednesday"
  | thursday => "thursday"
  | friday => "friday"
  | saturday => "saturday"
  | sunday => "sunday"

/-- The weekday with this full name, in any ASCII case. -/
def ofName? (name : String) : Option Weekday := all.find? fun day => Text.sameLetters day.name name

/-- How many days after a `start` the next `target` comes, today counting as none. -/
def daysUntil (start target : Weekday) : Nat := (target.index + 7 - start.index) % 7

theorem mem_all (day : Weekday) : day ∈ all := by cases day <;> decide

@[simp] theorem ofIndex_index (day : Weekday) : ofIndex day.index = day := by cases day <;> rfl

theorem index_lt (day : Weekday) : day.index < 7 := by cases day <;> decide

theorem daysUntil_lt (start target : Weekday) : start.daysUntil target < 7 :=
  Nat.mod_lt _ (by decide)

end Weekday

end Almanac
