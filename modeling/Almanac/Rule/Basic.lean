import Almanac.Feast.Basic

/-!
# Rules for the date of a day

A rule says when a day falls, for every year at once: on a fixed date, on a movable feast or some
days away from one, on the nearest given weekday before or after a date, or on the first given
weekday of a month. Resolving a rule in a year gives the date, or nothing in the years that have
none.
-/

namespace Almanac

/-- Which way to look for a weekday. -/
inductive Direction
  | before | after
  deriving DecidableEq, Repr

/-- The direction with this name, in any ASCII case. -/
def Direction.ofName? (name : String) : Option Direction :=
  if Text.sameLetters "before" name then some .before
  else if Text.sameLetters "after" name then some .after
  else none

/-- When a day falls. -/
inductive Rule
  /-- Every year on this day of this month. -/
  | fixed (month day : Nat)
  /-- On a movable feast, registered under `name`. -/
  | onFeast (name : String) (feast : Feast)
  /-- `offset` days after a movable feast; before it when negative. -/
  | fromFeast (name : String) (feast : Feast) (offset : Int)
  /-- On the nearest `weekday` that is not past the date, looking in one direction. -/
  | nearDate (weekday : Weekday) (direction : Direction) (month day : Nat)
  /-- On the first `weekday` of the month. -/
  | firstInMonth (weekday : Weekday) (month : Month)

namespace Rule

/-- The date of the rule in `year`. -/
def resolve (rule : Rule) (year : Int) : Option Date :=
  match rule with
  | fixed month day => Date.ofYearMonthDay? year month day
  | onFeast _ feast => feast year
  | fromFeast _ feast offset =>
    match feast year with
    | some date => date.addDays? offset
    | none => none
  | nearDate weekday direction month day =>
    match Date.ofYearMonthDay? year month day with
    | some date =>
      match direction with
      | .after => date.addDays? (date.weekday.daysUntil weekday)
      | .before => date.addDays? (-(weekday.daysUntil date.weekday : Nat))
    | none => none
  | firstInMonth weekday month => Date.firstWeekday? year month.number weekday

/-- Rules are the same when they are written the same way. A feast is known by its name only. -/
def same : Rule → Rule → Bool
  | fixed m d, fixed m' d' => m == m' && d == d'
  | onFeast n _, onFeast n' _ => n == n'
  | fromFeast n _ o, fromFeast n' _ o' => n == n' && o == o'
  | nearDate w r m d, nearDate w' r' m' d' => w == w' && r == r' && m == m' && d == d'
  | firstInMonth w m, firstInMonth w' m' => w == w' && m == m'
  | _, _ => false

instance : BEq Rule := ⟨same⟩

end Rule

end Almanac
