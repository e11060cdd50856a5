import Almanac.Kind
import Almanac.Rule.Basic

/-!
# Entries and days

An entry of a calendar is a name, a kind and a rule. In a year it gives a day, if its rule has a
date in that year.
-/

namespace Almanac

/-- A named day that comes back by a rule. -/
structure Entry where
  name : String
  kind : Kind
  rule : Rule

/-- An entry in one year. -/
structure Day where
  name : String
  kind : Kind
  date : Date
  deriving DecidableEq

/-- The day of the entry in `year`. -/
def Entry.inYear (entry : Entry) (year : Int) : Option Day :=
  (entry.rule.resolve year).map fun date => ⟨entry.name, entry.kind, date⟩

namespace Day

/-- Whether the day is a holiday, not an observance. -/
def isHoliday (day : Day) : Bool := day.kind == .holiday

/-- The day as text: date, name and kind. -/
def toText (day : Day) : String :=
  day.date.toText ++ ": " ++ day.name ++ " (" ++ day.kind.name ++ ")"

instance : ToString Day := ⟨toText⟩

end Day

end Almanac
