import Almanac.Feast.Registry
import Almanac.Rule.Basic
import Almanac.Rule.Word
import Almanac.Text.Blank

/-!
# Date expressions

The text of a rule. There are five forms, each told by the kinds of its words:

* `MM-DD`, a fixed date;
* `<feast>`, a movable feast;
* `<feast> <offset>`, some days after or before a movable feast;
* `<weekday> before|after MM-DD`, the nearest weekday that is not past a date;
* `<weekday> in <month>`, the first such weekday of a month.

The forms are tried in this order and the first whose shape fits decides: from there on an unknown
name, an impossible date or an oversized offset is the fault of the expression, and no other form is
tried.
-/

namespace Almanac

/-- What can be wrong with a date expression. -/
inductive ExpressionFault
  | unknownForm
  | unknownWeekday (name : String)
  | unknownMonth (name : String)
  | unknownFeast (name : String)
  | noSuchDay (month day : Nat)
  | offsetTooLarge
  | offsetTooSmall
  deriving DecidableEq, Repr

/-- A date expression and what is wrong with it. -/
structure ExpressionError where
  expression : String
  fault : ExpressionFault
  deriving DecidableEq, Repr

/-- The message of the error. -/
def ExpressionError.message (error : ExpressionError) : String :=
  let expression := "date expression \"" ++ error.expression ++ "\""
  match error.fault with
  | .unknownForm => "unknown " ++ expression
  | .unknownWeekday name => "unknown weekday '" ++ name ++ "' in " ++ expression
  | .unknownMonth name => "unknown month '" ++ name ++ "' in " ++ expression
  | .unknownFeast name => "unknown movable feast '" ++ name ++ "' in " ++ expression
  | .noSuchDay month day =>
    "month " ++ toString month ++ " has no day " ++ toString day ++ " in " ++ expression
  | .offsetTooLarge =>
    "invalid day offset in " ++ expression ++ ": number too large to fit in target type"
  | .offsetTooSmall =>
    "invalid day offset in " ++ expression ++ ": number too small to fit in target type"

namespace Expression

/-- The greatest offset, which is that of 64 bits. -/
def maxOffset : Int := 9223372036854775807

/-- The least offset, which is that of 64 bits. -/
def minOffset : Int := -9223372036854775808

/-- The number that the digits spell, as an offset. -/
def offset (number : Word.SignedDigits) : Except ExpressionFault Int :=
  if maxOffset < number.value then .error .offsetTooLarge
  else if number.value < minOffset then .error .offsetTooSmall
  else .ok number.value

/-- Whether some year has this day. -/
def isMonthDay (month day : Nat) : Bool :=
  match maxDaysOfMonth? month with
  | some length => 1 ≤ month && 1 ≤ day && day ≤ length
  | none => false

/-- Month and day, if some year has that day. -/
def checkedMonthDay (month day : Nat) : Except ExpressionFault (Nat × Nat) :=
  if isMonthDay month day then .ok (month, day) else .error (.noSuchDay month day)

/-- The weekday with this name. -/
def weekday (name : String) : Except ExpressionFault Weekday :=
  match Weekday.ofName? name with
  | some day => .ok day
  | none => .error (.unknownWeekday name)

/-- The month with this name. -/
def month (name : String) : Except ExpressionFault Month :=
  match Month.ofName? name with
  | some month => .ok month
  | none => .error (.unknownMonth name)

/-- The feast registered under this name. -/
def feast (registry : Registry) (name : String) : Except ExpressionFault Feast :=
  match registry.get? name with
  | some feast => .ok feast
  | none => .error (.unknownFeast name)

/-- What a form makes of the words of an expression: nothing when they do not have its shape. -/
abbrev Reading := Option (Except ExpressionFault Rule)

/-- `MM-DD` -/
def readFixed (words : List String) (_ : Registry) : Reading :=
  match words with
  | [word] =>
    match Word.monthDay? word with
    | some (month, day) => some do
      let (month, day) ← checkedMonthDay month day
      return .fixed month day
    | none => none
  | _ => none

/-- `<feast>` -/
def readFeast (words : List String) (registry : Registry) : Reading :=
  match words with
  | [name] =>
    if Word.isIdentifier name then some do
      let feast ← feast registry name
      return .onFeast (Text.lowercase name) feast
    else none
  | _ => none

/-- `<feast> <offset>` -/
def readFeastOffset (words : List String) (registry : Registry) : Reading :=
  match words with
  | [name, number] =>
    match Word.isIdentifier name, Word.signedDigits? number with
    | true, some digits => some do
      let feast ← feast registry name
      let offset ← offset digits
      return .fromFeast (Text.lowercase name) feast offset
    | _, _ => none
  | _ => none

/-- `<weekday> before|after MM-DD` -/
def readNearDate (words : List String) (_ : Registry) : Reading :=
  match words with
  | [name, keyword, date] =>
    match Word.isIdentifier name, Direction.ofName? keyword, Word.monthDay? date with
    | true, some direction, some (month, day) => some do
      let weekday ← weekday name
      let (month, day) ← checkedMonthDay month day
      return .nearDate weekday direction month day
    | _, _, _ => none
  | _ => none

/-- `<weekday> in <month>` -/
def readFirstInMonth (words : List String) (_ : Registry) : Reading :=
  match words with
  | [name, keyword, monthName] =>
    if Word.isIdentifier name && Text.sameLetters "in" keyword && Word.isIdentifier monthName then
      some do
        let weekday ← weekday name
        let month ← month monthName
        return .firstInMonth weekday month
    else none
  | _ => none

/-- A form of expression: how it is written, and its reader. -/
structure Form where
  shape : String
  read : List String → Registry → Reading

/-- The forms in the order in which they are tried. -/
def forms : List Form := [
  ⟨"MM-DD", readFixed⟩,
  ⟨"<feast>", readFeast⟩,
  ⟨"<feast> <offset>", readFeastOffset⟩,
  ⟨"<weekday> before|after MM-DD", readNearDate⟩,
  ⟨"<weekday> in <month>", readFirstInMonth⟩]

/-- The reading of the first form whose shape the words have. -/
def readWords (words : List String) (registry : Registry) : Except ExpressionFault Rule :=
  match forms.findSome? fun form => form.read words registry with
  | some reading => reading
  | none => .error .unknownForm

end Expression

/-- The rule that `expression` writes, with feasts taken from `registry`. -/
def Rule.ofExpression (expression : String) (registry : Registry) : Except ExpressionError Rule :=
  match Expression.readWords (Text.words expression) registry with
  | .ok rule => .ok rule
  | .error fault => .error ⟨expression, fault⟩

end Almanac
