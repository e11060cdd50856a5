import Almanac.Assoc
import Almanac.Decimal.Shortest
import Almanac.Text.Quoted

/-!
# JSON values and what can be wrong with a text

A value as it was written, with members in order, and the problems that reading meets. Three kinds
of problem are told apart: the text ends too early, it is not JSON, or it is JSON of another shape
than the one that is wanted. Only the last needs words: it names what was seen and what was wanted
there.
-/

namespace Almanac.Json

/-- A number: whole if it is written without point and exponent and fits in 64 bits. -/
inductive Number
  | integer (value : Int)
  | real (value : Binary64)
  deriving DecidableEq, Repr

/-- A value. The members of an object have distinct names. -/
inductive Value
  | null
  | boolean (value : Bool)
  | number (value : Number)
  | text (value : String)
  | sequence (items : List Value)
  | object (members : List (String × Value))

/-- What is seen of a value from outside. -/
inductive Seen
  | null
  | boolean (value : Bool)
  | number (value : Number)
  | text (value : String)
  | sequence
  | object
  deriving DecidableEq, Repr

/-- A value from outside. -/
def Value.seen : Value → Seen
  | .null => .null
  | .boolean b => .boolean b
  | .number n => .number n
  | .text s => .text s
  | .sequence _ => .sequence
  | .object _ => .object

/-- How messages call a value. -/
def Seen.toText : Seen → String
  | .null => "null"
  | .boolean b => "boolean `" ++ toString b ++ "`"
  | .number (.integer n) => "integer `" ++ toString n ++ "`"
  | .number (.real x) => "floating point `" ++ x.text ++ "`"
  | .text s => "string " ++ Text.quoted s
  | .sequence => "sequence"
  | .object => "map"

/-- What can be wanted of a value. -/
inductive Want
  | null
  | text
  | count
  | sequence
  | object
  /-- A record of this name. -/
  | record (name : String)
  /-- A record of this name, written as so many elements. -/
  | elements (name : String) (length : Nat)
  /-- No more elements than were read. -/
  | fewer
  deriving DecidableEq, Repr

/-- How messages call what was wanted. -/
def Want.toText : Want → String
  | .null => "unit"
  | .text => "a string"
  | .count => "usize"
  | .sequence => "a sequence"
  | .object => "a map"
  | .record name => "struct " ++ name
  | .elements name length => "struct " ++ name ++ " with " ++ toString length ++ " elements"
  | .fewer => "fewer elements in array"

/-- Ways for a value not to have the wanted shape. -/
inductive Mismatch
  | wrongType (seen : Seen) (want : Want)
  | wrongValue (seen : Seen) (want : Want)
  | wrongLength (length : Nat) (want : Want)
  | missingField (name : String)
  | duplicateField (name : String)
  | unknownVariant (name : String) (known : List String)
  deriving DecidableEq, Repr

/-- The names between backticks, with `or` between them. -/
def alternatives (names : List String) : String :=
  String.intercalate " or " (names.map fun name => "`" ++ name ++ "`")

/-- The message of a mismatch. -/
def Mismatch.message : Mismatch → String
  | .wrongType seen want => "invalid type: " ++ seen.toText ++ ", expected " ++ want.toText
  | .wrongValue seen want => "invalid value: " ++ seen.toText ++ ", expected " ++ want.toText
  | .wrongLength length want => "invalid length " ++ toString length ++ ", expected " ++ want.toText
  | .missingField name => "missing field `" ++ name ++ "`"
  | .duplicateField name => "duplicate field `" ++ name ++ "`"
  | .unknownVariant name known =>
    "unknown variant `" ++ name ++ "`, expected " ++ alternatives known

/-- What stops the reading of a text. -/
inductive Problem
  /-- The text ends too early. -/
  | truncated
  /-- The text is not JSON, or nothing that can be read as such. -/
  | malformed
  /-- The text is JSON so far, of another shape than wanted. -/
  | misshapen (mismatch : Mismatch)
  deriving DecidableEq, Repr

end Almanac.Json
