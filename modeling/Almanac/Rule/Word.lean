import Almanac.Text.Alphanumeric
import Almanac.Text.Ascii

/-!
# The words of date expressions

The kinds of word that an expression is made of: names, whole numbers with an optional sign, and
dates of the form `MM-DD`. Telling the kinds apart looks at spelling alone; whether a name is known,
a number fits or a date exists is asked later.
-/

namespace Almanac.Word

/-- Whether the word can be a name: letters and numbers of any script, and underscores. -/
def isIdentifier (word : String) : Bool :=
  !word.toList.isEmpty && word.toList.all fun c => Text.isAlphanumeric c || c == '_'

/-- Sign and digits of a whole number. -/
structure SignedDigits where
  negative : Bool
  digits : List Char

/-- The number that the digits spell. -/
def SignedDigits.value (number : SignedDigits) : Int :=
  if number.negative then -(Text.decimalValue number.digits : Int)
  else Text.decimalValue number.digits

/-- The digits, if there are any and nothing else. -/
def allDigits? (digits : List Char) : Option (List Char) :=
  if !digits.isEmpty && digits.all Char.isDigit then some digits else none

/-- Reads one or more ASCII digits after at most one sign. -/
def signedDigits? (word : String) : Option SignedDigits :=
  match word.toList with
  | '-' :: digits => (allDigits? digits).map (⟨true, ·⟩)
  | '+' :: digits => (allDigits? digits).map (⟨false, ·⟩)
  | digits => (allDigits? digits).map (⟨false, ·⟩)

/-- The bytes that encode the word. -/
def bytes (word : String) : List UInt8 := word.toUTF8.data.toList

/-- Whether the word is two bytes, a hyphen and two bytes more. -/
def hasHyphenInMiddle (word : String) : Bool :=
  (bytes word).length == 5 && (bytes word)[2]? == some '-'.toUInt8

/-- The digit that a byte encodes. -/
def digitOfByte? (byte : UInt8) : Option Nat :=
  if '0'.toUInt8 ≤ byte && byte ≤ '9'.toUInt8 then some (byte.toNat - '0'.toNat) else none

/-- The number that two ASCII digits spell. -/
def twoDigits? : List UInt8 → Option Nat
  | [tens, units] =>
    match digitOfByte? tens, digitOfByte? units with
    | some t, some u => some (10 * t + u)
    | _, _ => none
  | _ => none

/-- Month and day of a word `MM-DD`, as numbers that need not name a date. -/
def monthDay? (word : String) : Option (Nat × Nat) :=
  if hasHyphenInMiddle word then
    match twoDigits? ((bytes word).take 2), twoDigits? ((bytes word).drop 3) with
    | some month, some day => some (month, day)
    | _, _ => none
  else none

end Almanac.Word
