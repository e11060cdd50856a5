import Almanac.Json.Value

/-!
# Bytes of a JSON text

A text is read byte by byte, because it may come from a file and need not be valid UTF-8 everywhere.
Here are the bytes that mean something, white space, and words that must follow literally.
-/

namespace Almanac.Json

/-- Reads something from the start of a text and leaves the rest. -/
abbrev Reader (α : Type) := List UInt8 → Except Problem (α × List UInt8)

namespace Byte

@[match_pattern] abbrev quote : UInt8 := 0x22
@[match_pattern] abbrev backslash : UInt8 := 0x5C
@[match_pattern] abbrev comma : UInt8 := 0x2C
@[match_pattern] abbrev colon : UInt8 := 0x3A
@[match_pattern] abbrev openBracket : UInt8 := 0x5B
@[match_pattern] abbrev closeBracket : UInt8 := 0x5D
@[match_pattern] abbrev openBrace : UInt8 := 0x7B
@[match_pattern] abbrev closeBrace : UInt8 := 0x7D
@[match_pattern] abbrev minus : UInt8 := 0x2D
@[match_pattern] abbrev plus : UInt8 := 0x2B
@[match_pattern] abbrev point : UInt8 := 0x2E
@[match_pattern] abbrev slash : UInt8 := 0x2F
@[match_pattern] abbrev zero : UInt8 := 0x30
@[match_pattern] abbrev capitalE : UInt8 := 0x45
@[match_pattern] abbrev b : UInt8 := 0x62
@[match_pattern] abbrev e : UInt8 := 0x65
@[match_pattern] abbrev f : UInt8 := 0x66
@[match_pattern] abbrev n : UInt8 := 0x6E
@[match_pattern] abbrev r : UInt8 := 0x72
@[match_pattern] abbrev t : UInt8 := 0x74
@[match_pattern] abbrev u : UInt8 := 0x75

/-- Space, tab, line feed and carriage return; no other white space stands between tokens. -/
def isSpace (byte : UInt8) : Bool :=
  byte == 0x20 || byte == 0x09 || byte == 0x0A || byte == 0x0D

/-- The digit that the byte writes. -/
def digit? (byte : UInt8) : Option Nat :=
  if 0x30 ≤ byte && byte ≤ 0x39 then some (byte.toNat - 0x30) else none

/-- The hexadecimal digit that the byte writes. -/
def hexDigit? (byte : UInt8) : Option Nat :=
  if 0x30 ≤ byte && byte ≤ 0x39 then some (byte.toNat - 0x30)
  else if 0x41 ≤ byte && byte ≤ 0x46 then some (byte.toNat - 0x41 + 10)
  else if 0x61 ≤ byte && byte ≤ 0x66 then some (byte.toNat - 0x61 + 10)
  else none

end Byte

/-- The text from its first byte that is not white space. -/
def skipSpace (bytes : List UInt8) : List UInt8 := bytes.dropWhile Byte.isSpace

/-- Passes over the bytes that must follow, and stops at the first other one. -/
def expectBytes : List UInt8 → List UInt8 → Except Problem (List UInt8)
  | [], rest => .ok rest
  | _ :: _, [] => .error .truncated
  | want :: wanted, byte :: rest =>
    if byte == want then expectBytes wanted rest else .error .malformed

/-- Passes over a word that must follow. -/
def expectWord (word : String) (bytes : List UInt8) : Except Problem (List UInt8) :=
  expectBytes word.toUTF8.data.toList bytes

end Almanac.Json
