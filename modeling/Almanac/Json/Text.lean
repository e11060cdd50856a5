import Almanac.Json.Byte

/-!
# Strings in a JSON text

A string is read to its closing quote, and only then is it asked whether its bytes are UTF-8. A
character outside the basic plane may be escaped as a pair of surrogates; half a pair is malformed.
-/

namespace Almanac.Json

/-- Four hexadecimal digits. -/
def readHex : Reader Nat
  | a :: b :: c :: d :: rest =>
    match Byte.hexDigit? a, Byte.hexDigit? b, Byte.hexDigit? c, Byte.hexDigit? d with
    | some a, some b, some c, some d => .ok (((a * 16 + b) * 16 + c) * 16 + d, rest)
    | _, _, _, _ => .error .malformed
  | _ => .error .truncated

/-- Whether the unit is the first of a pair of surrogates. -/
def isLeading (unit : Nat) : Bool := 0xD800 ≤ unit && unit ≤ 0xDBFF

/-- Whether the unit is the second of a pair of surrogates. -/
def isTrailing (unit : Nat) : Bool := 0xDC00 ≤ unit && unit ≤ 0xDFFF

/-- The character that a pair of surrogates stands for. -/
def joinSurrogates (leading trailing : Nat) : Char :=
  Char.ofNat (0x10000 + (leading - 0xD800) * 0x400 + (trailing - 0xDC00))

/-- The second half of a pair, behind `leading`. -/
def readTrailing (leading : Nat) : Reader Char
  | [] => .error .truncated
  | Byte.backslash :: [] => .error .truncated
  | Byte.backslash :: Byte.u :: rest => do
    let (trailing, rest) ← readHex rest
    if isTrailing trailing then return (joinSurrogates leading trailing, rest)
    else .error .malformed
  | _ :: _ => .error .malformed

/-- The character that an escape stands for, behind its backslash. -/
def readEscape : Reader Char
  | [] => .error .truncated
  | Byte.quote :: rest => .ok ('"', rest)
  | Byte.backslash :: rest => .ok ('\\', rest)
  | Byte.slash :: rest => .ok ('/', rest)
  | Byte.b :: rest => .ok (Char.ofNat 0x08, rest)
  | Byte.f :: rest => .ok (Char.ofNat 0x0C, rest)
  | Byte.n :: rest => .ok ('\n', rest)
  | Byte.r :: rest => .ok ('\r', rest)
  | Byte.t :: rest => .ok ('\t', rest)
  | Byte.u :: rest => do
    let (unit, rest) ← readHex rest
    if isTrailing unit then .error .malformed
    else if isLeading unit then readTrailing unit rest
    else return (Char.ofNat unit, rest)
  | _ :: _ => .error .malformed

/-- The text that bytes encode, last byte first. -/
def decodeReversed (bytes : List UInt8) : Except Problem String :=
  match String.fromUTF8? ⟨bytes.reverse.toArray⟩ with
  | some text => .ok text
  | none => .error .malformed

/-- Reads on to the closing quote; `done` is what was read, last byte first. Every step takes a byte
at least, so a text as long as the one that is read measures the steps. -/
def readTextFrom (done : List UInt8) : (measure : List UInt8) → Reader String
  | [], _ => .error .truncated
  | _ :: _, [] => .error .truncated
  | _ :: _, Byte.quote :: rest => do return (← decodeReversed done, rest)
  | _ :: measure, Byte.backslash :: rest => do
    let (c, rest) ← readEscape rest
    readTextFrom ((String.utf8EncodeChar c).reverse ++ done) measure rest
  | _ :: measure, byte :: rest =>
    if byte < 0x20 then .error .malformed else readTextFrom (byte :: done) measure rest

/-- A string behind its opening quote. -/
def readText : Reader String := fun bytes => readTextFrom [] bytes bytes

end Almanac.Json
