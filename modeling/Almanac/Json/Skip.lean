import Almanac.Json.Byte

/-!
# Passing over a value

The value of a member that nobody wants is passed over. Only its grammar is checked: numbers of any
size, strings of any bytes, half surrogates and any depth of nesting are let through. The arrays and
objects that are open are kept on a stack, innermost first.
-/

namespace Almanac.Json

/-- What may stand behind a backslash, apart from a number. -/
def plainEscapes : List UInt8 :=
  [Byte.quote, Byte.backslash, Byte.slash, Byte.b, Byte.f, Byte.n, Byte.r, Byte.t]

/-- Passes over the rest of a string. Every step takes a byte at least. -/
def skipTextFrom : (measure : List UInt8) → List UInt8 → Except Problem (List UInt8)
  | [], _ => .error .truncated
  | _ :: _, [] => .error .truncated
  | _ :: _, Byte.quote :: rest => .ok rest
  | _ :: measure, Byte.backslash :: rest =>
    match rest with
    | [] => .error .truncated
    | Byte.u :: a :: b :: c :: d :: rest =>
      if [a, b, c, d].all fun byte => (Byte.hexDigit? byte).isSome then skipTextFrom measure rest
      else .error .malformed
    | Byte.u :: _ => .error .truncated
    | byte :: rest =>
      if plainEscapes.contains byte then skipTextFrom measure rest else .error .malformed
  | _ :: measure, byte :: rest =>
    if byte < 0x20 then .error .malformed else skipTextFrom measure rest

/-- Passes over a string behind its opening quote. -/
def skipText (bytes : List UInt8) : Except Problem (List UInt8) := skipTextFrom bytes bytes

/-- The text from its first byte that is no digit. -/
def skipDigits (bytes : List UInt8) : List UInt8 :=
  bytes.dropWhile fun byte => (Byte.digit? byte).isSome

/-- Passes over one digit or more. -/
def skipSomeDigits : List UInt8 → Except Problem (List UInt8)
  | [] => .error .malformed
  | byte :: rest =>
    if (Byte.digit? byte).isSome then .ok (skipDigits rest) else .error .malformed

/-- Passes over an exponent, if there is one. -/
def skipExponent (bytes : List UInt8) : Except Problem (List UInt8) :=
  let digits : List UInt8 → Except Problem (List UInt8)
    | Byte.plus :: rest | Byte.minus :: rest => skipSomeDigits rest
    | rest => skipSomeDigits rest
  match bytes with
  | Byte.e :: rest | Byte.capitalE :: rest => digits rest
  | _ => .ok bytes

/-- Passes over a number behind its sign. -/
def skipNumber (bytes : List UInt8) : Except Problem (List UInt8) := do
  let whole ←
    match bytes with
    | Byte.zero :: rest =>
      match rest with
      | byte :: _ => if (Byte.digit? byte).isSome then .error .malformed else .ok rest
      | [] => .ok rest
    | _ => skipSomeDigits bytes
  match whole with
  | Byte.point :: rest => skipExponent (← skipSomeDigits rest)
  | _ => skipExponent whole

/-- An array or object that is open. -/
inductive Frame
  | array | object
  deriving DecidableEq, Repr

/-- The byte that closes it. -/
def Frame.close : Frame → UInt8
  | array => Byte.closeBracket
  | object => Byte.closeBrace

/-- Passes over the name of a member and its colon. -/
def skipName (bytes : List UInt8) : Except Problem (List UInt8) :=
  match skipSpace bytes with
  | [] => .error .truncated
  | Byte.quote :: rest => do
    match skipSpace (← skipText rest) with
    | [] => .error .truncated
    | Byte.colon :: rest => .ok rest
    | _ => .error .malformed
  | _ => .error .malformed

/-- Passes over what stands before the next value in an open array or object. -/
def Frame.enter : Frame → List UInt8 → Except Problem (List UInt8)
  | array, bytes => .ok bytes
  | object, bytes => skipName bytes

/-- What comes next while a value is passed over. -/
inductive Expecting
  | value
  /-- A comma or the end, behind a value. -/
  | comma

/-- Passes over what is left of a value. Every step takes a byte at least. -/
def skipFrom : (measure : List UInt8) → Expecting → List Frame → List UInt8 →
    Except Problem (List UInt8)
  | _, .comma, [], bytes => .ok bytes
  | [], _, _, _ => .error .truncated
  | _ :: measure, .value, frames, bytes => do
    let opened (frame : Frame) (rest : List UInt8) : Except Problem (List UInt8) :=
      match skipSpace rest with
      | [] => .error .truncated
      | byte :: rest =>
        if byte == frame.close then skipFrom measure .comma frames rest
        else do skipFrom measure .value (frame :: frames) (← frame.enter (byte :: rest))
    match skipSpace bytes with
    | [] => .error .truncated
    | Byte.openBracket :: rest => opened .array rest
    | Byte.openBrace :: rest => opened .object rest
    | Byte.quote :: rest => skipFrom measure .comma frames (← skipText rest)
    | Byte.n :: rest => skipFrom measure .comma frames (← expectWord "ull" rest)
    | Byte.t :: rest => skipFrom measure .comma frames (← expectWord "rue" rest)
    | Byte.f :: rest => skipFrom measure .comma frames (← expectWord "alse" rest)
    | Byte.minus :: rest => skipFrom measure .comma frames (← skipNumber rest)
    | byte :: rest =>
      if (Byte.digit? byte).isSome then skipFrom measure .comma frames (← skipNumber (byte :: rest))
      else .error .malformed
  | _ :: measure, .comma, frame :: frames, bytes =>
    match skipSpace bytes with
    | [] => .error .truncated
    | byte :: rest =>
      if byte == Byte.comma then do skipFrom measure .value (frame :: frames) (← frame.enter rest)
      else if byte == frame.close then skipFrom measure .comma frames rest
      else .error .malformed

/-- Passes over a value. -/
def skipValue (bytes : List UInt8) : Except Problem (List UInt8) := skipFrom bytes .value [] bytes

end Almanac.Json
