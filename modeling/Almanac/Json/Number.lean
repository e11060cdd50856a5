import Almanac.Json.Byte

/-!
# Numbers in a JSON text

Digits are collected into a significand of at most 64 bits; those that no longer fit are dropped,
and only counted when they stand before the point. A number without point and exponent that fits in
64 bits, signed or unsigned, is whole; anything else is a floating point number, and it is
malformed if it is too large for one. Minus zero is not whole, so that its sign is kept.
-/

namespace Almanac.Json

/-- Collects digits behind `value` as long as 64 bits hold them: the number so far, how many digits
were taken, and the rest. -/
def takeDigits (value : Nat) (taken : Nat) : List UInt8 → Nat × Nat × List UInt8
  | [] => (value, taken, [])
  | byte :: rest =>
    match Byte.digit? byte with
    | some digit =>
      if 10 * value + digit < Nat.pow 2 64 then takeDigits (10 * value + digit) (taken + 1) rest
      else (value, taken, byte :: rest)
    | none => (value, taken, byte :: rest)

/-- Passes over digits: how many they are, and the rest. -/
def dropDigits (dropped : Nat) : List UInt8 → Nat × List UInt8
  | [] => (dropped, [])
  | byte :: rest =>
    if (Byte.digit? byte).isSome then dropDigits (dropped + 1) rest else (dropped, byte :: rest)

/-- The number that digits behind `value` spell, however many they are, and the rest. -/
def allDigits (value : Nat) : List UInt8 → Nat × List UInt8
  | [] => (value, [])
  | byte :: rest =>
    match Byte.digit? byte with
    | some digit => allDigits (10 * value + digit) rest
    | none => (value, byte :: rest)

/-- `significand * 10 ^ exponent` as a floating point number. -/
def realNumber (negative : Bool) (significand : Nat) (exponent : Int) : Except Problem Number :=
  match Binary64.ofDecimal? negative significand exponent with
  | some x => .ok (.real x)
  | none => .error .malformed

/-- A number without point and exponent. -/
def wholeNumber (negative : Bool) (significand : Nat) : Except Problem Number :=
  if !negative then .ok (.integer significand)
  else if significand = 0 ∨ Nat.pow 2 63 < significand then realNumber true significand 0
  else .ok (.integer (-significand))

/-- The number whose exponent starts here. Its digits before stand for
`significand * 10 ^ exponent`. -/
def readExponent (negative : Bool) (significand : Nat) (exponent : Int) : Reader Number :=
  fun bytes =>
  let (downward, bytes) :=
    match bytes with
    | Byte.minus :: rest => (true, rest)
    | Byte.plus :: rest => (false, rest)
    | _ => (false, bytes)
  match bytes with
  | [] => .error .truncated
  | byte :: rest =>
    match Byte.digit? byte with
    | none => .error .malformed
    | some digit => do
      let (power, rest) := allDigits digit rest
      let exponent := if downward then exponent - power else exponent + power
      let number ← realNumber negative significand exponent
      return (number, rest)

/-- The number whose digits behind the point start here. There must be one. -/
def readFraction (negative : Bool) (significand : Nat) (exponent : Int) : Reader Number :=
  fun bytes =>
  let (significand, taken, bytes) := takeDigits significand 0 bytes
  let (dropped, bytes) := dropDigits 0 bytes
  let exponent := exponent - taken
  if taken + dropped = 0 then
    .error (if bytes.isEmpty then .truncated else .malformed)
  else
    match bytes with
    | Byte.e :: rest | Byte.capitalE :: rest => readExponent negative significand exponent rest
    | _ => do return (← realNumber negative significand exponent, bytes)

/-- The number behind its sign, if it has one. -/
def readNumber (negative : Bool) : Reader Number := fun bytes =>
  match bytes with
  | [] => .error .truncated
  | byte :: rest =>
    match Byte.digit? byte with
    | none => .error .malformed
    | some first =>
      let (significand, taken, rest) := takeDigits first 0 rest
      let (dropped, rest) := dropDigits 0 rest
      if first = 0 ∧ taken + dropped ≠ 0 then .error .malformed
      else
        match rest with
        | Byte.point :: rest => readFraction negative significand dropped rest
        | Byte.e :: rest | Byte.capitalE :: rest => readExponent negative significand dropped rest
        | _ => do
          let number ←
            if dropped = 0 then wholeNumber negative significand
            else realNumber negative significand dropped
          return (number, rest)

end Almanac.Json
