import Almanac.Json.Reader
import Almanac.Text.Ascii

/-!
# Kinds of day

An entry of a calendar is a public holiday or an observance that is merely noted. A configuration
names the kind in any ASCII case and leaves it out for a holiday. Where a kind is stored as JSON it
is its exact name, or an object with that name for its only member and null behind it.
-/

namespace Almanac

/-- What an entry of a calendar is. -/
inductive Kind
  | observance | holiday
  deriving DecidableEq, Repr

namespace Kind

instance : Inhabited Kind := ⟨holiday⟩

/-- The name of the kind. -/
def name : Kind → String
  | observance => "Observance"
  | holiday => "Holiday"

instance : ToString Kind := ⟨name⟩

/-- The kind with this name, in any ASCII case. -/
def ofName? (name : String) : Option Kind :=
  if Text.sameLetters "holiday" name then some holiday
  else if Text.sameLetters "observance" name then some observance
  else none

/-- The kind with exactly this name. -/
def ofTag (tag : String) : Except Json.Mismatch Kind :=
  match [observance, holiday].find? (·.name == tag) with
  | some kind => .ok kind
  | none => .error (.unknownVariant tag [observance.name, holiday.name])

/-- Reads the tag of a kind, which is a string: no other value can stand for it. -/
def readTag : Json.Reader Kind := fun bytes =>
  match Json.skipSpace bytes with
  | [] => .error .truncated
  | Json.Byte.quote :: rest => do
    let (tag, rest) ← Json.readText rest
    match ofTag tag with
    | .ok kind => return (kind, rest)
    | .error mismatch => .error (.misshapen mismatch)
  | _ => .error .malformed

/-- Passes over the null that stands for the content of a tag. -/
def readNull (bytes : List UInt8) : Except Json.Problem (List UInt8) :=
  match Json.skipSpace bytes with
  | [] => .error .truncated
  | Json.Byte.n :: rest => Json.expectWord "ull" rest
  | bytes => .error (Json.misfit .null bytes)

/-- Reads a kind. -/
def read : Json.Reader Kind := fun bytes =>
  match Json.skipSpace bytes with
  | [] => .error .truncated
  | Json.Byte.quote :: rest => readTag (Json.Byte.quote :: rest)
  | Json.Byte.openBrace :: rest => do
    let (kind, rest) ← readTag rest
    let rest ← readNull (← Json.expectColon rest)
    match Json.skipSpace rest with
    | [] => .error .truncated
    | Json.Byte.closeBrace :: rest => return (kind, rest)
    | _ => .error .malformed
  | _ => .error .malformed

/-- The kind that a JSON text holds. -/
def ofJson (text : List UInt8) : Except Json.Problem Kind := Json.readAll read text

end Kind

end Almanac
