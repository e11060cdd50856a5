import Almanac.Json.Reader

/-!
# Reading records

A record is an object whose members have fixed names, each with a shape of its own. Other members
are passed over; a field that is given twice is an error, found at its second name, and a field
that is needed and missing is found at the end. A record may also be written as an array of its
fields in order, from which fields at the end may be left out.
-/

namespace Almanac.Json

/-- A field of a record that is read into a draft `σ`. -/
structure Field (σ : Type) where
  name : String
  /-- Whether the draft has the field already. -/
  given : σ → Bool
  /-- Reads the value of the field into the draft, with so much room left. -/
  read : Nat → σ → Reader σ

/-- How records of one kind are written. -/
structure RecordShape (σ α : Type) where
  name : String
  fields : List (Field σ)
  /-- The draft before anything is read. -/
  start : σ
  /-- The record, from a draft that may lack fields at the end of an object. -/
  ofObject : σ → Except Mismatch α
  /-- The record, from a draft that may lack fields at the end of an array. -/
  ofArray : σ → Except Mismatch α

/-- Takes up the member of this name. -/
def RecordShape.member {σ α : Type} (shape : RecordShape σ α) (room : Nat) (draft : σ)
    (name : String) : Reader σ := fun bytes =>
  match shape.fields.find? (·.name == name) with
  | some field =>
    if field.given draft then .error (.misshapen (.duplicateField name))
    else do field.read room draft (← expectColon bytes)
  | none => do return (draft, ← skipValue (← expectColon bytes))

/-- Takes up elements for the fields, as many as there are. -/
def readFields {σ : Type} (room : Nat) (draft : σ) (first : Bool) : List (Field σ) → Reader σ
  | [], bytes => .ok (draft, bytes)
  | field :: fields, bytes => do
    let (more, bytes) ← nextElement first bytes
    if more then
      let (draft, bytes) ← field.read room draft bytes
      readFields room draft false fields bytes
    else return (draft, bytes)

/-- What a shape check found, as an answer of a reader. -/
def checked {α : Type} : Except Mismatch α → Except Problem α
  | .ok value => .ok value
  | .error mismatch => .error (.misshapen mismatch)

/-- A record of the shape. -/
def RecordShape.read {σ α : Type} (shape : RecordShape σ α) (room : Nat) : Reader α := fun bytes =>
  match skipSpace bytes, room with
  | [], _ => .error .truncated
  | Byte.openBrace :: _, 0 => .error .malformed
  | Byte.openBracket :: _, 0 => .error .malformed
  | Byte.openBrace :: rest, room + 1 => do
    let (draft, rest) ← foldMembers (shape.member room) shape.start rest
    return (← checked (shape.ofObject draft), rest)
  | Byte.openBracket :: rest, room + 1 => do
    let (draft, rest) ← readFields room shape.start true shape.fields rest
    let record ← checked (shape.ofArray draft)
    return (record, ← closeArray rest)
  | bytes, _ => .error (misfit (.record shape.name) bytes)

end Almanac.Json
