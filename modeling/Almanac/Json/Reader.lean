import Almanac.Json.Number
import Almanac.Json.Skip
import Almanac.Json.Text

/-!
# Reading values of a wanted shape

A text is read once, from front to back, by readers that know what they want, and the first problem
on the way is the answer: a value of the wrong type stops the reading even if the text breaks
further on. How deep arrays and objects may nest is limited; `room` is how many more may be opened.
-/

namespace Almanac.Json

/-- Arrays and objects that may be open at a time. -/
def nestingLimit : Nat := 127

/-- A value that is neither an array nor an object, at the start of the text. -/
def readScalar : Reader Value
  | [] => .error .truncated
  | Byte.n :: rest => do return (.null, ← expectWord "ull" rest)
  | Byte.t :: rest => do return (.boolean true, ← expectWord "rue" rest)
  | Byte.f :: rest => do return (.boolean false, ← expectWord "alse" rest)
  | Byte.quote :: rest => do
    let (text, rest) ← readText rest
    return (.text text, rest)
  | Byte.minus :: rest => do
    let (number, rest) ← readNumber true rest
    return (.number number, rest)
  | byte :: rest =>
    if (Byte.digit? byte).isSome then do
      let (number, rest) ← readNumber false (byte :: rest)
      return (.number number, rest)
    else .error .malformed

/-- The problem with a value that starts here and is not what is wanted. -/
def misfit (want : Want) (bytes : List UInt8) : Problem :=
  match bytes with
  | Byte.openBracket :: _ => .misshapen (.wrongType .sequence want)
  | Byte.openBrace :: _ => .misshapen (.wrongType .object want)
  | _ =>
    match readScalar bytes with
    | .ok (value, _) => .misshapen (.wrongType value.seen want)
    | .error problem => problem

/-- A string. -/
def readString : Reader String := fun bytes =>
  match skipSpace bytes with
  | [] => .error .truncated
  | Byte.quote :: rest => readText rest
  | bytes => .error (misfit .text bytes)

/-- A whole number from 0 on. -/
def readCount : Reader Nat := fun bytes =>
  let counted (negative : Bool) (bytes : List UInt8) : Except Problem (Nat × List UInt8) := do
    let (number, rest) ← readNumber negative bytes
    match number with
    | .integer n =>
      if 0 ≤ n then return (n.toNat, rest)
      else .error (.misshapen (.wrongValue (.number number) .count))
    | .real _ => .error (.misshapen (.wrongType (.number number) .count))
  match skipSpace bytes with
  | [] => .error .truncated
  | Byte.minus :: rest => counted true rest
  | byte :: rest =>
    if (Byte.digit? byte).isSome then counted false (byte :: rest)
    else .error (misfit .count (byte :: rest))

/-- Whether an array goes on here, and from where: past the comma that every element but the first
has before it, or at the closing bracket. -/
def nextElement (first : Bool) (bytes : List UInt8) : Except Problem (Bool × List UInt8) :=
  match skipSpace bytes with
  | [] => .error .truncated
  | Byte.closeBracket :: rest => .ok (false, Byte.closeBracket :: rest)
  | byte :: rest =>
    if first then .ok (true, byte :: rest)
    else if byte == Byte.comma then
      match skipSpace rest with
      | [] => .error .truncated
      | Byte.closeBracket :: _ => .error .malformed
      | bytes => .ok (true, bytes)
    else .error .malformed

/-- The end of an array. -/
def closeArray (bytes : List UInt8) : Except Problem (List UInt8) :=
  match skipSpace bytes with
  | [] => .error .truncated
  | Byte.closeBracket :: rest => .ok rest
  | _ => .error .malformed

/-- The elements of an array to its end; `done` holds those already read, last one first. Every step
takes a byte at least. -/
def readElementsFrom {α : Type} (item : Reader α) (done : List α) (first : Bool) :
    (measure : List UInt8) → Reader (List α)
  | [], _ => .error .truncated
  | _ :: measure, bytes => do
    let (more, bytes) ← nextElement first bytes
    if more then
      let (value, bytes) ← item bytes
      readElementsFrom item (value :: done) false measure bytes
    else return (done.reverse, ← closeArray bytes)

/-- The elements of an array behind its opening bracket. -/
def readElements {α : Type} (item : Reader α) : Reader (List α) := fun bytes =>
  readElementsFrom item [] true bytes bytes

/-- The name of the next member of an object and what follows it, or what follows the object. -/
def nextMember (first : Bool) (bytes : List UInt8) : Except Problem (Option String × List UInt8) :=
  let name (bytes : List UInt8) : Except Problem (Option String × List UInt8) :=
    match bytes with
    | [] => .error .truncated
    | Byte.quote :: rest => do
      let (name, rest) ← readText rest
      return (some name, rest)
    | _ => .error .malformed
  match skipSpace bytes with
  | [] => .error .truncated
  | Byte.closeBrace :: rest => .ok (none, rest)
  | byte :: rest =>
    if first then name (byte :: rest)
    else if byte == Byte.comma then name (skipSpace rest)
    else .error .malformed

/-- The colon between a name and its value. -/
def expectColon (bytes : List UInt8) : Except Problem (List UInt8) :=
  match skipSpace bytes with
  | [] => .error .truncated
  | Byte.colon :: rest => .ok rest
  | _ => .error .malformed

/-- Reads an object to its end, taking up one member after the other: `member` is called behind
every name. Every step takes a byte at least. -/
def foldMembersFrom {σ : Type} (member : σ → String → Reader σ) (state : σ) (first : Bool) :
    (measure : List UInt8) → Reader σ
  | [], _ => .error .truncated
  | _ :: measure, bytes => do
    match ← nextMember first bytes with
    | (some name, bytes) =>
      let (state, bytes) ← member state name bytes
      foldMembersFrom member state false measure bytes
    | (none, bytes) => return (state, bytes)

/-- Reads an object behind its opening brace. -/
def foldMembers {σ : Type} (member : σ → String → Reader σ) (state : σ) : Reader σ := fun bytes =>
  foldMembersFrom member state true bytes bytes

/-- Adds the member of this name to those already read, last one first. -/
def readMember {α : Type} (item : Reader α) (done : List (String × α)) (name : String) :
    Reader (List (String × α)) := fun bytes => do
  let (value, bytes) ← item (← expectColon bytes)
  return ((name, value) :: done, bytes)

/-- The members of an object in the order of the text, with repetitions. -/
def readMembers {α : Type} (item : Reader α) : Reader (List (String × α)) := fun bytes => do
  let (members, bytes) ← foldMembers (readMember item) [] bytes
  return (members.reverse, bytes)

/-- Any value. Of a repeated member the last value stays, in the first place. -/
def readValue : (room : Nat) → Reader Value
  | 0, bytes =>
    match skipSpace bytes with
    | Byte.openBracket :: _ => .error .malformed
    | Byte.openBrace :: _ => .error .malformed
    | bytes => readScalar bytes
  | room + 1, bytes =>
    match skipSpace bytes with
    | Byte.openBracket :: rest => do
      let (items, rest) ← readElements (readValue room) rest
      return (.sequence items, rest)
    | Byte.openBrace :: rest => do
      let (members, rest) ← readMembers (readValue room) rest
      return (.object (Assoc.ofPairs members), rest)
    | bytes => readScalar bytes

/-- An array whose elements are read by `item`, which is told how much room is left. -/
def readArray {α : Type} (item : Nat → Reader α) (room : Nat) : Reader (List α) := fun bytes =>
  match skipSpace bytes, room with
  | [], _ => .error .truncated
  | Byte.openBracket :: _, 0 => .error .malformed
  | Byte.openBracket :: rest, room + 1 => readElements (item room) rest
  | bytes, _ => .error (misfit .sequence bytes)

/-- An object whose values are read by `item`, which is told how much room is left. Members are
given in the order of the text, with repetitions. -/
def readObject {α : Type} (item : Nat → Reader α) (room : Nat) : Reader (List (String × α)) :=
  fun bytes =>
  match skipSpace bytes, room with
  | [], _ => .error .truncated
  | Byte.openBrace :: _, 0 => .error .malformed
  | Byte.openBrace :: rest, room + 1 => readMembers (item room) rest
  | bytes, _ => .error (misfit .object bytes)

/-- What `reader` makes of a whole text, behind which only white space may stand. -/
def readAll {α : Type} (reader : Reader α) (text : List UInt8) : Except Problem α := do
  let (value, rest) ← reader text
  match skipSpace rest with
  | [] => return value
  | _ :: _ => .error .malformed

end Almanac.Json
