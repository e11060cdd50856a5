import Almanac.Json.Value

/-!
# Properties of an entry

What a configuration says about a day besides its date expression: names by language, a name that
serves every language without one of its own, and the kind. Properties are kept as the value that
was read and get their shape only when the entry is used, so that a misshapen entry is the problem
of the calendar that has it and not of the whole configuration.
-/

namespace Almanac

/-- What is said about an entry. -/
structure Properties where
  /-- Names by language. -/
  names : Option (List (String × String))
  /-- The name in every other language. -/
  sharedName : Option String
  /-- The name of the kind. -/
  kind : Option String

namespace Properties

/-- Nothing is said. -/
def none : Properties := ⟨.none, .none, .none⟩

/-- The name in `language`. -/
def displayName (properties : Properties) (language : String) : Option String :=
  (properties.names.bind (Assoc.get? language)).or properties.sharedName

/-- A value that must be a string. -/
def text : Json.Value → Except Json.Mismatch String
  | .text s => .ok s
  | value => .error (.wrongType value.seen .text)

/-- A value that must be an object of strings. -/
def texts : Json.Value → Except Json.Mismatch (List (String × String))
  | .object members => members.mapM fun (name, value) => do return (name, ← text value)
  | value => .error (.wrongType value.seen .object)

/-- A value that may be null. -/
def optional {α : Type} (shape : Json.Value → Except Json.Mismatch α) :
    Json.Value → Except Json.Mismatch (Option α)
  | .null => .ok .none
  | value => do return some (← shape value)

/-- The fields in the order in which an array lists them, each with what its value adds. -/
def fields : List (String × (Properties → Json.Value → Except Json.Mismatch Properties)) := [
  ("name", fun properties value => do return { properties with names := ← optional texts value }),
  ("_name", fun properties value => do
    return { properties with sharedName := ← optional text value }),
  ("type", fun properties value => do return { properties with kind := ← optional text value })]

/-- Takes up the member of this name; other members say nothing. -/
def withMember (properties : Properties) (member : String × Json.Value) :
    Except Json.Mismatch Properties :=
  match Assoc.get? member.1 fields with
  | some add => add properties member.2
  | .none => .ok properties

/-- The properties that a value gives: an object, or an array of the fields in order. -/
def ofValue : Json.Value → Except Json.Mismatch Properties
  | .object members => members.foldlM withMember none
  | .sequence items => do
    let properties ← ((fields.map Prod.fst).zip items).foldlM withMember none
    if fields.length < items.length then .error (.wrongLength items.length .fewer)
    else return properties
  | value => .error (.wrongType value.seen (.record "DayProperties"))

end Properties

end Almanac
