import Almanac.Configuration.Properties
import Almanac.Json.Record
import Almanac.Text.Ascii

/-!
# Regions

A region has a weekly day off, languages, names of its own and the entries of its calendar: date
expressions with their properties, in the order in which they are declared. An expression that is
declared again keeps its place and takes the later properties.
-/

namespace Almanac

/-- What a configuration says about a region. -/
structure Region where
  /-- Names of the region by language. -/
  names : List (String × String)
  /-- The name of the weekly day off. -/
  dayOff : String
  languages : List String
  /-- Date expressions with their properties, each expression once. -/
  days : List (String × Json.Value)

namespace Region

/-- Whether the region has the language, in any ASCII case. -/
def supportsLanguage (region : Region) (language : String) : Bool :=
  region.languages.any fun known => Text.sameLetters known language

/-- A region whose fields are still being read. -/
structure Draft where
  names : Option (List (String × String))
  dayOff : Option String
  languages : Option (List String)
  days : Option (List (String × Json.Value))

/-- Names by language. -/
def readNames (room : Nat) : Json.Reader (List (String × String)) := fun bytes => do
  let (names, rest) ← Json.readObject (fun _ => Json.readString) room bytes
  return (Assoc.ofPairs names, rest)

/-- Entries in the order of the text. -/
def readDays (room : Nat) : Json.Reader (List (String × Json.Value)) := fun bytes => do
  let (days, rest) ← Json.readObject Json.readValue room bytes
  return (Assoc.ofPairs days, rest)

/-- The fields of a region in order. -/
def fields : List (Json.Field Draft) := [
  ⟨"names", (·.names.isSome), fun room draft bytes => do
    let (names, rest) ← readNames room bytes
    return ({ draft with names }, rest)⟩,
  ⟨"dayoff", (·.dayOff.isSome), fun _ draft bytes => do
    let (dayOff, rest) ← Json.readString bytes
    return ({ draft with dayOff }, rest)⟩,
  ⟨"langs", (·.languages.isSome), fun room draft bytes => do
    let (languages, rest) ← Json.readArray (fun _ => Json.readString) room bytes
    return ({ draft with languages }, rest)⟩,
  ⟨"days", (·.days.isSome), fun room draft bytes => do
    let (days, rest) ← readDays room bytes
    return ({ draft with days }, rest)⟩]

/-- The region of a draft that has what a region needs; `missing` is told name and place of the
first field that is needed and not there. -/
def ofDraft (missing : String → Nat → Json.Mismatch) (draft : Draft) :
    Except Json.Mismatch Region :=
  match draft.dayOff, draft.days with
  | none, _ => .error (missing "dayoff" 1)
  | some _, none => .error (missing "days" 3)
  | some dayOff, some days =>
    .ok ⟨draft.names.getD [], dayOff, draft.languages.getD [], days⟩

/-- How regions are written. -/
def shape : Json.RecordShape Draft Region where
  name := "RegionConfiguration"
  fields := fields
  start := ⟨none, none, none, none⟩
  ofObject := ofDraft fun name _ => .missingField name
  ofArray := ofDraft fun _ place =>
    .wrongLength place (.elements "RegionConfiguration" fields.length)

end Region

end Almanac
