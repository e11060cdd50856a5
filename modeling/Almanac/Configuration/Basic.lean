import Almanac.Configuration.Region

/-!
# Configurations

A configuration has regions by code and says how many years of holidays a directory keeps. Region
codes are kept in upper case and looked up in any ASCII case.
-/

namespace Almanac

/-- What can be wrong with a configuration, or with what is asked of it. -/
inductive ConfigurationError
  | regionNotFound (code : String)
  | languageNotSupported (region language : String)
  | invalidLocale (tag : String)
  | unknownDayOff (region name : String)
  | missingName (expression language : String)
  | unknownKind (expression kind : String)
  | malformedEntry (expression : String) (mismatch : Json.Mismatch)
  deriving DecidableEq, Repr

/-- The message of the error. -/
def ConfigurationError.message : ConfigurationError → String
  | .regionNotFound code => "region '" ++ code ++ "' not found in configuration"
  | .languageNotSupported region language =>
    "language '" ++ language ++ "' is not supported by region '" ++ region ++ "'"
  | .invalidLocale tag => "invalid locale tag '" ++ tag ++ "'"
  | .unknownDayOff region name => "unknown day off '" ++ name ++ "' for region '" ++ region ++ "'"
  | .missingName expression language =>
    "entry \"" ++ expression ++ "\" has no name for language '" ++ language ++ "'"
  | .unknownKind expression kind =>
    "entry \"" ++ expression ++ "\" has unknown type '" ++ kind ++ "'"
  | .malformedEntry expression mismatch =>
    "entry \"" ++ expression ++ "\" is malformed: " ++ mismatch.message

/-- The properties that were read for `expression`. -/
def Region.properties (expression : String) (value : Json.Value) :
    Except ConfigurationError Properties :=
  match Properties.ofValue value with
  | .ok properties => .ok properties
  | .error mismatch => .error (.malformedEntry expression mismatch)

/-- Regions and the size of the cache. -/
structure Configuration where
  /-- Regions by upper case code, each code once. -/
  regions : List (String × Region)
  /-- How many lists of holidays, each of one locale and year, are kept. -/
  yearCapacity : Nat

namespace Configuration

/-- How many lists of holidays are kept unless something else is said. -/
def defaultYearCapacity : Nat := 20

/-- The configuration of regions under codes in any case. -/
def ofRegions (regions : List (String × Region)) (yearCapacity : Nat) : Configuration :=
  ⟨Assoc.ofPairs (regions.map fun (code, region) => (Text.asciiUpper code, region)), yearCapacity⟩

/-- The region under this code, in any ASCII case. -/
def region (configuration : Configuration) (code : String) : Except ConfigurationError Region :=
  match Assoc.get? (Text.asciiUpper code) configuration.regions with
  | some region => .ok region
  | none => .error (.regionNotFound code)

/-- The codes of the regions. -/
def codes (configuration : Configuration) : List String := Assoc.keys configuration.regions

/-- A configuration whose fields are still being read. -/
structure Draft where
  regions : Option (List (String × Region))
  yearCapacity : Option Nat

/-- Regions by code as written, of a repeated code the last. -/
def readRegions (room : Nat) : Json.Reader (List (String × Region)) := fun bytes => do
  let (regions, rest) ← Json.readObject Region.shape.read room bytes
  return (Assoc.ofPairs regions, rest)

/-- How the sizes of caches are written. -/
def cacheShape : Json.RecordShape (Option Nat) Nat where
  name := "CacheConfiguration"
  fields := [⟨"year_capacity", (·.isSome), fun _ _ bytes => do
    let (capacity, rest) ← Json.readCount bytes
    return (some capacity, rest)⟩]
  start := none
  ofObject draft := .ok (draft.getD defaultYearCapacity)
  ofArray draft := .ok (draft.getD defaultYearCapacity)

/-- The configuration of a draft. Nothing is needed. -/
def ofDraft (draft : Draft) : Configuration :=
  ofRegions (draft.regions.getD []) (draft.yearCapacity.getD defaultYearCapacity)

/-- How configurations are written. -/
def shape : Json.RecordShape Draft Configuration where
  name := "Configuration"
  fields := [
    ⟨"holidays", (·.regions.isSome), fun room draft bytes => do
      let (regions, rest) ← readRegions room bytes
      return ({ draft with regions }, rest)⟩,
    ⟨"cache", (·.yearCapacity.isSome), fun room draft bytes => do
      let (yearCapacity, rest) ← cacheShape.read room bytes
      return ({ draft with yearCapacity }, rest)⟩]
  start := ⟨none, none⟩
  ofObject draft := .ok (ofDraft draft)
  ofArray draft := .ok (ofDraft draft)

/-- The configuration that a JSON text holds. -/
def ofJson (text : List UInt8) : Except Json.Problem Configuration :=
  Json.readAll (shape.read Json.nestingLimit) text

/-- The regions by code that a JSON text holds. -/
def regionsOfJson (text : List UInt8) : Except Json.Problem (List (String × Region)) :=
  Json.readAll (readRegions Json.nestingLimit) text

/-- What can keep a configuration from being loaded. -/
inductive LoadError
  /-- There is no text to read. -/
  | unreadable
  | json (problem : Json.Problem)
  deriving DecidableEq, Repr

/-- The configuration in a file with these contents, if the file can be read at all. -/
def ofFile (contents : Option (List UInt8)) : Except LoadError Configuration :=
  match contents with
  | some text => (ofJson text).mapError .json
  | none => .error .unreadable

end Configuration

end Almanac
