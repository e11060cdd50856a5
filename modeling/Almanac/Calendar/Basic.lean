import Almanac.Calendar.Entry
import Almanac.Locale
import Almanac.Rule.Expression

/-!
# Calendars

The calendar of a region in one language: its weekly day off and its entries, in order. A calendar
is built from what a configuration says about the region, and building it reads every date
expression, so a calendar that exists has no faults left. The first problem in order of declaration
is the one that is reported.
-/

namespace Almanac

/-- What can be wrong when a calendar is built. -/
inductive CalendarError
  | configuration (error : ConfigurationError)
  | expression (error : ExpressionError)
  deriving DecidableEq, Repr

/-- The message of the error. -/
def CalendarError.message : CalendarError → String
  | .configuration error => error.message
  | .expression error => error.message

/-- Holidays and observances in one language. -/
structure Calendar where
  dayOff : Weekday
  /-- The languages that the region has. -/
  languages : List String
  /-- Names of the region by language. -/
  regionNames : List (String × String)
  entries : List Entry

namespace Calendar

/-- A calendar of given entries, for a region without a name. -/
def ofEntries (dayOff : Weekday) (languages : List String) (entries : List Entry) : Calendar :=
  ⟨dayOff, languages.eraseDups, [], entries⟩

/-- The entry that a region declares as `day`, with its name in `language`. -/
def entryOf (language : String) (registry : Registry) (day : String × Json.Value) :
    Except CalendarError Entry := do
  let (expression, value) := day
  let properties ← (Region.properties expression value).mapError .configuration
  let name ←
    match properties.displayName language with
    | some name => pure name
    | none => throw (.configuration (.missingName expression language))
  let kind ←
    match properties.kind with
    | some kind =>
      match Kind.ofName? kind with
      | some kind => pure kind
      | none => throw (.configuration (.unknownKind expression kind))
    | none => pure .holiday
  let rule ← (Rule.ofExpression expression registry).mapError .expression
  return ⟨name, kind, rule⟩

/-- The calendar of a region, which is called `code`, in `language`. -/
def ofRegion (code language : String) (region : Region) (registry : Registry) :
    Except CalendarError Calendar := do
  if !region.supportsLanguage language then
    throw (.configuration (.languageNotSupported code language))
  match Weekday.ofName? region.dayOff with
  | none => throw (.configuration (.unknownDayOff code region.dayOff))
  | some dayOff =>
    let entries ← region.days.mapM (entryOf language registry)
    return ⟨dayOff, (region.languages.map Text.asciiLower).eraseDups, region.names, entries⟩

/-- The calendar of a locale. -/
def ofConfiguration (configuration : Configuration) (locale : Locale) (registry : Registry) :
    Except CalendarError Calendar := do
  let region ← (configuration.region locale.region).mapError .configuration
  ofRegion locale.region locale.language region registry

/-- Whether the region has the language. -/
def supportsLanguage (calendar : Calendar) (language : String) : Bool :=
  calendar.languages.contains (Text.asciiLower language)

/-- The name of the region in `language`. -/
def regionName? (calendar : Calendar) (language : String) : Option String :=
  Assoc.get? language calendar.regionNames

/-- The days of the entries that have one in `year`, in order of declaration. -/
def days (calendar : Calendar) (year : Int) : List Day := calendar.entries.filterMap (·.inYear year)

/-- The days of `year` that are holidays. -/
def holidays (calendar : Calendar) (year : Int) : List Day :=
  (calendar.days year).filter Day.isHoliday

/-- Whether the date falls on the weekly day off. -/
def isDayOff (calendar : Calendar) (date : Date) : Bool := date.weekday == calendar.dayOff

/-- Whether the date is off: by its weekday, or as the date of a holiday in its own year. -/
def isHoliday (calendar : Calendar) (date : Date) : Bool :=
  calendar.isDayOff date ||
    (calendar.entries.filter (·.kind == .holiday)).any fun entry =>
      entry.rule.resolve date.year == some date

end Calendar

end Almanac
