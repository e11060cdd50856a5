import Almanac.Proofs.Calendar.Languages

/-!
# Spellings of a language

A region has a language in every spelling, since the case of ASCII letters does not count there. The
names of its days do not follow suit: a name is looked up under the language exactly as it is
spelled. So building a calendar comes to the same in two spellings of a language if every day has
the same name in both, and a calendar that can be built in one of them is the calendar of the other
only in that case. A locale always asks in lower case, and finds no names under capitals.
-/

namespace Almanac

/-- The error as it is reported of another spelling of the language. -/
def ConfigurationError.respelled (spelling : String) : ConfigurationError → ConfigurationError
  | .languageNotSupported region _ => .languageNotSupported region spelling
  | .missingName expression _ => .missingName expression spelling
  | error => error

/-- The error as it is reported of another spelling of the language. -/
def CalendarError.respelled (spelling : String) : CalendarError → CalendarError
  | .configuration error => .configuration (error.respelled spelling)
  | .expression error => .expression error

namespace Calendar

/-- The day is called the same in both spellings, or has no name in either. -/
def NamedAlike (language spelling : String) (day : String × Json.Value) : Prop :=
  ∀ properties, Properties.ofValue day.2 = .ok properties →
    properties.displayName spelling = properties.displayName language

variable {code language spelling : String} {region : Region} {registry : Registry}
  {day : String × Json.Value}

/-! ## One day -/

theorem Declares.respelled {entry : Entry} (h : Declares language registry day entry)
    (hnames : NamedAlike language spelling day) : Declares spelling registry day entry := by
  cases h with
  | entry shaped named saysKind parsed =>
      exact .entry shaped ((hnames _ shaped).trans named) saysKind parsed

theorem Fails.respelled {error : CalendarError} (h : Fails language registry day error)
    (hnames : NamedAlike language spelling day) :
    Fails spelling registry day (error.respelled spelling) := by
  cases h with
  | malformed misshapen => exact .malformed misshapen
  | unnamed shaped unnamed => exact .unnamed shaped ((hnames _ shaped).trans unnamed)
  | unknownKind shaped named said unknown =>
      exact .unknownKind shaped ((hnames _ shaped).trans named) said unknown
  | unparsed shaped named saysKind faulty =>
      exact .unparsed shaped ((hnames _ shaped).trans named) saysKind faulty

theorem entryOf_respelled (registry : Registry) (hnames : NamedAlike language spelling day) :
    entryOf spelling registry day =
      (entryOf language registry day).mapError (·.respelled spelling) := by
  rcases declares_or_fails language registry day with ⟨entry, h⟩ | ⟨error, h⟩
  · rw [entryOf_of_declares h, entryOf_of_declares (h.respelled hnames)]
    rfl
  · rw [entryOf_of_fails h, entryOf_of_fails (h.respelled hnames)]
    rfl

/-- One entry has one name. -/
theorem namedAlike_of_declares {entry : Entry} (h : Declares language registry day entry)
    (h' : Declares spelling registry day entry) : NamedAlike language spelling day := by
  cases h with
  | entry shaped named _ _ =>
      cases h' with
      | entry shaped' named' _ _ =>
          intro properties hproperties
          rw [hproperties] at shaped shaped'
          cases shaped
          cases shaped'
          rw [named, named']

/-- Nothing but a name can be missing of a day that makes an entry in another spelling. -/
theorem missingName_of_declares {entry : Entry} {error : CalendarError}
    (h : Declares language registry day entry) (h' : Fails spelling registry day error) :
    error = .configuration (.missingName day.1 spelling) := by
  cases h with
  | entry shaped _ saysKind parsed =>
      cases h' with
      | malformed misshapen =>
          rw [shaped] at misshapen
          cases misshapen
      | unnamed _ _ => rfl
      | unknownKind shaped' _ said unknown =>
          rw [shaped] at shaped'
          cases shaped'
          rw [said] at saysKind
          exact absurd saysKind (Bool.eq_false_iff.1 (unknown _))
      | unparsed _ _ _ faulty =>
          rw [parsed] at faulty
          cases faulty

/-! ## Regions -/

theorem supportsLanguage_respelled (hsame : Text.sameLetters language spelling = true)
    (region : Region) : region.supportsLanguage spelling = region.supportsLanguage language := by
  unfold Region.supportsLanguage
  simp only [Text.sameLetters_congr hsame]

/-- **Spellings that name the days alike have the same outcome.** -/
theorem ofRegion_respelled (hsame : Text.sameLetters language spelling = true)
    (hnames : ∀ day ∈ region.days, NamedAlike language spelling day) :
    ofRegion code spelling region registry =
      (ofRegion code language region registry).mapError (·.respelled spelling) := by
  have hsupports := supportsLanguage_respelled hsame region
  -- nothing but the names of the days depends on the spelling of the language
  cases hlanguage : region.supportsLanguage language with
  | false =>
      rw [ofRegion_unsupported hlanguage, ofRegion_unsupported (hsupports.trans hlanguage)]
      rfl
  | true =>
      cases hdayOff : Weekday.ofName? region.dayOff with
      | none =>
          rw [ofRegion_of_ofName?_none hlanguage hdayOff,
            ofRegion_of_ofName?_none (hsupports.trans hlanguage) hdayOff]
          rfl
      | some dayOff =>
          have hentries : region.days.mapM (entryOf spelling registry) =
              (region.days.mapM (entryOf language registry)).mapError (·.respelled spelling) :=
            mapM_mapError fun day hday => entryOf_respelled registry (hnames day hday)
          rw [ofRegion_of_ofName? hlanguage hdayOff,
            ofRegion_of_ofName? (hsupports.trans hlanguage) hdayOff, hentries]
          cases region.days.mapM (entryOf language registry) with
          | error error => rfl
          | ok entries => rfl

/-- One calendar has one name for every day. -/
theorem namedAlike_of_ofRegion {calendar : Calendar}
    (h : ofRegion code language region registry = .ok calendar)
    (h' : ofRegion code spelling region registry = .ok calendar) :
    ∀ day ∈ region.days, NamedAlike language spelling day := by
  obtain ⟨-, -, hentries, -⟩ := ofRegion_eq_ok_iff.1 h
  obtain ⟨-, -, hentries', -⟩ := ofRegion_eq_ok_iff.1 h'
  intro day hday
  obtain ⟨entry, hdeclares, hdeclares'⟩ := exists_common_of_forall₂ hentries hentries' hday
  exact namedAlike_of_declares hdeclares hdeclares'

theorem ofRegion_respelled_eq_ok_iff {calendar : Calendar}
    (hsame : Text.sameLetters language spelling = true)
    (h : ofRegion code language region registry = .ok calendar) :
    ofRegion code spelling region registry = .ok calendar ↔
      ∀ day ∈ region.days, NamedAlike language spelling day := by
  refine ⟨?_, ?_⟩
  · intro h'
    exact namedAlike_of_ofRegion h h'
  · intro hnames
    rw [ofRegion_respelled hsame hnames, h]
    rfl

/-- Where one spelling builds a calendar, nothing but a name can be missing in the other. -/
theorem missingName_of_respelled {calendar : Calendar} {error : CalendarError}
    (hsame : Text.sameLetters language spelling = true)
    (h : ofRegion code language region registry = .ok calendar)
    (h' : ofRegion code spelling region registry = .error error) :
    ∃ day ∈ region.days, error = .configuration (.missingName day.1 spelling) := by
  obtain ⟨hlanguage, hdayOff, hentries, -⟩ := ofRegion_eq_ok_iff.1 h
  rw [← supportsLanguage_iff, ← supportsLanguage_respelled hsame] at hlanguage
  -- the calendar shows that language and day off are good, so a day must be the problem
  cases ofRegion_eq_error_iff.1 h' with
  | language unsupported =>
      rw [not_supportsLanguage_iff.2 unsupported] at hlanguage
      cases hlanguage
  | dayOff _ unknown =>
      rw [unknown calendar.dayOff] at hdayOff
      cases hdayOff
  | @day _ _ before after day _ declared _ fails =>
      have hday : day ∈ region.days := by simp [declared]
      obtain ⟨entry, hdeclares, -⟩ := exists_common_of_forall₂ hentries hentries hday
      exact ⟨day, hday, missingName_of_declares hdeclares fails⟩

/-- A locale asks for the language in lower case. -/
theorem ofConfiguration_ofCodes {configuration : Configuration} {language code : String}
    {region : Region}
    (hregion : configuration.region (Locale.ofCodes language code).region = .ok region)
    (registry : Registry) :
    ofConfiguration configuration (Locale.ofCodes language code) registry =
      ofRegion (Locale.ofCodes language code).region (Text.asciiLower language) region
        registry := by
  unfold ofConfiguration
  rw [hregion]
  rfl

/--
**How far the spelling of the language counts.**

A region has a language in all spellings or in none. Two spellings have the same outcome, be it a
calendar or an error for the same day, if every day is called the same in both. Only then do both
have the same calendar; otherwise a calendar of the one spelling can differ from that of the other
in names, or miss a name there. In particular a locale has the calendar of a spelling only if the
days are called the same in lower case.
-/
theorem ofRegion_spellings {language spelling : String}
    (hsame : Text.sameLetters language spelling = true) (code : String) (region : Region)
    (registry : Registry) :
    region.supportsLanguage spelling = region.supportsLanguage language ∧
    ((∀ day ∈ region.days, NamedAlike language spelling day) →
      ofRegion code spelling region registry =
        (ofRegion code language region registry).mapError (·.respelled spelling)) ∧
    (∀ calendar, ofRegion code language region registry = .ok calendar →
      (ofRegion code spelling region registry = .ok calendar ↔
        ∀ day ∈ region.days, NamedAlike language spelling day) ∧
      ∀ error, ofRegion code spelling region registry = .error error →
        ∃ day ∈ region.days, error = .configuration (.missingName day.1 spelling)) ∧
    ∀ configuration calendar,
      configuration.region (Locale.ofCodes language code).region = .ok region →
      ofRegion (Locale.ofCodes language code).region language region registry = .ok calendar →
      (ofConfiguration configuration (Locale.ofCodes language code) registry = .ok calendar ↔
        ∀ day ∈ region.days, NamedAlike language (Text.asciiLower language) day) := by
  refine ⟨supportsLanguage_respelled hsame region, ofRegion_respelled hsame, ?_, ?_⟩
  · intro calendar h
    refine ⟨ofRegion_respelled_eq_ok_iff hsame h, ?_⟩
    intro error h'
    exact missingName_of_respelled hsame h h'
  · intro configuration calendar hregion h
    have hlower : Text.sameLetters language (Text.asciiLower language) = true := by
      rw [Text.sameLetters_iff, Text.asciiLower_asciiLower]
    rw [ofConfiguration_ofCodes hregion]
    exact ofRegion_respelled_eq_ok_iff hlower h

/-- A name that is shared by all languages is found in every spelling, also through a locale. -/
theorem ofRegion_spellings_shared :
    let region : Region := ⟨[], "sunday", ["SV"],
      [("12-25", .object [("_name", .text "Juldagen")])]⟩
    let configuration : Configuration := ⟨[("SE", region)], 20⟩
    let calendar : Calendar := ⟨.sunday, ["sv"], [], [⟨"Juldagen", .holiday, .fixed 12 25⟩]⟩
    Text.sameLetters "SV" "sv" = true ∧
      (∀ day ∈ region.days, NamedAlike "SV" "sv" day) ∧
      ofRegion "SE" "SV" region .standard = .ok calendar ∧
      ofRegion "SE" "sv" region .standard = .ok calendar ∧
      ofConfiguration configuration (Locale.ofCodes "SV" "SE") .standard = .ok calendar := by
  intro region configuration calendar
  have hsame : Text.sameLetters "SV" "sv" = true := by decide
  have hnames : ∀ day ∈ region.days, NamedAlike "SV" "sv" day := by
    intro day hday properties hproperties
    rw [List.mem_singleton.1 hday] at hproperties
    cases hproperties
    rfl
  have hbuilt : ofRegion "SE" "SV" region .standard = .ok calendar := by
    simp only [region, calendar]; rfl
  have hregion : configuration.region "SE" = .ok region := by
    simp only [configuration]; rfl
  obtain ⟨-, -, hcalendar, hlocale⟩ := ofRegion_spellings hsame "SE" region .standard
  exact ⟨hsame, hnames, hbuilt, (hcalendar calendar hbuilt).1.2 hnames,
    (hlocale configuration calendar hregion hbuilt).2 hnames⟩

/-- **The spelling of the language can decide the outcome.** The region has the language and a name
for its day, both in capitals. In capitals its calendar is built and has the language in lower case
too, but in lower case, and so through any locale, the name is missing. -/
theorem not_ofRegion_spellings :
    let region : Region := ⟨[], "sunday", ["SV"],
      [("12-25", .object [("name", .object [("SV", .text "Juldagen")])])]⟩
    let configuration : Configuration := ⟨[("SE", region)], 20⟩
    let calendar : Calendar := ⟨.sunday, ["sv"], [], [⟨"Juldagen", .holiday, .fixed 12 25⟩]⟩
    let error : CalendarError := .configuration (.missingName "12-25" "sv")
    Text.sameLetters "SV" "sv" = true ∧ region.supportsLanguage "sv" = true ∧
      ofRegion "SE" "SV" region .standard = .ok calendar ∧
      calendar.supportsLanguage "sv" = true ∧
      ofRegion "SE" "sv" region .standard = .error error ∧
      ofConfiguration configuration (Locale.ofCodes "SV" "SE") .standard = .error error := by
  intro region configuration calendar error
  have hregion : configuration.region "SE" = .ok region := by
    simp only [configuration]; rfl
  have hbuilt : ofRegion "SE" "SV" region .standard = .ok calendar := by
    simp only [region, calendar]; rfl
  have hmissing : ofRegion "SE" "sv" region .standard = .error error := by
    simp only [region, error]; rfl
  refine ⟨by decide, by decide, hbuilt, by decide, hmissing, ?_⟩
  exact (ofConfiguration_ofCodes hregion .standard).trans hmissing

end Calendar

end Almanac
