import Almanac.Proofs.Calendar.Languages
import Almanac.Proofs.Rule.Growth

/-!
# Calendars with more feasts

Feasts that are registered later take no calendar away. Whatever a region declares can still be
read, so its calendar is built again, and has the same entries but for the feasts that its rules may
have exchanged under their names.
-/

namespace Almanac

/-- The entries have the same name and kind, and rules that compare as the same. -/
structure Entry.SameRule (entry other : Entry) : Prop where
  name : entry.name = other.name
  kind : entry.kind = other.kind
  rule : (entry.rule == other.rule) = true

namespace Calendar

/-- The calendars differ in the feasts behind their rules at most. -/
structure SameRules (calendar other : Calendar) : Prop where
  dayOff : calendar.dayOff = other.dayOff
  languages : calendar.languages = other.languages
  regionNames : calendar.regionNames = other.regionNames
  /-- There are as many entries, and each has the rule of the one in its place. -/
  entries : List.Forall₂ Entry.SameRule calendar.entries other.entries

variable {registry other : Registry} {language : String}

theorem Declares.within {day : String × Json.Value} {entry : Entry}
    (h : Declares language registry day entry) (hwithin : registry.Within other) :
    ∃ entry', Declares language other day entry' ∧ entry'.SameRule entry := by
  cases h with
  | entry shaped named saysKind parsed =>
      obtain ⟨rule', hread, hsame, -⟩ := Rule.ofExpression_within parsed hwithin
      exact ⟨_, .entry shaped named saysKind hread, rfl, rfl, hsame⟩

/-- **A region that has a calendar has one with more feasts.** -/
theorem ofRegion_within {code : String} {region : Region} {calendar : Calendar}
    (h : ofRegion code language region registry = .ok calendar)
    (hwithin : registry.Within other) :
    ∃ calendar', ofRegion code language region other = .ok calendar' ∧
      calendar'.SameRules calendar := by
  obtain ⟨hlanguage, hdayOff, hentries, hlanguages, hnames⟩ := ofRegion_eq_ok_iff.1 h
  obtain ⟨entries, hdeclared, hsame⟩ :=
    exists_forall₂_of_forall₂ (fun _ _ hday => hday.within hwithin) hentries
  exact ⟨{ calendar with entries },
    ofRegion_eq_ok_iff.2 ⟨hlanguage, hdayOff, hdeclared, hlanguages, hnames⟩, rfl, rfl, rfl, hsame⟩

theorem ofConfiguration_within {configuration : Configuration} {locale : Locale}
    {calendar : Calendar} (h : ofConfiguration configuration locale registry = .ok calendar)
    (hwithin : registry.Within other) :
    ∃ calendar', ofConfiguration configuration locale other = .ok calendar' ∧
      calendar'.SameRules calendar := by
  obtain ⟨region, hregion, hbuilt⟩ := ofConfiguration_eq_ok_iff.1 h
  obtain ⟨calendar', hbuilt', hsame⟩ := ofRegion_within hbuilt hwithin
  exact ⟨calendar', ofConfiguration_eq_ok_iff.2 ⟨region, hregion, hbuilt'⟩, hsame⟩

/--
**Registering a feast takes nothing away.**

What was read before a registration is read after it as a rule that compares as the same. It has
the same date in every year, unless it is the rule of a feast and the feast is registered under its
name. What could not be read still cannot, for the same reason, unless the reason was a feast that
has the name now. So a calendar that can be built can be built after any registrations, with
the same entries but for the feasts of their rules.
-/
theorem ofConfiguration_registerAll :
    (∀ (registry : Registry) (name : String) (feast : Feast) (expression : String),
      (∀ rule, Rule.ofExpression expression registry = .ok rule →
        ∃ rule', Rule.ofExpression expression (registry.register name feast).2 = .ok rule' ∧
          (rule' == rule) = true ∧
          (rule.feastName? ≠ some (Text.lowercase name) →
            ∀ year, rule'.resolve year = rule.resolve year)) ∧
      ∀ error, Rule.ofExpression expression registry = .error error →
        (∀ unknown, error.fault = .unknownFeast unknown →
          Text.lowercase unknown ≠ Text.lowercase name) →
        Rule.ofExpression expression (registry.register name feast).2 = .error error) ∧
    ∀ (configuration : Configuration) (locale : Locale) (registry : Registry)
      (registrations : List Registry.Registration) (calendar : Calendar),
      ofConfiguration configuration locale registry = .ok calendar →
      ∃ calendar', ofConfiguration configuration locale
          (registry.registerAll registrations).2 = .ok calendar' ∧
        calendar'.SameRules calendar := by
  refine ⟨?_, ?_⟩
  · intro registry name feast expression
    refine ⟨?_, ?_⟩
    · -- only the feast that is registered can have changed
      intro rule hread
      obtain ⟨rule', hread', hsame, hequal⟩ := Rule.ofExpression_register hread name feast
      exact ⟨rule', hread', hsame, fun hother year => by rw [hequal hother]⟩
    · intro error hfails hother
      refine Rule.ofExpression_fails_within hfails (registry.within_register name feast) ?_
      intro unknown hunknown
      exact registry.get?_register_of_ne feast (hother unknown hunknown)
  · intro configuration locale registry registrations calendar hbuilt
    exact ofConfiguration_within hbuilt (registry.within_registerAll registrations)

/-- The first of May goes by the name of Easter from now on. Good Friday is read as before, if on
another date, and Christmas stays where it is. -/
theorem ofConfiguration_registerAll_mayFirst :
    let mayFirst : Feast := fun year => Date.ofYearMonthDay? year 5 1
    let after := (Registry.standard.register "EASTER" mayFirst).2
    let friday : Rule := .fromFeast "easter" easterSunday (-2)
    let christmas : Rule := .fixed 12 25
    let region : Region := ⟨[], "sunday", ["sv"],
      [("easter -2", .object [("_name", .text "Långfredagen")])]⟩
    let configuration : Configuration := ⟨[("SE", region)], 20⟩
    let calendar : Calendar := ⟨.sunday, ["sv"], [], [⟨"Långfredagen", .holiday, friday⟩]⟩
    (∃ rule, Rule.ofExpression "easter -2" after = .ok rule ∧ (rule == friday) = true) ∧
    (∃ rule, Rule.ofExpression "12-25" after = .ok rule ∧
      ∀ year, rule.resolve year = christmas.resolve year) ∧
    Rule.ofExpression "easter 99999999999999999999" after =
      .error ⟨"easter 99999999999999999999", .offsetTooLarge⟩ ∧
    Rule.ofExpression "pentecost" after = .error ⟨"pentecost", .unknownFeast "pentecost"⟩ ∧
    ∃ calendar', ofConfiguration configuration ⟨"sv", "SE"⟩
        (Registry.standard.registerAll [⟨"EASTER", mayFirst⟩]).2 = .ok calendar' ∧
      calendar'.SameRules calendar := by
  intro mayFirst after friday christmas region configuration calendar
  obtain ⟨hexpressions, hcalendars⟩ := ofConfiguration_registerAll
  obtain ⟨hfriday, -⟩ := hexpressions .standard "EASTER" mayFirst "easter -2"
  obtain ⟨hchristmas, -⟩ := hexpressions .standard "EASTER" mayFirst "12-25"
  obtain ⟨-, hlarge⟩ := hexpressions .standard "EASTER" mayFirst "easter 99999999999999999999"
  obtain ⟨-, hunknown⟩ := hexpressions .standard "EASTER" mayFirst "pentecost"
  obtain ⟨friday', hfriday', hsame, -⟩ := hfriday friday (by rfl)
  obtain ⟨christmas', hchristmas', -, hdates⟩ := hchristmas christmas (by rfl)
  -- no feast is in the date of Christmas, so nothing that is registered can move it
  have hother : christmas.feastName? ≠ some (Text.lowercase "EASTER") := by
    simp [christmas, Rule.feastName?]
  refine ⟨⟨friday', hfriday', hsame⟩, ⟨christmas', hchristmas', hdates hother⟩, ?_, ?_, ?_⟩
  · exact hlarge _ (by rfl) (by simp)
  · refine hunknown _ (by rfl) ?_
    rintro unknown ⟨rfl⟩
    decide +kernel
  · refine hcalendars configuration ⟨"sv", "SE"⟩ .standard [⟨"EASTER", mayFirst⟩] calendar ?_
    simp only [configuration, region, calendar, friday]
    rfl

end Calendar

end Almanac
