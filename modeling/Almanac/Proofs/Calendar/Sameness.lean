import Almanac.Proofs.Calendar.Construction
import Almanac.Proofs.Rule.Sameness

/-!
# Regions that say the same in other words

A region may spell its date expressions in another way and still declare the same days. If every
expression is read as the same rule as the one in its place, the two regions have calendars or have
none together, and their calendars answer alike.
-/

namespace Almanac.Calendar

/-- The days have the same properties, and their expressions are read as rules that compare as the
same. -/
structure SameDay (registry : Registry) (day other : String × Json.Value) : Prop where
  properties : day.2 = other.2
  rules : ∃ rule rule', Rule.ofExpression day.1 registry = .ok rule ∧
    Rule.ofExpression other.1 registry = .ok rule' ∧ (rule == rule') = true

variable {registry : Registry} {language : String}

theorem SameDay.symm {day other : String × Json.Value} (h : SameDay registry day other) :
    SameDay registry other day := by
  obtain ⟨rule, rule', hrule, hrule', hsame⟩ := h.rules
  exact ⟨h.properties.symm, rule', rule, hrule', hrule, Rule.beq_equivalence.symm hsame⟩

/-- Such days make the same entry. -/
theorem SameDay.declares {day other : String × Json.Value} {entry : Entry}
    (h : SameDay registry day other) (hday : Declares language registry day entry) :
    Declares language registry other entry := by
  obtain ⟨hproperties, rule, rule', hrule, hrule', hsame⟩ := h
  obtain ⟨expression, value⟩ := other
  have hequal : rule = rule' := Rule.eq_of_ofExpression hrule hrule' hsame
  subst hequal
  cases hday with
  | entry shaped named saysKind parsed =>
    cases hproperties
    cases hrule.symm.trans parsed
    exact .entry shaped named saysKind hrule'

theorem forall₂_declares {days others : List (String × Json.Value)} {entries : List Entry}
    (hdays : List.Forall₂ (SameDay registry) days others)
    (h : List.Forall₂ (Declares language registry) days entries) :
    List.Forall₂ (Declares language registry) others entries :=
  forall₂_of_common (fun _ _ _ hsame hday => hsame.declares hday) hdays h

/-- The regions have the same day off, the same languages and, one by one, the same days. -/
structure SameDays (registry : Registry) (region other : Region) : Prop where
  dayOff : region.dayOff = other.dayOff
  languages : region.languages = other.languages
  days : List.Forall₂ (SameDay registry) region.days other.days

theorem SameDays.symm {region other : Region} (h : SameDays registry region other) :
    SameDays registry other region :=
  ⟨h.dayOff.symm, h.languages.symm, h.days.flip.imp fun _ _ hday => hday.symm⟩

/-- The calendar of the one is that of the other, but for the names of the region. -/
theorem SameDays.ofRegion {region other : Region} (h : SameDays registry region other)
    {code : String} {calendar : Calendar}
    (hbuilt : ofRegion code language region registry = .ok calendar) (code' : String) :
    Calendar.ofRegion code' language other registry =
      .ok { calendar with regionNames := other.names } := by
  obtain ⟨hlanguage, hdayOff, hentries, hlanguages, -⟩ := ofRegion_eq_ok_iff.1 hbuilt
  rw [h.languages] at hlanguage hlanguages
  rw [h.dayOff] at hdayOff
  exact ofRegion_eq_ok_iff.2
    ⟨hlanguage, hdayOff, forall₂_declares h.days hentries, hlanguages, rfl⟩

/--
**Comparing rules by the names of their feasts is sound.**

The comparison is an equivalence. Rules that are read with one registry and compare as the same
have the same date in every year. So regions that differ in how they write their rules, and
otherwise have the same day off, languages and properties of days, have calendars in the same
languages, and these list the same days in every year and have the same dates off.
-/
theorem ofRegion_of_sameRules :
    (Equivalence fun rule other : Rule => (rule == other) = true) ∧
    (∀ (registry : Registry) (expression expression' : String) (rule rule' : Rule),
      Rule.ofExpression expression registry = .ok rule →
      Rule.ofExpression expression' registry = .ok rule' → (rule == rule') = true →
      ∀ year, rule.resolve year = rule'.resolve year) ∧
    ∀ (registry : Registry) (region other : Region), SameDays registry region other →
      ∀ code code' language : String,
        ((∃ calendar, ofRegion code language region registry = .ok calendar) ↔
          ∃ calendar', ofRegion code' language other registry = .ok calendar') ∧
        ∀ calendar calendar', ofRegion code language region registry = .ok calendar →
          ofRegion code' language other registry = .ok calendar' →
          (∀ year, calendar.days year = calendar'.days year) ∧
          ∀ date, calendar.isHoliday date = calendar'.isHoliday date := by
  refine ⟨Rule.beq_equivalence, ?_, ?_⟩
  · intro registry expression expression' rule rule' hrule hrule' hsame year
    rw [Rule.eq_of_ofExpression hrule hrule' hsame]
  · intro registry region other hdays code code' language
    refine ⟨⟨?_, ?_⟩, ?_⟩
    · rintro ⟨calendar, hbuilt⟩
      exact ⟨_, hdays.ofRegion hbuilt code'⟩
    · rintro ⟨calendar', hbuilt'⟩
      exact ⟨_, hdays.symm.ofRegion hbuilt' code⟩
    · intro calendar calendar' hbuilt hbuilt'
      -- days and dates off are told from the entries and the day off alone
      cases hbuilt'.symm.trans (hdays.ofRegion hbuilt code')
      exact ⟨fun _ => rfl, fun _ => rfl⟩

/-- Good Friday and a day in May, spelled in two ways. -/
theorem ofRegion_of_sameRules_sweden :
    let properties : Json.Value := .object [("_name", .text "Långfredagen")]
    let observance : Json.Value :=
      .object [("_name", .text "Majdag"), ("type", .text "observance")]
    let region : Region :=
      ⟨[], "Sunday", ["sv"], [("easter -2", properties), ("monday in may", observance)]⟩
    let other : Region := ⟨[("sv", "Sverige")], "Sunday", ["sv"],
      [(" EASTER -002", properties), ("Monday IN May", observance)]⟩
    let friday : Rule := .fromFeast "easter" easterSunday (-2)
    let calendar : Calendar := ⟨.sunday, ["sv"], [], [⟨"Långfredagen", .holiday, friday⟩,
      ⟨"Majdag", .observance, .firstInMonth .monday .may⟩]⟩
    let calendar' : Calendar := { calendar with regionNames := [("sv", "Sverige")] }
    let goodFriday : Date := ⟨736798, by decide, by decide⟩
    (Rule.ofExpression "easter -2" .standard = .ok friday ∧
      Rule.ofExpression " EASTER -002" .standard = .ok friday ∧
      friday.resolve 2017 = some goodFriday) ∧
    SameDays .standard region other ∧
    (ofRegion "SE" "sv" region .standard = .ok calendar ∧
      ofRegion "se" "sv" other .standard = .ok calendar') ∧
    calendar.days 2017 = calendar'.days 2017 ∧
      calendar.isHoliday goodFriday = calendar'.isHoliday goodFriday := by
  intro properties observance region other friday calendar calendar' goodFriday
  have hread : Rule.ofExpression "easter -2" .standard = .ok friday := by rfl
  have hread' : Rule.ofExpression " EASTER -002" .standard = .ok friday := by rfl
  have hmonday : Rule.ofExpression "monday in may" .standard =
      .ok (.firstInMonth .monday .may) := by rfl
  have hmonday' : Rule.ofExpression "Monday IN May" .standard =
      .ok (.firstInMonth .monday .may) := by rfl
  have hdays : SameDays .standard region other :=
    ⟨rfl, rfl, .cons ⟨rfl, _, _, hread, hread', Rule.beq_self _⟩
      (.cons ⟨rfl, _, _, hmonday, hmonday', Rule.beq_self _⟩ .nil)⟩
  have hbuilt : ofRegion "SE" "sv" region .standard = .ok calendar := by
    simp only [region, calendar, friday, properties, observance]; rfl
  have hbuilt' : ofRegion "se" "sv" other .standard = .ok calendar' := by
    simp only [other, calendar', calendar, friday, properties, observance]; rfl
  obtain ⟨-, hresolve, hregions⟩ := ofRegion_of_sameRules
  have hfriday : friday.resolve 2017 = some goodFriday := by decide
  have hanswers := (hregions .standard region other hdays "SE" "se" "sv").2 calendar calendar'
    hbuilt hbuilt'
  exact ⟨⟨hread, hread', (hresolve .standard _ _ friday friday hread' hread (Rule.beq_self _)
    2017).trans hfriday⟩, hdays, ⟨hbuilt, hbuilt'⟩, hanswers.1 2017, hanswers.2 goodFriday⟩

end Almanac.Calendar
