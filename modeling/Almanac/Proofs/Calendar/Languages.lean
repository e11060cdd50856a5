import Almanac.Proofs.Calendar.Construction
import Almanac.Proofs.Calendar.Holidays

/-!
# Calendars of one region in two languages

The language is asked for twice while a calendar is built: whether the region has it, and for the
name of every day. The first can only prevent the calendar, and the second says how the days are
called. So two calendars of one region are `Alike`: they agree in everything but names, entry by
entry, and give the same answers about dates.
-/

namespace Almanac

/-- The entries differ in name at most. -/
structure Entry.Alike (entry other : Entry) : Prop where
  kind : entry.kind = other.kind
  rule : entry.rule = other.rule

/-- What is left of the day without its name. -/
def Day.unnamed (day : Day) : Date × Kind := (day.date, day.kind)

namespace Calendar

/-- The calendars differ in the names of their days at most. -/
structure Alike (calendar other : Calendar) : Prop where
  dayOff : calendar.dayOff = other.dayOff
  languages : calendar.languages = other.languages
  regionNames : calendar.regionNames = other.regionNames
  /-- There are as many entries, and each is like the one in its place. -/
  entries : List.Forall₂ Entry.Alike calendar.entries other.entries

/-! ## Building two calendars -/

section
variable {language language' : String} {registry : Registry} {day : String × Json.Value}

theorem saysKind_unique {said : Option String} {kind kind' : Kind} (h : SaysKind said kind)
    (h' : SaysKind said kind') : kind = kind' := by
  cases said with
  | none => exact h.trans h'.symm
  | some name =>
      have hfound := Kind.ofName?_eq_some_iff.2 h
      have hfound' := Kind.ofName?_eq_some_iff.2 h'
      exact Option.some.inj (hfound.symm.trans hfound')

/-- **One day makes like entries**, whatever its name is in the two languages. -/
theorem alike_of_declares {entry entry' : Entry} (h : Declares language registry day entry)
    (h' : Declares language' registry day entry') : entry.Alike entry' := by
  cases h with
  | entry shaped _ saysKind parsed =>
      cases h' with
      | entry shaped' _ saysKind' parsed' =>
          rw [shaped] at shaped'
          cases shaped'
          rw [parsed] at parsed'
          cases parsed'
          exact ⟨saysKind_unique saysKind saysKind', rfl⟩

theorem alike_of_ofRegion {code code' : String} {region : Region} {calendar calendar' : Calendar}
    (h : ofRegion code language region registry = .ok calendar)
    (h' : ofRegion code' language' region registry = .ok calendar') : calendar.Alike calendar' := by
  obtain ⟨-, hdayOff, hentries, hlanguages, hnames⟩ := ofRegion_eq_ok_iff.1 h
  obtain ⟨-, hdayOff', hentries', hlanguages', hnames'⟩ := ofRegion_eq_ok_iff.1 h'
  rw [← Weekday.ofName?_eq_some_iff] at hdayOff hdayOff'
  have halike : List.Forall₂ Entry.Alike calendar.entries calendar'.entries := by
    refine forall₂_of_common ?_ hentries hentries'
    intro day entry entry' hday hday'
    exact alike_of_declares hday hday'
  exact ⟨Option.some.inj (hdayOff.symm.trans hdayOff'), hlanguages.trans hlanguages'.symm,
    hnames.trans hnames'.symm, halike⟩

theorem ofConfiguration_eq_ok_iff {configuration : Configuration} {locale : Locale}
    {calendar : Calendar} :
    ofConfiguration configuration locale registry = .ok calendar ↔
      ∃ region, configuration.region locale.region = .ok region ∧
        ofRegion locale.region locale.language region registry = .ok calendar := by
  unfold ofConfiguration
  cases configuration.region locale.region with
  | error error => simp [Except.mapError, bind, Except.bind]
  | ok region => simp [Except.mapError, bind, Except.bind]

/-- Two locales of one region have like calendars, if they have any. -/
theorem alike_of_ofConfiguration {configuration : Configuration} {locale locale' : Locale}
    {calendar calendar' : Calendar}
    (hregion : Text.asciiUpper locale.region = Text.asciiUpper locale'.region)
    (h : ofConfiguration configuration locale registry = .ok calendar)
    (h' : ofConfiguration configuration locale' registry = .ok calendar') :
    calendar.Alike calendar' := by
  obtain ⟨region, hfound, hbuilt⟩ := ofConfiguration_eq_ok_iff.1 h
  obtain ⟨region', hfound', hbuilt'⟩ := ofConfiguration_eq_ok_iff.1 h'
  -- regions are looked up by their code in upper case
  have hsame : region = region' := by
    unfold Configuration.region at hfound hfound'
    rw [hregion] at hfound
    split at hfound
    · next found hget =>
      rw [hget] at hfound'
      exact (Except.ok.inj hfound).symm.trans (Except.ok.inj hfound')
    · cases hfound
  subst hsame
  exact alike_of_ofRegion hbuilt hbuilt'

end

/-! ## Asking like calendars -/

/-- Like entries have the same day in a year, but for its name. -/
theorem inYear_of_alike {entry other : Entry} (h : entry.Alike other) (year : Int) :
    (entry.inYear year).map Day.unnamed = (other.inYear year).map Day.unnamed := by
  unfold Entry.inYear
  rw [Option.map_map, Option.map_map, h.rule]
  cases other.rule.resolve year with
  | none => rfl
  | some date => exact congrArg (fun kind => some (date, kind)) h.kind

theorem map_unnamed_of_alike {entries others : List Entry}
    (h : List.Forall₂ Entry.Alike entries others) (year : Int) :
    (entries.filterMap (·.inYear year)).map Day.unnamed =
      (others.filterMap (·.inYear year)).map Day.unnamed := by
  rw [List.map_filterMap, List.map_filterMap]
  induction h with
  | nil => rfl
  | cons halike _ ih => rw [List.filterMap_cons, List.filterMap_cons, ih, inYear_of_alike halike]

/-- Whether a date is off can be told from the days without their names. -/
theorem isHoliday_eq_unnamed (calendar : Calendar) (date : Date) :
    calendar.isHoliday date = (calendar.isDayOff date ||
      ((calendar.days date.year).map Day.unnamed).any fun day =>
        day.2 == .holiday && day.1 == date) := by
  rw [isHoliday_eq]
  unfold holidays
  rw [List.any_filter, List.any_map]
  rfl

variable {calendar other : Calendar}

theorem Alike.days (h : calendar.Alike other) (year : Int) :
    (calendar.days year).map Day.unnamed = (other.days year).map Day.unnamed :=
  map_unnamed_of_alike h.entries year

theorem Alike.isHoliday (h : calendar.Alike other) (date : Date) :
    calendar.isHoliday date = other.isHoliday date := by
  rw [isHoliday_eq_unnamed, isHoliday_eq_unnamed, h.days date.year]
  unfold isDayOff
  rw [h.dayOff]

end Calendar

end Almanac
