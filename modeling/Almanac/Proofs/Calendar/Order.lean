import Almanac.Proofs.Calendar.Construction
import Almanac.Proofs.Calendar.Holidays
import Almanac.Proofs.Configuration.Codes

/-!
# Days keep their order

The days of a region go a long way from the text of a configuration to the list of a year. They are
read into an object, in which a day that is declared again keeps its place; each is made an entry of
the calendar; and in every year those that have a date are listed. On this way no day is added,
repeated or moved, and none is lost but for what was declared again and has no date.
-/

namespace Almanac

namespace Calendar

/-- The day is what the entry has in `year`. -/
structure Falls (year : Int) (entry : Entry) (day : Day) : Prop where
  date : entry.rule.resolve year = some day.date
  name : entry.name = day.name
  kind : entry.kind = day.kind

/-- Whether the entry has a date in `year`. -/
def hasDate (year : Int) (entry : Entry) : Bool := (entry.rule.resolve year).isSome

theorem falls_iff {year : Int} {entry : Entry} {day : Day} :
    Falls year entry day ↔ entry.inYear year = some day := by
  rw [inYear_eq_some_iff]
  exact ⟨fun h => ⟨h.date, h.name, h.kind⟩, fun h => ⟨h.1, h.2.1, h.2.2⟩⟩

/-- **The days of a year are those of the entries that have a date**, one for each and in order. -/
theorem days_falls (calendar : Calendar) (year : Int) :
    List.Forall₂ (Falls year) (calendar.entries.filter (hasDate year)) (calendar.days year) := by
  unfold days
  induction calendar.entries with
  | nil => exact .nil
  | cons entry entries ih =>
    cases hday : entry.inYear year with
    | some day =>
      have hdate : hasDate year entry = true := by
        rw [hasDate, (falls_iff.2 hday).date, Option.isSome_some]
      rw [List.filter_cons_of_pos hdate, List.filterMap_cons, hday]
      exact .cons (falls_iff.2 hday) ih
    | none =>
      have hdate : ¬ hasDate year entry = true := by
        rw [hasDate, Option.map_eq_none_iff.1 hday]
        exact Bool.false_ne_true
      rw [List.filter_cons_of_neg hdate, List.filterMap_cons, hday]
      exact ih

/-- **The holidays of a year are those of the holidays that have a date.** -/
theorem holidays_falls (calendar : Calendar) (year : Int) :
    List.Forall₂ (Falls year)
      (calendar.entries.filter fun entry => entry.kind == .holiday && hasDate year entry)
      (calendar.holidays year) := by
  rw [← List.filter_filter]
  refine List.rel_filter (fun entry day hday => ?_) (calendar.days_falls year)
  show (entry.kind == .holiday) = true ↔ (day.kind == .holiday) = true
  rw [hday.kind]

/--
**The order of the days survives from the text to the answer.**

Of every region that a configuration has been read with, the text declares the days at some place,
under some spelling of the code, and every code in the text has a region. The region has each day
once, in the order in which they are first declared, with what was declared last, whatever was
declared before. If it has a calendar, the entries are those of its days in this order. The days of
a year are those of the entries that have a date in it, and the holidays those of the holidays among
them, each entry once and in order.
-/
theorem ofJson_days_order :
    ∀ (text : List UInt8) (configuration : Configuration),
      Configuration.ofJson text = .ok configuration →
      (∀ code place, Configuration.RegionAt text code place →
        ∃ region, configuration.region code = .ok region) ∧
      ∀ code region, configuration.region code = .ok region →
        (∃ spelled place, Configuration.RegionAt text spelled place ∧
          Text.sameLetters spelled code = true ∧ region.WrittenAt place ∧
          (∃ days, Region.DaysAt place days) ∧
          ∀ days, Region.DaysAt place days →
            Json.Settled (Json.readValue (Json.nestingLimit - 4)) days region.days) ∧
        ∀ (code language : String) (registry : Registry) (calendar : Calendar),
          ofRegion code language region registry = .ok calendar →
          List.Forall₂ (Declares language registry) region.days calendar.entries ∧
          ∀ year,
            List.Forall₂ (Falls year) (calendar.entries.filter (hasDate year))
              (calendar.days year) ∧
            List.Forall₂ (Falls year)
              (calendar.entries.filter fun entry => entry.kind == .holiday && hasDate year entry)
              (calendar.holidays year) := by
  intro text configuration hread
  obtain ⟨regions, hconfiguration, -, hcodes, hregions⟩ := Configuration.ofJson_regions hread
  refine ⟨?_, fun code region hregion => ⟨?_, ?_⟩⟩
  · intro code place hplace
    rw [hconfiguration]
    exact Configuration.exists_region_ofRegions ((hcodes code).2 ⟨place, hplace⟩)
  · rw [hconfiguration, Configuration.region_ofRegions_eq_ok_iff] at hregion
    obtain ⟨⟨spelled, region⟩, hmem, heq⟩ := List.mem_map.1 hregion.mem
    obtain ⟨hcode, rfl⟩ := Prod.mk.inj heq
    obtain ⟨place, hplace, hwritten⟩ := (hregions spelled region).1 hmem
    obtain ⟨rest, hread⟩ := hwritten
    exact ⟨spelled, place, hplace, Text.sameLetters_iff_asciiUpper.2 hcode, ⟨rest, hread⟩,
      Region.days_of_read hread⟩
  · intro code language registry calendar hbuilt
    obtain ⟨-, -, hentries, -⟩ := ofRegion_eq_ok_iff.1 hbuilt
    exact ⟨hentries, fun year => ⟨calendar.days_falls year, calendar.holidays_falls year⟩⟩

/-- Christmas is declared twice, first with a name that is none, and Easter Eve falls between. -/
theorem ofJson_days_order_twice :
    let object (inside : String) : String := "\x7b" ++ inside ++ "\x7d"
    let bytes (text : String) : List UInt8 := text.toUTF8.data.toList
    let days := object ("\"12-25\":" ++ object "\"_name\":7" ++
      ",\"easter -1\":" ++ object "\"_name\":\"Påskafton\",\"type\":\"observance\"" ++
      ",\"02-29\":" ++ object "\"_name\":\"Skottdagen\"" ++
      ",\"12-25\":" ++ object "\"_name\":\"Juldagen\"")
    let se := object ("\"dayoff\":\"sunday\",\"langs\":[\"sv\"],\"days\":" ++ days)
    let text := bytes (object ("\"holidays\":" ++ object ("\"se\":" ++ se)))
    let sweden : Region := ⟨[], "sunday", ["sv"],
      [("12-25", .object [("_name", .text "Juldagen")]),
        ("easter -1", .object [("_name", .text "Påskafton"), ("type", .text "observance")]),
        ("02-29", .object [("_name", .text "Skottdagen")])]⟩
    let configuration : Configuration := ⟨[("SE", sweden)], 20⟩
    let calendar : Calendar := ⟨.sunday, ["sv"], [],
      [⟨"Juldagen", .holiday, .fixed 12 25⟩,
        ⟨"Påskafton", .observance, .fromFeast "easter" easterSunday (-1)⟩,
        ⟨"Skottdagen", .holiday, .fixed 2 29⟩]⟩
    Configuration.ofJson text = .ok configuration ∧ configuration.region "Se" = .ok sweden ∧
      ofRegion "SE" "sv" sweden .standard = .ok calendar ∧
      (∃ spelled place days, Configuration.RegionAt text spelled place ∧
        Region.DaysAt place days ∧
        Json.Settled (Json.readValue (Json.nestingLimit - 4)) days sweden.days) ∧
      List.Forall₂ (Falls 2023) (calendar.entries.filter (hasDate 2023)) (calendar.days 2023) := by
  intro object bytes days se text sweden configuration calendar
  have hread : Configuration.ofJson text = .ok configuration := by rfl
  have hregion : configuration.region "Se" = .ok sweden := by rfl
  have hbuilt : ofRegion "SE" "sv" sweden .standard = .ok calendar := by
    simp only [sweden, calendar]
    rfl
  obtain ⟨-, hregions⟩ := ofJson_days_order text configuration hread
  obtain ⟨hdeclared, hcalendars⟩ := hregions "Se" sweden hregion
  obtain ⟨spelled, place, hplace, -, -, ⟨days, hdays⟩, hsettled⟩ := hdeclared
  obtain ⟨-, hyears⟩ := hcalendars "SE" "sv" .standard calendar hbuilt
  exact ⟨hread, hregion, hbuilt, ⟨spelled, place, days, hplace, hdays, hsettled days hdays⟩,
    (hyears 2023).1⟩

end Calendar

end Almanac
