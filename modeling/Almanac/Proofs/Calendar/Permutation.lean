import Almanac.Proofs.Calendar.Construction
import Almanac.Proofs.Calendar.Holidays
import Mathlib.Data.List.Perm.Basic

/-!
# The order of declaration decides nothing but order

A region whose days are declared in another order has a calendar if it has one at all, although the
days are gone through in order and the first failing one ends the construction: whether some day
fails does not depend on where it stands. The two calendars have the same entries in another order.
So they list the same days in every year, each as often, and have the same dates off.
-/

namespace Almanac.Calendar

/-- The calendars differ in the order of their entries at most. -/
structure Reordered (calendar other : Calendar) : Prop where
  dayOff : calendar.dayOff = other.dayOff
  languages : calendar.languages = other.languages
  regionNames : calendar.regionNames = other.regionNames
  entries : calendar.entries.Perm other.entries

section
variable {calendar other : Calendar}

theorem Reordered.days (h : calendar.Reordered other) (year : Int) :
    (calendar.days year).Perm (other.days year) :=
  h.entries.filterMap _

theorem Reordered.holidays (h : calendar.Reordered other) (year : Int) :
    (calendar.holidays year).Perm (other.holidays year) :=
  (h.days year).filter _

/-- Whether a date is off asks for some holiday, not for the first one. -/
theorem Reordered.isHoliday (h : calendar.Reordered other) (date : Date) :
    calendar.isHoliday date = other.isHoliday date := by
  rw [Bool.eq_iff_iff, isHoliday_iff, isHoliday_iff]
  simp only [(h.holidays date.year).mem_iff, isDayOff, h.dayOff]

end

variable {code language : String} {region : Region} {registry : Registry}
  {days : List (String × Json.Value)}

/-- **The calendar of a region in another order** has its entries in that order. -/
theorem ofRegion_reordered {calendar : Calendar} (hdays : days.Perm region.days)
    (h : ofRegion code language region registry = .ok calendar) :
    ∃ calendar', ofRegion code language { region with days } registry = .ok calendar' ∧
      calendar'.Reordered calendar := by
  obtain ⟨hlanguage, hdayOff, hentries, hlanguages, hnames⟩ := ofRegion_eq_ok_iff.1 h
  obtain ⟨entries, hdeclared, hperm⟩ := List.perm_comp_forall₂ hdays hentries
  exact ⟨{ calendar with entries },
    ofRegion_eq_ok_iff.2 ⟨hlanguage, hdayOff, hdeclared, hlanguages, hnames⟩, rfl, rfl, rfl, hperm⟩

/--
**The order of the days never decides which days are holidays.**

A region has a calendar exactly if the same region with its days in another order has one. Of the
two calendars, the same dates are off, and every year has the same days and the same holidays in
both, each as often in the one as in the other.
-/
theorem ofRegion_perm (code language : String) (region : Region) (registry : Registry)
    {days : List (String × Json.Value)} (hdays : days.Perm region.days) :
    ((∃ calendar, ofRegion code language { region with days } registry = .ok calendar) ↔
      ∃ calendar, ofRegion code language region registry = .ok calendar) ∧
    ∀ calendar calendar', ofRegion code language region registry = .ok calendar →
      ofRegion code language { region with days } registry = .ok calendar' →
      (∀ date, calendar'.isHoliday date = calendar.isHoliday date) ∧
      ∀ year, (calendar'.days year).Perm (calendar.days year) ∧
        (calendar'.holidays year).Perm (calendar.holidays year) := by
  refine ⟨⟨?_, ?_⟩, ?_⟩
  · rintro ⟨calendar', hbuilt'⟩
    -- the other way round the region has its own order back
    obtain ⟨calendar, hbuilt, -⟩ := ofRegion_reordered hdays.symm hbuilt'
    exact ⟨calendar, hbuilt⟩
  · rintro ⟨calendar, hbuilt⟩
    obtain ⟨calendar', hbuilt', -⟩ := ofRegion_reordered hdays hbuilt
    exact ⟨calendar', hbuilt'⟩
  · intro calendar calendar' hbuilt hbuilt'
    obtain ⟨calendar₂, hbuilt₂, hreordered⟩ := ofRegion_reordered hdays hbuilt
    cases hbuilt'.symm.trans hbuilt₂
    exact ⟨hreordered.isHoliday, fun year => ⟨hreordered.days year, hreordered.holidays year⟩⟩

/-- Two days of one name and one date, with an observance between them or before them. -/
theorem ofRegion_perm_twice :
    let easter : Json.Value := .object [("_name", .text "Påsk")]
    let heart : Json.Value := .object [("_name", .text "Hjärtan"), ("type", .text "observance")]
    let region : Region := ⟨[], "sunday", ["sv"],
      [("easter", easter), ("02-14", heart), ("easter 0", easter)]⟩
    let days : List (String × Json.Value) :=
      [("02-14", heart), ("easter 0", easter), ("easter", easter)]
    let calendar : Calendar := ⟨.sunday, ["sv"], [],
      [⟨"Påsk", .holiday, .onFeast "easter" easterSunday⟩, ⟨"Hjärtan", .observance, .fixed 2 14⟩,
        ⟨"Påsk", .holiday, .fromFeast "easter" easterSunday 0⟩]⟩
    days.Perm region.days ∧ ofRegion "SE" "sv" region .standard = .ok calendar ∧
      ∃ calendar', ofRegion "SE" "sv" { region with days } .standard = .ok calendar' ∧
        (∀ date, calendar'.isHoliday date = calendar.isHoliday date) ∧
        (calendar'.days 2024).Perm (calendar.days 2024) := by
  intro easter heart region days calendar
  have hdays : days.Perm region.days :=
    .trans (.cons _ (.swap _ _ _)) (.swap _ _ _)
  have hbuilt : ofRegion "SE" "sv" region .standard = .ok calendar := by
    simp only [region, calendar, easter, heart]; rfl
  obtain ⟨hbuilds, hanswers⟩ := ofRegion_perm "SE" "sv" region .standard hdays
  obtain ⟨calendar', hbuilt'⟩ := hbuilds.2 ⟨calendar, hbuilt⟩
  obtain ⟨hoff, hyears⟩ := hanswers calendar calendar' hbuilt hbuilt'
  exact ⟨hdays, hbuilt, calendar', hbuilt', hoff, (hyears 2024).1⟩

end Almanac.Calendar
