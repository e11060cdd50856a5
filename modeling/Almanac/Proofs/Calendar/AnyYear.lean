import Almanac.Proofs.Calendar.Holidays
import Almanac.Proofs.Rule.EasterYears

/-!
# Holidays of any year

Whether a date is off is looked up among the holidays of its own year. Where no rule of a holiday
can leave its year this is as good as looking through the holidays of all years.
-/

namespace Almanac.Calendar

/-- No other year has a holiday on the date. -/
theorem exists_holiday_of_anyYear {calendar : Calendar}
    (hrules : ∀ entry ∈ calendar.entries, entry.kind = .holiday →
      entry.rule.OnlyEaster ∧ entry.rule.WithinYear)
    {year : Int} {date : Date} (h : ∃ day ∈ calendar.holidays year, day.date = date) :
    ∃ day ∈ calendar.holidays date.year, day.date = date := by
  obtain ⟨entry, hentry, hkind, hdate⟩ := exists_holiday_iff.1 h
  obtain ⟨heaster, hwithin⟩ := hrules entry hentry hkind
  have hyear := Rule.year_of_withinYear heaster hwithin hdate
  rw [hyear]
  exact h

/--
**Rules that stay in their year make every list of holidays count.**

A rule that is read with the standard registry has no feast but Easter, and within the bounds of
`WithinYear` its date falls in the year that it is resolved in. Of a calendar whose holidays have
such rules a date is off exactly if its weekday is off or any year at all has it among its holidays.
One day beyond each of the bounds a rule may have its date in the next year or in the last one.
-/
theorem isHoliday_iff_anyYear :
    (∀ expression rule, Rule.ofExpression expression .standard = .ok rule →
      rule.OnlyEaster ∧ (rule.WithinYear →
        ∀ year date, rule.resolve year = some date → date.year = year)) ∧
    (∀ calendar : Calendar,
      (∀ entry ∈ calendar.entries, entry.kind = .holiday →
        entry.rule.OnlyEaster ∧ entry.rule.WithinYear) →
      ∀ date, calendar.isHoliday date = true ↔ calendar.isDayOff date = true ∨
        ∃ year, ∃ day ∈ calendar.holidays year, day.date = date) ∧
    (∃ weekday, (Rule.nearDate weekday .after 12 26).Leaves 1) ∧
    (∃ weekday, (Rule.nearDate weekday .before 1 6).Leaves (-1)) ∧
    (Rule.fromFeast "easter" easterSunday 251).Leaves 1 ∧
    (Rule.fromFeast "easter" easterSunday (-81)).Leaves (-1) := by
  refine ⟨?_, ?_, ⟨_, Rule.leaves_nearDate_after⟩, ⟨_, Rule.leaves_nearDate_before⟩,
    Rule.leaves_fromFeast_after, Rule.leaves_fromFeast_before⟩
  · intro expression rule hread
    have heaster := Rule.onlyEaster_of_standard hread
    exact ⟨heaster, fun hwithin year date hdate =>
      Rule.year_of_withinYear heaster hwithin hdate⟩
  · intro calendar hrules date
    rw [isHoliday_iff]
    refine or_congr_right ⟨?_, ?_⟩
    · intro h
      exact ⟨date.year, h⟩
    · -- the year that lists the date can only be its own
      rintro ⟨year, h⟩
      exact exists_holiday_of_anyYear hrules h

/-- Good Friday is a holiday of its year only. That an observance of the same calendar leaves its
year does not matter. -/
theorem isHoliday_iff_anyYear_goodFriday :
    let friday : Rule := .fromFeast "easter" easterSunday (-2)
    let calendar : Calendar := ⟨.sunday, ["sv"], [], [⟨"Långfredagen", .holiday, friday⟩,
      ⟨"Nyårsonsdag", .observance, .nearDate .wednesday .after 12 31⟩]⟩
    let date : Date := ⟨736798, by decide, by decide⟩
    (Rule.ofExpression "easter -2" .standard = .ok friday ∧ friday.WithinYear ∧
      friday.resolve 2017 = some date ∧ date.year = 2017) ∧
    (∀ entry ∈ calendar.entries, entry.kind = .holiday →
      entry.rule.OnlyEaster ∧ entry.rule.WithinYear) ∧
    (calendar.isHoliday date = true ↔ calendar.isDayOff date = true ∨
      ∃ year, ∃ day ∈ calendar.holidays year, day.date = date) := by
  intro friday calendar date
  obtain ⟨hread, hcalendar, -⟩ := isHoliday_iff_anyYear
  have hfriday : Rule.ofExpression "easter -2" .standard = .ok friday := by rfl
  have hdate : friday.resolve 2017 = some date := by decide
  have hwithin : friday.WithinYear := ⟨by decide, by decide⟩
  obtain ⟨heaster, hyear⟩ := hread "easter -2" friday hfriday
  have hrules : ∀ entry ∈ calendar.entries, entry.kind = .holiday →
      entry.rule.OnlyEaster ∧ entry.rule.WithinYear := by
    intro entry hentry hkind
    simp only [calendar, List.mem_cons, List.not_mem_nil, or_false] at hentry
    rcases hentry with rfl | rfl
    · exact ⟨heaster, hwithin⟩
    · cases hkind
  exact ⟨⟨hfriday, hwithin, hdate, hyear hwithin 2017 date hdate⟩, hrules,
    hcalendar calendar hrules date⟩

end Almanac.Calendar
