import Almanac.Calendar.Basic

/-!
# Two ways to ask for holidays

A calendar lists the days of a year, and it says of a date whether it is off. Both go through its
entries: `mem_days_iff` says which days are listed, and `isHoliday_eq` that asking for a date is
looking it up in the list of its own year.
-/

namespace Almanac.Calendar

theorem inYear_eq_some_iff {entry : Entry} {year : Int} {day : Day} :
    entry.inYear year = some day ↔
      entry.rule.resolve year = some day.date ∧ entry.name = day.name ∧ entry.kind = day.kind := by
  unfold Entry.inYear
  rw [Option.map_eq_some_iff]
  refine ⟨?_, ?_⟩
  · intro h
    obtain ⟨date, hdate, rfl⟩ := h
    exact ⟨hdate, rfl, rfl⟩
  · intro h
    obtain ⟨hdate, hname, hkind⟩ := h
    exact ⟨day.date, hdate, by rw [hname, hkind]⟩

/-- The days of a year are those of its entries. -/
theorem mem_days_iff {calendar : Calendar} {year : Int} {day : Day} :
    day ∈ calendar.days year ↔ ∃ entry ∈ calendar.entries, entry.inYear year = some day :=
  List.mem_filterMap

theorem mem_holidays_iff {calendar : Calendar} {year : Int} {day : Day} :
    day ∈ calendar.holidays year ↔ day ∈ calendar.days year ∧ day.kind = .holiday := by
  simp [holidays, Day.isHoliday]

/-- A date is the date of a holiday of `year` exactly if the rule of some holiday gives it. -/
theorem exists_holiday_iff {calendar : Calendar} {year : Int} {date : Date} :
    (∃ day ∈ calendar.holidays year, day.date = date) ↔
      ∃ entry ∈ calendar.entries, entry.kind = .holiday ∧ entry.rule.resolve year = some date := by
  refine ⟨?_, ?_⟩
  · intro h
    obtain ⟨day, hday, rfl⟩ := h
    obtain ⟨hmem, hkind⟩ := mem_holidays_iff.1 hday
    obtain ⟨entry, hentry, hyear⟩ := mem_days_iff.1 hmem
    obtain ⟨hdate, -, hk⟩ := inYear_eq_some_iff.1 hyear
    exact ⟨entry, hentry, hk.trans hkind, hdate⟩
  · intro h
    obtain ⟨entry, hentry, hkind, hdate⟩ := h
    -- the day that the entry lists in this year
    refine ⟨⟨entry.name, entry.kind, date⟩, mem_holidays_iff.2 ⟨?_, hkind⟩, rfl⟩
    exact mem_days_iff.2 ⟨entry, hentry, inYear_eq_some_iff.2 ⟨hdate, rfl, rfl⟩⟩

/-- A date is off by its weekday, or as a holiday of its own year. -/
theorem isHoliday_iff {calendar : Calendar} {date : Date} :
    calendar.isHoliday date = true ↔ calendar.isDayOff date = true ∨
      ∃ day ∈ calendar.holidays date.year, day.date = date := by
  rw [exists_holiday_iff]
  simp [isHoliday]

/-- Asking for a date is looking it up in the holidays of its year, unless its weekday is off. -/
theorem isHoliday_eq (calendar : Calendar) (date : Date) :
    calendar.isHoliday date =
      (calendar.isDayOff date || (calendar.holidays date.year).any (·.date == date)) := by
  rw [Bool.eq_iff_iff, isHoliday_iff]
  simp

end Almanac.Calendar
