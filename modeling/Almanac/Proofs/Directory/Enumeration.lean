import Almanac.Proofs.Directory.Transparency
import Almanac.Proofs.Rule.Years

/-!
# Listed days and asked dates

Listing the holidays of a year resolves every rule in that year. Asking for a date resolves every
rule in the date's own year. The two agree as long as the date of a rule falls in the year that the
rule was resolved in, and they can differ when it does not: a weekday after the last of December may
be listed for one year and fall in the next, where its rule gives another date.
-/

namespace Almanac.Directory

/-- A directory answers about a date what the calendar answers, whatever it was asked before. -/
theorem isHoliday_of_run {configuration : Configuration} {locale : Locale} {registry : Registry}
    {calendar : Calendar}
    (hbuilt : Calendar.ofConfiguration configuration locale registry = .ok calendar)
    (capacity : Nat) (first : Registry) (requests : List Request)
    (hlast : lastFeasts first requests = registry) (date : Date) :
    (((start configuration capacity first).run requests).2.isHoliday date locale).1 =
      .ok (calendar.isHoliday date) := by
  obtain ⟨hfaithful, hbuild⟩ := build_of_run configuration capacity first requests locale
  rw [hlast, hbuilt] at hbuild
  rw [(isHoliday_spec hfaithful date locale).1, hbuild]
  rfl

/--
**When a listed holiday is off.**

The date of a holiday that is listed for a year is off exactly if it falls in that year, or on the
weekly day off, or on a holiday of its own year. Every rule that cannot leave its year has its
holidays off. A directory of the same feasts says the same of the date, whatever it was asked
before.
-/
theorem isHoliday_listed {configuration : Configuration} {locale : Locale} {registry : Registry}
    {calendar : Calendar}
    (hbuilt : Calendar.ofConfiguration configuration locale registry = .ok calendar)
    {year : Int} {day : Day} (hday : day ∈ calendar.days year) (hkind : day.kind = .holiday) :
    (calendar.isHoliday day.date = true ↔ day.date.year = year ∨
      calendar.isDayOff day.date = true ∨
      ∃ other ∈ calendar.holidays day.date.year, other.date = day.date) ∧
    (∀ entry ∈ calendar.entries, entry.inYear year = some day → entry.rule.StaysInYear →
      calendar.isHoliday day.date = true) ∧
    ∀ (capacity : Nat) (first : Registry) (requests : List Request),
      lastFeasts first requests = registry →
      (((start configuration capacity first).run requests).2.isHoliday day.date locale).1 =
        .ok (calendar.isHoliday day.date) := by
  -- in its own year the list that is looked at is the one that has the day
  have hsame : day.date.year = year → calendar.isHoliday day.date = true := by
    intro hyear
    rw [Calendar.isHoliday_iff, hyear]
    exact Or.inr ⟨day, Calendar.mem_holidays_iff.2 ⟨hday, hkind⟩, rfl⟩
  refine ⟨?_, ?_, ?_⟩
  · refine ⟨?_, ?_⟩
    · intro h
      exact Or.inr (Calendar.isHoliday_iff.1 h)
    · intro h
      rcases h with hyear | hoff
      · exact hsame hyear
      · exact Calendar.isHoliday_iff.2 hoff
  · intro entry _ hentry hstays
    exact hsame (Rule.year_of_resolve hstays (Calendar.inYear_eq_some_iff.1 hentry).1)
  · intro capacity first requests hlast
    exact isHoliday_of_run hbuilt capacity first requests hlast day.date

/-- The Wednesday after the last of December 2018 is listed for 2018 and was off on 2 January 2019;
a fixed day of the same calendar is off in every year. -/
theorem isHoliday_listed_sweden :
    let configuration : Configuration := ⟨[("SE", ⟨[], "sunday", ["sv"],
      [("wednesday after 12-31", .object [("_name", .text "Nyårsonsdag")]),
        ("01-02", .object [("_name", .text "Vardag")])]⟩)], 20⟩
    let sweden : Locale := ⟨"sv", "SE"⟩
    let rule : Rule := .nearDate .wednesday .after 12 31
    let calendar : Calendar := ⟨.sunday, ["sv"], [],
      [⟨"Nyårsonsdag", .holiday, rule⟩, ⟨"Vardag", .holiday, .fixed 1 2⟩]⟩
    let second : Date := ⟨737426, by decide, by decide⟩
    let listed : Day := ⟨"Nyårsonsdag", .holiday, second⟩
    let ordinary : Day := ⟨"Vardag", .holiday, second⟩
    Calendar.ofConfiguration configuration sweden .standard = .ok calendar ∧
      (listed ∈ calendar.days 2018 ∧ calendar.isHoliday listed.date = true) ∧
      (ordinary ∈ calendar.days 2019 ∧ calendar.isHoliday ordinary.date = true) ∧
      (((start configuration 1 .empty).run [.days sweden 2018, .withFeasts .standard]).2.isHoliday
        listed.date sweden).1 = .ok true := by
  intro configuration sweden rule calendar second listed ordinary
  have hbuilt : Calendar.ofConfiguration configuration sweden .standard = .ok calendar := by
    simp only [configuration, sweden, calendar, rule]; rfl
  have hlisted : listed ∈ calendar.days 2018 := by decide +kernel
  have hordinary : ordinary ∈ calendar.days 2019 := by decide +kernel
  obtain ⟨hiff, -, hdirectory⟩ := isHoliday_listed hbuilt hlisted rfl
  obtain ⟨-, hstays, -⟩ := isHoliday_listed hbuilt hordinary rfl
  have hoff : calendar.isHoliday listed.date = true :=
    hiff.2 (Or.inr (Or.inr ⟨ordinary, by decide +kernel, rfl⟩))
  refine ⟨hbuilt, ⟨hlisted, hoff⟩, ⟨hordinary, ?_⟩, ?_⟩
  · exact hstays ⟨"Vardag", .holiday, .fixed 1 2⟩ (by simp [calendar]) (by decide +kernel) trivial
  · rw [hdirectory 1 .empty [.days sweden 2018, .withFeasts .standard] rfl, hoff]

/-- **A listed holiday need not be off.** The Wednesday after the last of December 2019 is the first
of January 2020, and neither the calendar nor a directory takes that date for a holiday: in 2020 the
rule gives the sixth of January 2021. -/
theorem not_isHoliday_listed :
    let configuration : Configuration := ⟨[("SE", ⟨[], "sunday", ["sv"],
      [("wednesday after 12-31", .object [("_name", .text "Nyårsonsdag")])]⟩)], 20⟩
    let sweden : Locale := ⟨"sv", "SE"⟩
    let calendar : Calendar := ⟨.sunday, ["sv"], [],
      [⟨"Nyårsonsdag", .holiday, .nearDate .wednesday .after 12 31⟩]⟩
    let listed : Day := ⟨"Nyårsonsdag", .holiday, ⟨737790, by decide, by decide⟩⟩
    Calendar.ofConfiguration configuration sweden .standard = .ok calendar ∧
      listed ∈ calendar.days 2019 ∧ listed.kind = .holiday ∧
      Date.ofYearMonthDay? 2020 1 1 = some listed.date ∧
      calendar.isHoliday listed.date = false ∧
      ((start configuration 20 .standard).isHoliday listed.date sweden).1 = .ok false := by
  intro configuration sweden calendar listed
  have hbuilt : Calendar.ofConfiguration configuration sweden .standard = .ok calendar := by
    simp only [configuration, sweden, calendar]; rfl
  have hoff : calendar.isHoliday listed.date = false := by decide +kernel
  have hasked := isHoliday_of_run hbuilt 20 .standard [] rfl listed.date
  rw [hoff] at hasked
  exact ⟨hbuilt, by decide +kernel, rfl, by decide +kernel, hoff, hasked⟩

end Almanac.Directory
