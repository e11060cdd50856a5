import Almanac.Proofs.Calendar.Holidays
import Almanac.Proofs.Rule.Cycle
import Mathlib.Data.List.Forall2

/-!
# Calendars that come back every 400 years

If no entry of a calendar has a feast, the calendar lists the same days again after 400 years, each
146097 days later, and has the same dates off. That is so for each entry by itself, as its rule
comes back; the list of a year and the question for a date only put the entries together.
-/

namespace Almanac

/-- `later` is the day one cycle after `day`. -/
structure Day.Again (day later : Day) : Prop where
  date : day.date.Again later.date
  name : later.name = day.name
  kind : later.kind = day.kind

namespace Calendar

/-- None of the rules of the calendar has a feast in it. -/
def Feastless (calendar : Calendar) : Prop := ∀ entry ∈ calendar.entries, entry.rule.Feastless

variable {calendar : Calendar} {year : Int}

theorem rel_inYear {entry : Entry} (hfeastless : entry.rule.Feastless)
    (hyear : -262142 ≤ year ∧ year + 400 ≤ 262141) :
    Option.Rel Day.Again (entry.inYear year) (entry.inYear (year + 400)) := by
  have hdates := Rule.rel_resolve hfeastless hyear
  unfold Entry.inYear
  generalize entry.rule.resolve year = date at hdates ⊢
  generalize entry.rule.resolve (year + 400) = later at hdates ⊢
  cases hdates with
  | none => exact .none
  | some hagain => exact .some ⟨hagain, rfl, rfl⟩

/-- **The days of a year come back**, in the same order. -/
theorem Feastless.days (hfeastless : calendar.Feastless)
    (hyear : -262142 ≤ year ∧ year + 400 ≤ 262141) :
    List.Forall₂ Day.Again (calendar.days year) (calendar.days (year + 400)) := by
  have hentries : List.Forall₂ (fun entry other => entry = other ∧ entry.rule.Feastless)
      calendar.entries calendar.entries :=
    List.forall₂_same.2 fun entry hentry => ⟨rfl, hfeastless entry hentry⟩
  refine List.rel_filterMap ?_ hentries
  rintro entry _ ⟨rfl, hentry⟩
  exact rel_inYear hentry hyear

/-- **A date is off exactly if it is off a cycle later.** -/
theorem Feastless.isHoliday (hfeastless : calendar.Feastless) {date later : Date}
    (hyear : -262142 ≤ date.year ∧ date.year + 400 ≤ 262141) (hagain : date.Again later) :
    calendar.isHoliday later = calendar.isHoliday date := by
  -- the weekday comes back, and so does the date of every entry
  have hdayOff : calendar.isDayOff later = calendar.isDayOff date := by
    unfold isDayOff
    rw [hagain.weekday_eq]
  have hdates : ∀ entry ∈ calendar.entries,
      (entry.rule.resolve later.year = some later ↔ entry.rule.resolve date.year = some date) := by
    intro entry hentry
    rw [hagain.year_eq]
    exact hagain.eq_some_iff (Rule.rel_resolve (hfeastless entry hentry) hyear)
  rw [Bool.eq_iff_iff, isHoliday_iff, isHoliday_iff, exists_holiday_iff, exists_holiday_iff,
    hdayOff]
  refine or_congr Iff.rfl (exists_congr fun entry => and_congr_right fun hentry => ?_)
  rw [hdates entry hentry]

/--
**What has no feast in it comes back every 400 years.**

Take a year such that neither it nor the one 400 years later is the first or the last of the
calendar. A rule without a feast has a date in the one year exactly if it has one in the other, and
the later date is 146097 days after the earlier one. A calendar of such rules lists the same names
and kinds in both years, in the same order and as many days apart, and as many days after any date
of the earlier year is a date that is off exactly if that one is.
-/
theorem comesBack_after_cycle (hyear : -262142 ≤ year ∧ year + 400 ≤ 262141) :
    (∀ rule : Rule, rule.Feastless →
      (rule.resolve year = none ↔ rule.resolve (year + 400) = none) ∧
      ∀ date, rule.resolve year = some date →
        ∃ later, date.addDays? 146097 = some later ∧ rule.resolve (year + 400) = some later) ∧
    ∀ calendar : Calendar, calendar.Feastless →
      List.Forall₂ Day.Again (calendar.days year) (calendar.days (year + 400)) ∧
      ∀ date : Date, date.year = year →
        ∃ later, date.addDays? 146097 = some later ∧
          calendar.isHoliday later = calendar.isHoliday date := by
  refine ⟨?_, ?_⟩
  · intro rule hfeastless
    have hdates := Rule.rel_resolve hfeastless hyear
    -- only that the two dates are tied, or both missing, is of use here
    generalize rule.resolve year = date at hdates ⊢
    generalize rule.resolve (year + 400) = later at hdates ⊢
    cases hdates with
    | none => exact ⟨Iff.rfl, fun date hdate => by cases hdate⟩
    | @some date later hagain =>
      refine ⟨by simp, ?_⟩
      rintro _ ⟨⟩
      exact ⟨later, hagain, rfl⟩
  · intro calendar hfeastless
    refine ⟨hfeastless.days hyear, ?_⟩
    rintro date rfl
    obtain ⟨later, hagain⟩ := Date.exists_again
      (show date.year + 400 ≤ lastYear by unfold lastYear; omega)
    exact ⟨later, hagain, hfeastless.isHoliday hyear hagain⟩

/-- A leap day before the year 0, beside a Sunday that falls in the year after its own, and a walk
from the first of the years in question that ends in the year before. -/
theorem comesBack_after_cycle_leapDay :
    let calendar : Calendar := ⟨.sunday, ["sv"], [],
      [⟨"Skottdagen", .holiday, .fixed 2 29⟩,
        ⟨"Söndag", .observance, .nearDate .sunday .after 12 31⟩,
        ⟨"Skördefest", .holiday, .firstInMonth .monday .september⟩]⟩
    let leapDay : Date := ⟨-1402, by decide, by decide⟩
    let sunday : Rule := .nearDate .sunday .before 1 1
    let christmas : Date := ⟨-95745404, by decide, by decide⟩
    ((-262142 ≤ (-4 : Int) ∧ (-4 : Int) + 400 ≤ 262141) ∧ calendar.Feastless ∧
      List.Forall₂ Day.Again (calendar.days (-4)) (calendar.days 396) ∧
      leapDay.toText = "-0004-02-29" ∧ leapDay.year = -4 ∧
      ∃ later, leapDay.addDays? 146097 = some later ∧
        calendar.isHoliday later = calendar.isHoliday leapDay) ∧
    (-262142 ≤ (-262142 : Int) ∧ (-262142 : Int) + 400 ≤ 262141) ∧ sunday.Feastless ∧
      sunday.resolve (-262142) = some christmas ∧ christmas.toText = "-262143-12-27" ∧
      ∃ later, christmas.addDays? 146097 = some later ∧ sunday.resolve (-261742) = some later := by
  intro calendar leapDay sunday christmas
  have hyear : -262142 ≤ (-4 : Int) ∧ (-4 : Int) + 400 ≤ 262141 := by decide
  have hfirst : -262142 ≤ (-262142 : Int) ∧ (-262142 : Int) + 400 ≤ 262141 := by decide
  have hfeastless : calendar.Feastless := by simp [calendar, Feastless, Rule.Feastless]
  have hleap : leapDay.year = -4 := by decide
  have hsunday : sunday.resolve (-262142) = some christmas := by decide
  obtain ⟨-, hcalendars⟩ := comesBack_after_cycle hyear
  obtain ⟨hrules, -⟩ := comesBack_after_cycle hfirst
  obtain ⟨hdays, hoff⟩ := hcalendars calendar hfeastless
  obtain ⟨-, hlater⟩ := hrules sunday trivial
  exact ⟨⟨hyear, hfeastless, hdays, by decide +kernel, hleap, hoff leapDay hleap⟩,
    hfirst, trivial, hsunday, by decide +kernel, hlater christmas hsunday⟩

end Calendar

end Almanac
