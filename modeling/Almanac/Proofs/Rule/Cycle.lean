import Almanac.Proofs.Date.Cycle
import Almanac.Proofs.Rule.FirstWeekday

/-!
# Rules that come back every 400 years

A rule without a feast knows nothing of its year but what the calendar says: which days there are
and which weekdays they have. Both come back after 400 years, so the dates of the rule do as well
(`rel_resolve`). A rule that looks for a weekday may leave its year, by less than a week, and so the
first and the last year of the calendar are out of the count.
-/

namespace Almanac

theorem Direction.step_bounds (direction : Direction) (start target : Weekday) :
    -6 ≤ direction.step * direction.steps start target ∧
      direction.step * direction.steps start target ≤ 6 := by
  have hweek := direction.steps_lt start target
  cases direction with
  | before => simp only [Direction.step]; omega
  | after => simp only [Direction.step]; omega

/-- Less than a week before or after a date, the calendar has not ended, if it has not in a year. -/
theorem Date.week_inside {date : Date} {days : Int}
    (hyear : -262142 ≤ date.year ∧ date.year ≤ 262141) (hdays : -6 ≤ days ∧ days ≤ 6) :
    firstDay ≤ date.dayNumber + days ∧ date.dayNumber + days ≤ lastDay := by
  obtain ⟨hbegin, hend⟩ := (date.year_eq_iff date.year).1 rfl
  have hlow : daysBeforeYear (-262142) ≤ daysBeforeYear date.year := daysBeforeYear_mono hyear.1
  have hhigh : daysBeforeYear (date.year + 1) ≤ daysBeforeYear 262142 :=
    daysBeforeYear_mono (by omega)
  have hfirst : firstDay + 6 ≤ daysBeforeYear (-262142) := by decide
  have hlast : daysBeforeYear 262142 + 6 ≤ lastDay := by decide
  omega

namespace Rule

/-- The rule has no feast in it. -/
def Feastless : Rule → Prop
  | fixed _ _ => True
  | onFeast _ _ => False
  | fromFeast _ _ _ => False
  | nearDate _ _ _ _ => True
  | firstInMonth _ _ => True

variable {year : Int}

theorem rel_resolve_nearDate (weekday : Weekday) (direction : Direction) (month day : Nat)
    (hyear : -262142 ≤ year ∧ year + 400 ≤ 262141) :
    Option.Rel Date.Again ((nearDate weekday direction month day).resolve year)
      ((nearDate weekday direction month day).resolve (year + 400)) := by
  have hnamed := Date.rel_ofYearMonthDay? month day
    (show firstYear ≤ year ∧ year + 400 ≤ lastYear by unfold firstYear lastYear; omega)
  generalize hanchor : Date.ofYearMonthDay? year month day = anchor at hnamed
  generalize hlater : Date.ofYearMonthDay? (year + 400) month day = later at hnamed
  cases hnamed with
  | none =>
    rw [resolve_nearDate_of_no_anchor hanchor, resolve_nearDate_of_no_anchor hlater]
    exact .none
  | @some anchor later hagain =>
    have hyears : anchor.year = year ∧ later.year = year + 400 :=
      ⟨(view_of_ofYearMonthDay? hanchor).1, (view_of_ofYearMonthDay? hlater).1⟩
    have hsteps := direction.step_bounds anchor.weekday weekday
    have hearly := anchor.week_inside (by omega) hsteps
    have hlate := later.week_inside (by omega) hsteps
    -- the walk is the same from both anchors, since they have one weekday
    rw [resolve_nearDate hanchor, resolve_nearDate hlater, hagain.weekday_eq]
    exact hagain.rel_addDays? hearly.1 hlate.2

/-- **The dates of a rule without a feast come back after 400 years.** -/
theorem rel_resolve {rule : Rule} (hfeastless : rule.Feastless)
    (hyear : -262142 ≤ year ∧ year + 400 ≤ 262141) :
    Option.Rel Date.Again (rule.resolve year) (rule.resolve (year + 400)) := by
  cases rule with
  | fixed month day =>
    exact Date.rel_ofYearMonthDay? month day (by unfold firstYear lastYear; omega)
  | onFeast name feast => exact absurd hfeastless id
  | fromFeast name feast offset => exact absurd hfeastless id
  | nearDate weekday direction month day =>
    exact rel_resolve_nearDate weekday direction month day hyear
  | firstInMonth weekday month =>
    rw [resolve_firstInMonth_eq_nearDate, resolve_firstInMonth_eq_nearDate]
    exact rel_resolve_nearDate weekday .after month.number 1 hyear

end Rule

end Almanac
