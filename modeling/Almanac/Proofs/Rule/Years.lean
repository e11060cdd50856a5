import Almanac.Proofs.Rule.Walk

/-!
# The year that a rule's date falls in

A rule is resolved in a year, but its date need not fall in that year: a weekday that is looked for
from a date near the end of a year may be found in the next one, and nothing is known of feasts. The
rules of `StaysInYear` cannot leave their year, because a weekday is never more than six days away.
-/

namespace Almanac.Rule

/-- The rule cannot leave the year that it is resolved in: it names a day of that year, or it looks
for a weekday from a date that is more than six days inside the year. -/
def StaysInYear : Rule → Prop
  | fixed _ _ => True
  | onFeast _ _ => False
  | fromFeast _ _ _ => False
  | nearDate _ .before month day => 1 < month ∨ 7 ≤ day
  | nearDate _ .after month day => month < 12 ∨ day ≤ 25
  | firstInMonth _ _ => True

/-! ## Inside the year -/

/-- A date lies in a year if its days before or after a day of that year do not leave it. -/
theorem year_of_shift {anchor date : Date} {year : Int} {month day : Nat} {days : Int}
    (hanchor : Date.ofYearMonthDay? year month day = some anchor)
    (hdate : date.dayNumber = anchor.dayNumber + days)
    (hlow : 0 ≤ daysBeforeMonth (isLeap year) month + day - 1 + days)
    (hhigh : daysBeforeMonth (isLeap year) month + day - 1 + days < daysOfYear year) :
    date.year = year := by
  obtain ⟨-, -, hnumber⟩ := ofYearMonthDay?_eq_some_iff_dayNumber.1 hanchor
  rw [Date.year_eq_iff, daysBeforeYear_succ]
  omega

theorem year_of_nearDate_after {weekday : Weekday} {month day : Nat} {year : Int} {date : Date}
    (hstays : month < 12 ∨ day ≤ 25)
    (h : (nearDate weekday .after month day).resolve year = some date) : date.year = year := by
  obtain ⟨anchor, hanchor, hdate⟩ := resolve_nearDate_eq_some_iff.1 h
  obtain ⟨⟨-, hmonth⟩, ⟨hone, hday⟩, -⟩ := ofYearMonthDay?_eq_some_iff_dayNumber.1 hanchor
  have hweek := Direction.after.steps_lt anchor.weekday weekday
  simp only [Direction.step] at hdate
  have hdecember : daysBeforeMonth (isLeap year) 12 + 31 = daysOfYear year := by
    unfold daysOfYear; cases isLeap year <;> decide
  -- even six days on, the last such day is the thirty-first of December
  have hbefore : daysBeforeMonth (isLeap year) month + day ≤
      daysBeforeMonth (isLeap year) 12 + 25 := by
    have hsucc := daysBeforeMonth_succ (isLeap year) month
    rcases Nat.lt_or_ge month 12 with hlt | hge
    · have := daysBeforeMonth_mono (isLeap year) (show month + 1 ≤ 12 from hlt)
      omega
    · have htwelve : month = 12 := by omega
      subst htwelve
      omega
  exact year_of_shift hanchor hdate (by omega) (by omega)

theorem year_of_nearDate_before {weekday : Weekday} {month day : Nat} {year : Int} {date : Date}
    (hstays : 1 < month ∨ 7 ≤ day)
    (h : (nearDate weekday .before month day).resolve year = some date) : date.year = year := by
  obtain ⟨anchor, hanchor, hdate⟩ := resolve_nearDate_eq_some_iff.1 h
  obtain ⟨⟨hpos, hmonth⟩, ⟨hone, hday⟩, -⟩ := ofYearMonthDay?_eq_some_iff_dayNumber.1 hanchor
  have hweek := Direction.before.steps_lt anchor.weekday weekday
  simp only [Direction.step] at hdate
  have hyear := daysBeforeMonth_le (isLeap year) hmonth
  have hsucc := daysBeforeMonth_succ (isLeap year) month
  have hjanuary : daysBeforeMonth (isLeap year) 2 = 31 := by cases isLeap year <;> decide
  -- six days back from the seventh of January is the first
  have hafter : 7 ≤ daysBeforeMonth (isLeap year) month + day := by
    rcases hstays with hlater | hseven
    · have := daysBeforeMonth_mono (isLeap year) (show 2 ≤ month from hlater)
      omega
    · omega
  exact year_of_shift hanchor hdate (by omega) (by unfold daysOfYear; omega)

/-- **A rule that stays in its year** has its date in the year that it is resolved in. -/
theorem year_of_resolve {rule : Rule} (hstays : rule.StaysInYear) {year : Int} {date : Date}
    (h : rule.resolve year = some date) : date.year = year := by
  cases rule with
  | fixed month day => exact (view_of_ofYearMonthDay? h).1
  | onFeast name feast => exact absurd hstays id
  | fromFeast name feast offset => exact absurd hstays id
  | nearDate weekday direction month day =>
      cases direction with
      | before => exact year_of_nearDate_before hstays h
      | after => exact year_of_nearDate_after hstays h
  | firstInMonth weekday month =>
      simp only [resolve, Date.firstWeekday?] at h
      split at h
      · exact (view_of_ofYearMonthDay? h).1
      · cases h

end Almanac.Rule
