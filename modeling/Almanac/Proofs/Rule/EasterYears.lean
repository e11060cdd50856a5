import Almanac.Proofs.Feast.PaschalMoon
import Almanac.Proofs.Rule.Canonical
import Almanac.Proofs.Rule.Years

/-!
# The years of rules with Easter

Nothing is known of the years in which feasts fall, but Easter is never before 22 March and never
after 25 April. So there is room for eighty days before it, back to the first of January, and for
two hundred and fifty days after it, up to the last of December, in leap years as in all others. The
rules of `WithinYear` cannot leave their year if their feast is Easter, and it is, for every rule
that is read with the standard registry.
-/

namespace Almanac

/-- Easter is the only standard feast. -/
theorem Registry.eq_easterSunday_of_standard {name : String} {feast : Feast}
    (h : standard.get? name = some feast) : feast = easterSunday := by
  have hfeasts : standard.feasts = [(Text.lowercase "easter", easterSunday)] := rfl
  unfold get? at h
  rw [hfeasts] at h
  simp only [Assoc.get?] at h
  split at h
  · exact (Option.some.inj h).symm
  · cases h

namespace Rule

/-- If the rule has a feast, that is Easter, under whatever name. -/
def OnlyEaster : Rule → Prop
  | onFeast _ feast => feast = easterSunday
  | fromFeast _ feast _ => feast = easterSunday
  | _ => True

/-- The rule cannot leave the year that it is resolved in, if its feast is Easter. -/
def WithinYear : Rule → Prop
  | onFeast _ _ => True
  | fromFeast _ _ offset => -80 ≤ offset ∧ offset ≤ 250
  | rule => rule.StaysInYear

/-- The rule can be read with the standard registry, and in some year its date falls `years` years
later. -/
def Leaves (rule : Rule) (years : Int) : Prop :=
  (∃ expression, ofExpression expression .standard = .ok rule) ∧
    ∃ year date, rule.resolve year = some date ∧ date.year = year + years

theorem onlyEaster_of_standard {expression : String} {rule : Rule}
    (h : ofExpression expression .standard = .ok rule) : rule.OnlyEaster := by
  have hwellFormed := (ofExpression_eq_ok_iff.1 h).wellFormed
  cases rule with
  | onFeast name feast => exact Registry.eq_easterSunday_of_standard hwellFormed.2
  | fromFeast name feast offset => exact Registry.eq_easterSunday_of_standard hwellFormed.1.2
  | fixed month day => trivial
  | nearDate weekday direction month day => trivial
  | firstInMonth weekday month => trivial

/-- The days around Easter that belong to its year. -/
theorem year_of_easter {year offset : Int} {easter date : Date}
    (heaster : easterSunday year = some easter) (hdate : date.dayNumber = easter.dayNumber + offset)
    (hoffset : -80 ≤ offset ∧ offset ≤ 250) : date.year = year := by
  obtain ⟨hearliest, hlatest⟩ := Easter.dayNumber_bounds heaster
  have hmarch : daysBeforeMonth (isLeap year) 3 + 306 = daysOfYear year := by
    unfold daysOfYear
    cases isLeap year <;> rfl
  have hcommon := le_daysOfYear year
  rw [Date.year_eq_iff, daysBeforeYear_succ]
  omega

/-- **A rule within its year** has its date there, if its feast is Easter. -/
theorem year_of_withinYear {rule : Rule} (heaster : rule.OnlyEaster) (hwithin : rule.WithinYear)
    {year : Int} {date : Date} (h : rule.resolve year = some date) : date.year = year := by
  cases rule with
  | onFeast name feast =>
      rw [OnlyEaster] at heaster
      subst heaster
      exact year_of_easter h (Int.add_zero date.dayNumber).symm (by decide)
  | fromFeast name feast offset =>
      rw [OnlyEaster] at heaster
      subst heaster
      simp only [resolve] at h
      split at h
      · next easter hfound => exact year_of_easter hfound (ofDayNumber?_eq_some.1 h) hwithin
      · cases h
  -- for rules without a feast the bounds are those of staying in the year
  | fixed month day =>
      have hstays : (fixed month day).StaysInYear := hwithin
      exact year_of_resolve hstays h
  | nearDate weekday direction month day =>
      have hstays : (nearDate weekday direction month day).StaysInYear := hwithin
      exact year_of_resolve hstays h
  | firstInMonth weekday month =>
      have hstays : (firstInMonth weekday month).StaysInYear := hwithin
      exact year_of_resolve hstays h

/-! ## A day further -/

/-- From 26 December on, the last weekday to come is the first of January. -/
theorem leaves_nearDate_after : Leaves (nearDate .wednesday .after 12 26) 1 :=
  ⟨⟨"wednesday after 12-26", by rfl⟩, 2019, ⟨737790, by decide, by decide⟩, by decide, by decide⟩

/-- Back from 6 January, the last weekday to come is the last of December. -/
theorem leaves_nearDate_before : Leaves (nearDate .tuesday .before 1 6) (-1) :=
  ⟨⟨"tuesday before 01-06", by rfl⟩, 2020, ⟨737789, by decide, by decide⟩, by decide, by decide⟩

/-- The Easter of 2038 is the latest. -/
theorem leaves_fromFeast_after : Leaves (fromFeast "easter" easterSunday 251) 1 :=
  ⟨⟨"easter 251", by rfl⟩, 2038, ⟨744730, by decide, by decide⟩, by decide, by decide⟩

/-- The Easter of 1818 is the earliest. -/
theorem leaves_fromFeast_before : Leaves (fromFeast "easter" easterSunday (-81)) (-1) :=
  ⟨⟨"easter -81", by rfl⟩, 1818, ⟨664010, by decide, by decide⟩, by decide, by decide⟩

end Rule

end Almanac
