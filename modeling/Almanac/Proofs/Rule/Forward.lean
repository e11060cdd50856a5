import Almanac.Proofs.Rule.EasterYears

/-!
# Rules move forward

In a later year a rule has a later date. Its dates do not stay where they are, a weekday moves them
by up to six days and Easter moves by five weeks, and an offset may carry all of them into another
year. But they keep to a window that opens so many days into every year (`Rule.KeepsTo`). Such
windows follow each other as the years do, and they cannot meet if they are shorter than a year.
-/

namespace Almanac

/-- But for a leap day the months begin on the same days of every year. -/
theorem daysBeforeMonth_bounds (leap : Bool) {month : Nat} (h : month ≤ 12) :
    daysBeforeMonth false month ≤ daysBeforeMonth leap month ∧
      daysBeforeMonth leap month ≤ daysBeforeMonth false month + 1 := by
  have hmonths : ∀ m ≤ 12, daysBeforeMonth false m ≤ daysBeforeMonth leap m ∧
      daysBeforeMonth leap m ≤ daysBeforeMonth false m + 1 := by
    cases leap <;> decide
  exact hmonths month h

/-- Dates that are named alike are so many days into their years, or one more after a leap day. -/
theorem dayNumber_bounds_of_named {year : Int} {month day : Nat} {date : Date}
    (h : Date.ofYearMonthDay? year month day = some date) :
    daysBeforeYear year + daysBeforeMonth false month + day - 1 ≤ date.dayNumber ∧
      date.dayNumber ≤ daysBeforeYear year + daysBeforeMonth false month + day := by
  obtain ⟨⟨-, hmonth⟩, -, hnumber⟩ := ofYearMonthDay?_eq_some_iff_dayNumber.1 h
  have hbegin := daysBeforeMonth_bounds (isLeap year) hmonth
  omega

namespace Rule

/-- Every year the rule keeps to the same days, from `first` to `last`, counted from the beginning
of the year that it is resolved in. -/
def KeepsTo (rule : Rule) (first last : Int) : Prop :=
  ∀ year date, rule.resolve year = some date →
    daysBeforeYear year + first ≤ date.dayNumber ∧ date.dayNumber ≤ daysBeforeYear year + last

/-- **A window shorter than a year** moves forward with the years. -/
theorem KeepsTo.lt {rule : Rule} {first last : Int} (hkeeps : rule.KeepsTo first last)
    (hshort : last < first + 365) {early late : Int} (hyears : early < late) {before after : Date}
    (hbefore : rule.resolve early = some before) (hafter : rule.resolve late = some after) :
    before < after := by
  obtain ⟨-, hlast⟩ := hkeeps early before hbefore
  obtain ⟨hfirst, -⟩ := hkeeps late after hafter
  have hnext : daysBeforeYear (early + 1) ≤ daysBeforeYear late := daysBeforeYear_mono hyears
  have hlong := le_daysOfYear early
  rw [daysBeforeYear_succ] at hnext
  rw [Date.lt_iff]
  omega

/-! ## The window of each form -/

theorem keepsTo_fixed (month day : Nat) :
    (fixed month day).KeepsTo (daysBeforeMonth false month + day - 1)
      (daysBeforeMonth false month + day) := by
  intro year date h
  have hnamed := dayNumber_bounds_of_named h
  omega

/-- A weekday is at most six days away, before or after. -/
theorem keepsTo_nearDate (weekday : Weekday) (direction : Direction) (month day : Nat) :
    (nearDate weekday direction month day).KeepsTo (daysBeforeMonth false month + day - 7)
      (daysBeforeMonth false month + day + 6) := by
  intro year date h
  obtain ⟨anchor, hanchor, hnumber⟩ := resolve_nearDate_eq_some_iff.1 h
  have hnamed := dayNumber_bounds_of_named hanchor
  have hweek := direction.steps_lt anchor.weekday weekday
  cases direction with
  | before =>
      simp only [Direction.step] at hnumber
      omega
  | after =>
      simp only [Direction.step] at hnumber
      omega

theorem keepsTo_firstInMonth (weekday : Weekday) (month : Month) :
    (firstInMonth weekday month).KeepsTo (daysBeforeMonth false month.number)
      (daysBeforeMonth false month.number + 7) := by
  intro year date h
  simp only [resolve, Date.firstWeekday?] at h
  split at h
  · next start _ =>
    have hnamed := dayNumber_bounds_of_named h
    have hweek := start.weekday.daysUntil_lt weekday
    omega
  · cases h

/-- Five weeks, since the first of March is a day later in leap years. -/
theorem keepsTo_easter (name : String) : (onFeast name easterSunday).KeepsTo 80 115 := by
  intro year date h
  have hdays := Easter.dayNumber_bounds h
  have hmarch := daysBeforeMonth_bounds (isLeap year) (show 3 ≤ 12 by decide)
  have hcommon : daysBeforeMonth false 3 = 59 := by rfl
  omega

/-- An offset moves the window as a whole. -/
theorem keepsTo_fromFeast {name : String} {feast : Feast} {first last : Int} (offset : Int)
    (h : (onFeast name feast).KeepsTo first last) :
    (fromFeast name feast offset).KeepsTo (first + offset) (last + offset) := by
  intro year date hdate
  simp only [resolve] at hdate
  split at hdate
  · next found hfound =>
    have hwindow := h year found hfound
    have hnumber := ofDayNumber?_eq_some.1 hdate
    omega
  · cases hdate

theorem exists_keepsTo {rule : Rule} (heaster : rule.OnlyEaster) :
    ∃ first last : Int, last < first + 365 ∧ rule.KeepsTo first last := by
  cases rule with
  | fixed month day => exact ⟨_, _, by omega, keepsTo_fixed month day⟩
  | onFeast name feast =>
      rw [OnlyEaster] at heaster
      subst heaster
      exact ⟨80, 115, by decide, keepsTo_easter name⟩
  | fromFeast name feast offset =>
      rw [OnlyEaster] at heaster
      subst heaster
      exact ⟨_, _, by omega, keepsTo_fromFeast offset (keepsTo_easter name)⟩
  | nearDate weekday direction month day =>
      exact ⟨_, _, by omega, keepsTo_nearDate weekday direction month day⟩
  | firstInMonth weekday month => exact ⟨_, _, by omega, keepsTo_firstInMonth weekday month⟩

/--
**Rules move strictly forward.**

A rule that is read with the standard registry has a later date in a later year, whatever its form
and however far its offset leads. So no date is its date in two years.
-/
theorem resolve_lt_resolve {expression : String} {rule : Rule}
    (hread : ofExpression expression .standard = .ok rule) :
    (∀ early late before after, early < late → rule.resolve early = some before →
      rule.resolve late = some after → before < after) ∧
    ∀ year other date, rule.resolve year = some date → rule.resolve other = some date →
      year = other := by
  obtain ⟨first, last, hshort, hkeeps⟩ := exists_keepsTo (onlyEaster_of_standard hread)
  refine ⟨?_, ?_⟩
  · intro early late before after hyears hbefore hafter
    exact hkeeps.lt hshort hyears hbefore hafter
  · intro year other date hyear hother
    rcases Int.lt_trichotomy year other with hlt | heq | hgt
    · exact absurd (hkeeps.lt hshort hlt hyear hother) (Int.lt_irrefl date.dayNumber)
    · exact heq
    · exact absurd (hkeeps.lt hshort hgt hother hyear) (Int.lt_irrefl date.dayNumber)

/-- The leap day is missing for eight years around 1900, and an offset of a hundred thousand days
leads from Easter to another century. -/
theorem resolve_lt_resolve_leapDay :
    let sunday : Rule := .nearDate .sunday .before 2 29
    let distant : Rule := .fromFeast "easter" easterSunday 100000
    let sunday1896 : Date := ⟨692553, by decide, by decide⟩
    let sunday1904 : Date := ⟨695479, by decide, by decide⟩
    let distant2017 : Date := ⟨836800, by decide, by decide⟩
    (ofExpression "sunday before 02-29" .standard = .ok sunday ∧
      (sunday.resolve 1896 = some sunday1896 ∧ sunday.resolve 1900 = none ∧
        sunday.resolve 1904 = some sunday1904) ∧ sunday1896 < sunday1904) ∧
    ofExpression "easter +100000" .standard = .ok distant ∧
      distant.resolve 2017 = some distant2017 ∧ ¬ distant.resolve 2018 = some distant2017 := by
  intro sunday distant sunday1896 sunday1904 distant2017
  have hsunday : ofExpression "sunday before 02-29" .standard = .ok sunday := by rfl
  have hdistant : ofExpression "easter +100000" .standard = .ok distant := by rfl
  have hearly : sunday.resolve 1896 = some sunday1896 := by decide
  have hlate : sunday.resolve 1904 = some sunday1904 := by decide
  have hyear : distant.resolve 2017 = some distant2017 := by decide
  obtain ⟨hforward, -⟩ := resolve_lt_resolve hsunday
  obtain ⟨-, honce⟩ := resolve_lt_resolve hdistant
  refine ⟨⟨hsunday, ⟨hearly, by decide, hlate⟩, ?_⟩, hdistant, hyear, ?_⟩
  · exact hforward 1896 1904 sunday1896 sunday1904 (by decide) hearly hlate
  · intro hnext
    exact absurd (honce 2017 2018 distant2017 hyear hnext) (by decide)

end Rule

end Almanac
