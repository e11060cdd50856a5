import Almanac.Date.Lemmas

/-!
# Naming a date

Year, month and day name a date exactly if it has them, and they name one at all exactly if the
month has that day and the calendar that year. The first is `ofYearMonthDay?_eq_some_iff`; the
second is `ofYearMonthDay?_eq_some_iff_dayNumber`, which also counts the days up to the date. Which
days there are in leap years, the longest ones, is `inLeapYear_iff`.
-/

namespace Almanac

theorem le_daysOfYear (year : Int) : 365 ≤ daysOfYear year := by
  unfold daysOfYear
  split
  · omega
  · omega

/-- A date lies in a year if the days of the year hold its number. -/
theorem Date.year_eq_iff (date : Date) (year : Int) :
    date.year = year ↔
      daysBeforeYear year ≤ date.dayNumber ∧ date.dayNumber < daysBeforeYear (year + 1) :=
  yearOf_eq_iff date.dayNumber year

theorem Date.year_bounds (date : Date) : firstYear ≤ date.year ∧ date.year ≤ lastYear := by
  obtain ⟨hbegin, hend⟩ := (date.year_eq_iff date.year).1 rfl
  have hfirst : daysBeforeYear firstYear ≤ date.dayNumber := date.first_le
  have hlast : date.dayNumber ≤ daysBeforeYear (lastYear + 1) - 1 := date.le_last
  refine ⟨?_, ?_⟩
  · rcases Int.lt_or_le date.year firstYear with hearly | hle
    · have hmono : daysBeforeYear (date.year + 1) ≤ daysBeforeYear firstYear :=
        daysBeforeYear_mono hearly
      omega
    · exact hle
  · rcases Int.lt_or_le lastYear date.year with hlate | hle
    · have hmono : daysBeforeYear (lastYear + 1) ≤ daysBeforeYear date.year :=
        daysBeforeYear_mono hlate
      omega
    · exact hle

/-- The date that year, month and day name is the one that has them. -/
theorem ofYearMonthDay?_eq_some_iff {year : Int} {month day : Nat} {date : Date} :
    Date.ofYearMonthDay? year month day = some date ↔
      date.year = year ∧ date.month = month ∧ date.day = day := by
  refine ⟨?_, ?_⟩
  · exact view_of_ofYearMonthDay?
  · intro h
    obtain ⟨rfl, rfl, rfl⟩ := h
    exact ofYearMonthDay?_view date

theorem lengthOf_le (leap : Bool) {month : Nat} (h : month ≤ 12) : lengthOf leap month ≤ 31 := by
  have hmonths : ∀ leap, ∀ m ≤ 12, lengthOf leap m ≤ 31 := by decide
  exact hmonths leap month h

/-- Month 0 has no days. -/
theorem one_le_of_lengthOf {leap : Bool} {month day : Nat} (h : day ≤ lengthOf leap month)
    (hday : 1 ≤ day) : 1 ≤ month := by
  rcases Nat.eq_zero_or_pos month with hzero | hpos
  · subst hzero; simp [lengthOf, monthLengths] at h; omega
  · exact hpos

theorem daysOfMonth?_eq_some_iff {year : Int} {month length : Nat} :
    daysOfMonth? year month = some length ↔
      month ≤ 12 ∧ lengthOf (isLeap year) month = length := by
  refine ⟨?_, ?_⟩
  · exact daysOfMonth?_eq_some
  · intro h
    obtain ⟨hmonth, rfl⟩ := h
    -- the list of lengths begins with month 0
    have hlength : (monthLengths (isLeap year)).length = 13 := by cases isLeap year <;> rfl
    unfold daysOfMonth? lengthOf
    rw [List.getElem?_eq_getElem (by omega)]
    rfl

/-- The date of a year, month and day is found by counting the days before it. -/
theorem ofYearMonthDay?_eq_some_iff_dayNumber {year : Int} {month day : Nat} {date : Date} :
    Date.ofYearMonthDay? year month day = some date ↔
      (1 ≤ month ∧ month ≤ 12) ∧ (1 ≤ day ∧ day ≤ lengthOf (isLeap year) month) ∧
        date.dayNumber =
          daysBeforeYear year + daysBeforeMonth (isLeap year) month + day - 1 := by
  unfold Date.ofYearMonthDay?
  refine ⟨?_, ?_⟩
  · -- each check that is passed gives one of the bounds
    intro h
    split at h
    · next length hlength =>
      obtain ⟨hmonth, rfl⟩ := daysOfMonth?_eq_some hlength
      split at h
      · next hday =>
        exact ⟨⟨one_le_of_lengthOf hday.2 hday.1, hmonth⟩, hday, ofDayNumber?_eq_some.1 h⟩
      · cases h
    · cases h
  · intro h
    obtain ⟨⟨-, hmonth⟩, hday, hnumber⟩ := h
    rw [daysOfMonth?_eq_some_iff.2 ⟨hmonth, rfl⟩]
    dsimp only
    rw [if_pos hday]
    exact ofDayNumber?_eq_some.2 hnumber

/-! ## Days without a year -/

/-- Some leap year has this day. -/
def InLeapYear (month day : Nat) : Prop :=
  ∃ date : Date, isLeap date.year = true ∧ date.month = month ∧ date.day = day

/-- All leap years have the same days. -/
theorem inLeapYear_iff {month day : Nat} :
    InLeapYear month day ↔ (1 ≤ month ∧ month ≤ 12) ∧ 1 ≤ day ∧ day ≤ lengthOf true month := by
  refine ⟨?_, ?_⟩
  · intro h
    obtain ⟨date, hleap, hview⟩ := h
    have hdate := ofYearMonthDay?_eq_some_iff.2 ⟨rfl, hview⟩
    obtain ⟨hmonth, hday, -⟩ := ofYearMonthDay?_eq_some_iff_dayNumber.1 hdate
    rw [hleap] at hday
    exact ⟨hmonth, hday⟩
  · intro h
    obtain ⟨hmonth, hday⟩ := h
    have hleap : isLeap 2000 = true := by decide
    -- the year 2000 is a leap year, and all of it lies inside the calendar
    have hinside : firstDay ≤ daysBeforeYear 2000 + daysBeforeMonth true month + day - 1 ∧
        daysBeforeYear 2000 + daysBeforeMonth true month + day - 1 ≤ lastDay := by
      have hsucc := daysBeforeMonth_succ true month
      have hyear := daysBeforeMonth_le true hmonth.2
      rw [if_pos rfl] at hyear
      rw [show firstDay = -95745764 by decide, show lastDay = 95745764 by decide,
        show daysBeforeYear 2000 = 730485 by decide]
      omega
    have hdate : Date.ofYearMonthDay? 2000 month day = some ⟨_, hinside.1, hinside.2⟩ := by
      rw [ofYearMonthDay?_eq_some_iff_dayNumber, hleap]
      exact ⟨hmonth, hday, rfl⟩
    obtain ⟨hyear, hview⟩ := ofYearMonthDay?_eq_some_iff.1 hdate
    exact ⟨_, by rw [hyear, hleap], hview⟩

end Almanac
