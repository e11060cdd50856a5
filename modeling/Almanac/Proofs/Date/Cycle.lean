import Almanac.Proofs.Date.Week

/-!
# The cycle of 400 years

After 400 years the calendar begins anew. The leap years come back, so every month has its days
back; and as 400 years are 146097 days, which is 20871 weeks, every day has its weekday back.
`Date.Again` ties a date to the one that is a cycle later. Two computations of a date that are a
cycle apart agree, in the sense of `Option.Rel Date.Again`, if both find dates that are tied or
neither finds one: so do naming a date and counting days from it, unless an end of the calendar
comes in between.
-/

namespace Almanac

theorem isLeap_add_cycle (year : Int) : isLeap (year + 400) = isLeap year := by
  rw [Bool.eq_iff_iff, isLeap_iff, isLeap_iff]
  omega

/-- **400 years are 146097 days**, wherever they begin. -/
theorem daysBeforeYear_add_cycle (year : Int) :
    daysBeforeYear (year + 400) = daysBeforeYear year + 146097 := by
  unfold daysBeforeYear
  omega

namespace Date

/-- `later` is the date one cycle after `date`. -/
def Again (date later : Date) : Prop := date.addDays? 146097 = some later

variable {date later : Date} {year : Int}

theorem again_iff : date.Again later ↔ later.dayNumber = date.dayNumber + 146097 :=
  ofDayNumber?_eq_some

theorem Again.weekday_eq (h : date.Again later) : later.weekday = date.weekday := by
  rw [again_iff] at h
  rw [weekday_eq_iff, weekday_index, h]
  omega

theorem Again.year_eq (h : date.Again later) : later.year = date.year + 400 := by
  rw [again_iff] at h
  obtain ⟨hbegin, hend⟩ := (date.year_eq_iff date.year).1 rfl
  rw [year_eq_iff, h, daysBeforeYear_add_cycle, Int.add_right_comm, daysBeforeYear_add_cycle]
  omega

/-- No two dates have the same date a cycle later. -/
theorem Again.inj {other : Date} (h : date.Again later) (h' : other.Again later) :
    date = other := by
  rw [again_iff] at h h'
  apply Date.ext
  omega

/-! ## Computing dates that are a cycle apart -/

/-- Of two computations that agree, the one finds a date exactly if the other finds the tied one. -/
theorem Again.eq_some_iff {x y : Option Date} (h : date.Again later)
    (hrel : Option.Rel Again x y) : y = some later ↔ x = some date := by
  cases hrel with
  | none => simp
  | @some found foundLater hfound =>
    rw [Option.some_inj, Option.some_inj]
    refine ⟨?_, ?_⟩
    · rintro rfl
      exact hfound.inj h
    · rintro rfl
      exact Option.some.inj (hfound.symm.trans h)

theorem rel_ofDayNumber? {n : Int} (hfirst : firstDay ≤ n) (hlast : n + 146097 ≤ lastDay) :
    Option.Rel Again (ofDayNumber? n) (ofDayNumber? (n + 146097)) := by
  have hearly : firstDay ≤ n ∧ n ≤ lastDay := by omega
  have hlate : firstDay ≤ n + 146097 ∧ n + 146097 ≤ lastDay := by omega
  unfold ofDayNumber?
  rw [dif_pos hearly, dif_pos hlate]
  exact .some (again_iff.2 rfl)

/-- Counting from tied dates leads to tied dates. -/
theorem Again.rel_addDays? (h : date.Again later) {days : Int}
    (hfirst : firstDay ≤ date.dayNumber + days) (hlast : later.dayNumber + days ≤ lastDay) :
    Option.Rel Again (date.addDays? days) (later.addDays? days) := by
  rw [again_iff] at h
  unfold addDays?
  rw [show later.dayNumber + days = date.dayNumber + days + 146097 by omega]
  exact rel_ofDayNumber? hfirst (by omega)

theorem exists_again (h : date.year + 400 ≤ lastYear) : ∃ later, date.Again later := by
  have hfirst := date.first_le
  obtain ⟨-, hend⟩ := (date.year_eq_iff date.year).1 rfl
  have hcycle := daysBeforeYear_add_cycle (date.year + 1)
  have hmono : daysBeforeYear (date.year + 1 + 400) ≤ daysBeforeYear (lastYear + 1) :=
    daysBeforeYear_mono (by omega)
  have hlast : date.dayNumber + 146097 ≤ lastDay := by
    unfold lastDay
    omega
  exact ⟨⟨date.dayNumber + 146097, by omega, hlast⟩, again_iff.2 rfl⟩

/-- **A month and a day name tied dates in years that are a cycle apart**, or none in either. -/
theorem rel_ofYearMonthDay? (month day : Nat)
    (hyear : firstYear ≤ year ∧ year + 400 ≤ lastYear) :
    Option.Rel Again (ofYearMonthDay? year month day) (ofYearMonthDay? (year + 400) month day) := by
  -- both years are in the calendar and of one length, so the day is in both or in neither
  have hexists : (∃ date, ofYearMonthDay? year month day = some date) ↔
      ∃ later, ofYearMonthDay? (year + 400) month day = some later := by
    rw [exists_date_iff, exists_date_iff, isLeap_add_cycle]
    omega
  cases hdate : ofYearMonthDay? year month day with
  | some date =>
    obtain ⟨later, hlater⟩ := hexists.1 ⟨date, hdate⟩
    obtain ⟨-, -, hnumber⟩ := ofYearMonthDay?_eq_some_iff_dayNumber.1 hdate
    obtain ⟨-, -, hlaterNumber⟩ := ofYearMonthDay?_eq_some_iff_dayNumber.1 hlater
    rw [isLeap_add_cycle, daysBeforeYear_add_cycle] at hlaterNumber
    rw [hlater]
    exact .some (again_iff.2 (by omega))
  | none =>
    cases hlater : ofYearMonthDay? (year + 400) month day with
    | some later =>
      obtain ⟨date, hsome⟩ := hexists.2 ⟨later, hlater⟩
      rw [hdate] at hsome
      cases hsome
    | none => exact .none

end Date

end Almanac
