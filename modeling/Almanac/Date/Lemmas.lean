import Almanac.Date.Basic

/-!
# Year, month and day of a date

A date is a day number, and its year, month and day are looked up. This file says that the look-up
is right: `yearOf_eq_iff` finds the one year whose days hold the number, `monthOf_eq` the one month
whose days hold the rest, and together they make naming a date and viewing it inverse to each
other, which is `view_of_ofYearMonthDay?` and `ofYearMonthDay?_view`.
-/

namespace Almanac

/-! ## Years -/

/-- A year is 365 or 366 days long. -/
def daysOfYear (year : Int) : Nat := if isLeap year then 366 else 365

theorem isLeap_iff (year : Int) :
    isLeap year = true ↔ year % 4 = 0 ∧ year % 100 ≠ 0 ∨ year % 400 = 0 := by
  simp [isLeap]

theorem daysBeforeYear_succ (year : Int) :
    daysBeforeYear (year + 1) = daysBeforeYear year + daysOfYear year := by
  unfold daysBeforeYear daysOfYear
  split
  · next h => rw [isLeap_iff] at h; omega
  · next h => rw [isLeap_iff] at h; omega

theorem daysBeforeYear_mono {a b : Int} (h : a ≤ b) : daysBeforeYear a ≤ daysBeforeYear b := by
  unfold daysBeforeYear; omega

theorem daysBeforeYear_yearOf_le (n : Int) : daysBeforeYear (Date.yearOf n) ≤ n := by
  unfold Date.yearOf daysBeforeYear
  dsimp only
  split
  · omega
  · split <;> omega

theorem lt_daysBeforeYear_yearOf (n : Int) : n < daysBeforeYear (Date.yearOf n + 1) := by
  unfold Date.yearOf
  dsimp only
  split
  · rwa [Int.sub_add_cancel]
  · split
    · unfold daysBeforeYear; omega
    · omega

theorem yearOf_eq_iff (n year : Int) :
    Date.yearOf n = year ↔ daysBeforeYear year ≤ n ∧ n < daysBeforeYear (year + 1) := by
  have h1 := daysBeforeYear_yearOf_le n
  have h2 := lt_daysBeforeYear_yearOf n
  constructor
  · rintro rfl; exact ⟨h1, h2⟩
  · rintro ⟨h3, h4⟩
    by_cases ha : Date.yearOf n < year
    · have := daysBeforeYear_mono (show Date.yearOf n + 1 ≤ year by omega); omega
    · by_cases hb : year < Date.yearOf n
      · have := daysBeforeYear_mono (show year + 1 ≤ Date.yearOf n by omega); omega
      · omega

theorem yearOf_add (year : Int) (days : Nat) (h : days < daysOfYear year) :
    Date.yearOf (daysBeforeYear year + days) = year := by
  rw [yearOf_eq_iff, daysBeforeYear_succ]; omega

/-! ## Months -/

/-- The days of month number `month`, or none. -/
def lengthOf (leap : Bool) (month : Nat) : Nat := (monthLengths leap)[month]?.getD 0

theorem daysBeforeMonth_succ (leap : Bool) (month : Nat) :
    daysBeforeMonth leap (month + 1) = daysBeforeMonth leap month + lengthOf leap month := by
  simp only [daysBeforeMonth, lengthOf, List.take_add_one, List.foldl_append]
  cases (monthLengths leap)[month]? <;> rfl

theorem daysBeforeMonth_mono (leap : Bool) {a b : Nat} (h : a ≤ b) :
    daysBeforeMonth leap a ≤ daysBeforeMonth leap b := by
  induction h with
  | refl => exact Nat.le_refl _
  | step _ ih => rw [daysBeforeMonth_succ]; omega

theorem daysBeforeMonth_thirteen (leap : Bool) :
    daysBeforeMonth leap 13 = if leap then 366 else 365 := by cases leap <;> decide

theorem monthOf_eq {leap : Bool} {month days : Nat} (h1 : 1 ≤ month) (h2 : month ≤ 12)
    (h3 : daysBeforeMonth leap month ≤ days) (h4 : days < daysBeforeMonth leap (month + 1)) :
    Date.monthOf leap days = month := by
  have key : ∀ m, daysBeforeMonth leap m ≤ days ↔ m ≤ month := by
    intro m
    constructor
    · intro h
      rcases Nat.lt_or_ge month m with hm | hm
      · have := daysBeforeMonth_mono leap (show month + 1 ≤ m from hm); omega
      · exact hm
    · intro h; exact Nat.le_trans (daysBeforeMonth_mono leap h) h3
  unfold Date.monthOf
  simp only [key]
  have : ∀ m : Nat, m ∈ List.range 13 →
      ((List.range' 1 12).filter fun k => decide (k ≤ m)).length = m := by decide
  exact this month (by simp; omega)

theorem daysOfMonth?_eq_some {year : Int} {month length : Nat}
    (h : daysOfMonth? year month = some length) :
    month ≤ 12 ∧ lengthOf (isLeap year) month = length := by
  unfold daysOfMonth? at h
  have hm : month < (monthLengths (isLeap year)).length := (List.getElem?_eq_some_iff.1 h).1
  refine ⟨?_, by simp [lengthOf, h]⟩
  have : (monthLengths (isLeap year)).length = 13 := by cases isLeap year <;> rfl
  omega

theorem daysBeforeMonth_le (leap : Bool) {month : Nat} (h : month ≤ 12) :
    daysBeforeMonth leap (month + 1) ≤ if leap then 366 else 365 := by
  rw [← daysBeforeMonth_thirteen]; exact daysBeforeMonth_mono leap (by omega)

/-! ## Dates -/

theorem ofDayNumber?_eq_some {n : Int} {date : Date} :
    Date.ofDayNumber? n = some date ↔ date.dayNumber = n := by
  unfold Date.ofDayNumber?
  constructor
  · intro h
    split at h
    · cases h; rfl
    · cases h
  · rintro rfl
    simp [date.first_le, date.le_last]

theorem ofDayNumber?_eq_none_iff {n : Int} :
    Date.ofDayNumber? n = none ↔ n < firstDay ∨ lastDay < n := by
  unfold Date.ofDayNumber?
  split
  · simp; omega
  · simp; omega

/-- A date that is named by year, month and day has that year, that month and that day. -/
theorem view_of_ofYearMonthDay? {year : Int} {month day : Nat} {date : Date}
    (h : Date.ofYearMonthDay? year month day = some date) :
    date.year = year ∧ date.month = month ∧ date.day = day := by
  unfold Date.ofYearMonthDay? at h
  split at h
  · next length hl =>
    obtain ⟨hm, hlen⟩ := daysOfMonth?_eq_some hl
    split at h
    · next hd =>
      have hn := ofDayNumber?_eq_some.1 h
      have hs := daysBeforeMonth_succ (isLeap year) month
      have hy := daysBeforeMonth_le (isLeap year) hm
      have h0 : 1 ≤ month := by
        rcases Nat.eq_zero_or_pos month with h0 | h0
        · subst h0; simp [lengthOf, monthLengths] at hlen; omega
        · exact h0
      have hn' : date.dayNumber =
          daysBeforeYear year + ((daysBeforeMonth (isLeap year) month + day - 1 : Nat) : Int) := by
        omega
      -- the day number falls in the year, the rest of it in the month, and what is left is the day
      have hyear : date.year = year := by
        unfold Date.year
        rw [hn']
        apply yearOf_add
        unfold daysOfYear
        omega
      have hdays : date.dayOfYear = daysBeforeMonth (isLeap year) month + day - 1 := by
        unfold Date.dayOfYear; rw [hyear, hn']; omega
      have hmonth : date.month = month := by
        unfold Date.month; rw [hyear, hdays]
        exact monthOf_eq h0 hm (by omega) (by omega)
      refine ⟨hyear, hmonth, ?_⟩
      unfold Date.day; rw [hyear, hdays, hmonth]; omega
    · cases h
  · cases h

theorem dayOfYear_lt (date : Date) : date.dayOfYear < daysOfYear date.year := by
  have h1 := daysBeforeYear_yearOf_le date.dayNumber
  have h2 := lt_daysBeforeYear_yearOf date.dayNumber
  rw [daysBeforeYear_succ] at h2
  unfold Date.dayOfYear Date.year; omega

/-- Some month holds every day of a year. -/
theorem exists_month (leap : Bool) {days : Nat} (h : days < if leap then 366 else 365) :
    ∃ month, 1 ≤ month ∧ month ≤ 12 ∧ daysBeforeMonth leap month ≤ days ∧
      days < daysBeforeMonth leap (month + 1) := by
  have h0 : daysBeforeMonth leap 1 = 0 := by cases leap <;> decide
  rw [← daysBeforeMonth_thirteen] at h
  have : ∀ k, k ≤ 12 → days < daysBeforeMonth leap (k + 1) → ∃ month, 1 ≤ month ∧ month ≤ 12 ∧
      daysBeforeMonth leap month ≤ days ∧ days < daysBeforeMonth leap (month + 1) := by
    intro k hk hlt
    induction k with
    | zero => rw [Nat.zero_add] at hlt; omega
    | succ k ih =>
      by_cases hle : daysBeforeMonth leap (k + 1) ≤ days
      · exact ⟨k + 1, by omega, hk, hle, hlt⟩
      · exact ih (by omega) (by omega)
  exact this 12 (by omega) h

/-- Every date is the one that its year, month and day name. -/
theorem ofYearMonthDay?_view (date : Date) :
    Date.ofYearMonthDay? date.year date.month date.day = some date := by
  have hlt := dayOfYear_lt date
  have hle := daysBeforeYear_yearOf_le date.dayNumber
  unfold daysOfYear at hlt
  -- the month of the date is the one whose days hold the day of its year
  obtain ⟨month, h1, h2, h3, h4⟩ := exists_month (isLeap date.year) hlt
  have hmonth : date.month = month := monthOf_eq h1 h2 h3 h4
  have hs := daysBeforeMonth_succ (isLeap date.year) month
  have hlen : ∃ length, daysOfMonth? date.year month = some length := by
    refine ⟨_, List.getElem?_eq_getElem ?_⟩
    have : (monthLengths (isLeap date.year)).length = 13 := by cases isLeap date.year <;> rfl
    omega
  obtain ⟨length, hlen⟩ := hlen
  obtain ⟨-, hl⟩ := daysOfMonth?_eq_some hlen
  unfold Date.ofYearMonthDay? Date.day
  rw [hmonth, hlen]
  dsimp only
  rw [if_pos (by omega), ofDayNumber?_eq_some]
  unfold Date.dayOfYear Date.year at *
  omega

end Almanac
