import Almanac.Proofs.Date.Counting
import Almanac.Proofs.Date.Week
import Almanac.Proofs.Rule.Canonical
import Almanac.Proofs.Rule.Walk

/-!
# Days that are accepted and days that exist

A day is looked at twice. When an expression is read, the longest months decide whether the day is
accepted; when a rule is resolved, the calendar of the year decides whether there is a date. The two
agree (`inSomeYear_iff`): what is refused is in no year, and what is accepted is in every year, but
for the leap day, which is in leap years (`exists_date_of_inLeapYear_iff`).
-/

namespace Almanac

/-! ## Days of a year and days of any year -/

/-- Some year of the calendar has the day. -/
def InSomeYear (month day : Nat) : Prop := ∃ date : Date, date.month = month ∧ date.day = day

/-- Of the days of a leap year a common year lacks the leap day and no other. -/
theorem le_lengthOf_iff (leap : Bool) {month day : Nat} (hmonth : month ≤ 12)
    (hday : day ≤ lengthOf true month) :
    day ≤ lengthOf leap month ↔ (month = 2 ∧ day = 29 → leap = true) := by
  have hothers : ∀ m ≤ 12, m ≠ 2 → lengthOf false m = lengthOf true m := by decide
  have hcommon : lengthOf false 2 = 28 := by rfl
  have hleap : lengthOf true 2 = 29 := by rfl
  cases leap with
  | true => simp [hday]
  | false =>
    -- only February is shorter in a common year
    by_cases hfebruary : month = 2
    · subst hfebruary
      rw [hcommon]
      rw [hleap] at hday
      refine ⟨?_, ?_⟩
      · rintro hle ⟨-, hlast⟩
        omega
      · intro hlast
        have hother : day ≠ 29 := fun h => Bool.noConfusion (hlast ⟨rfl, h⟩)
        omega
    · rw [hothers month hmonth hfebruary]
      simp [hday, hfebruary]

theorem exists_date_of_inLeapYear_iff {year : Int} {month day : Nat} (h : InLeapYear month day)
    (hyear : firstYear ≤ year ∧ year ≤ lastYear) :
    (∃ date, Date.ofYearMonthDay? year month day = some date) ↔
      (month = 2 ∧ day = 29 → isLeap year = true) := by
  obtain ⟨hmonth, hday, hlength⟩ := inLeapYear_iff.1 h
  rw [exists_date_iff, ← le_lengthOf_iff (isLeap year) hmonth.2 hlength]
  simp [hyear, hmonth, hday]

/-- **The days of any year are those of the leap years.** -/
theorem inSomeYear_iff {month day : Nat} : InSomeYear month day ↔ InLeapYear month day := by
  refine ⟨?_, ?_⟩
  · rintro ⟨date, rfl, rfl⟩
    obtain ⟨-, hmonth, hday, hlength⟩ := exists_date_iff.1 ⟨date, ofYearMonthDay?_view date⟩
    have hlongest : ∀ leap, ∀ m ≤ 12, lengthOf leap m ≤ lengthOf true m := by decide
    have hle := hlongest (isLeap date.year) date.month hmonth.2
    exact inLeapYear_iff.2 ⟨hmonth, hday, by omega⟩
  · rintro ⟨date, -, hview⟩
    exact ⟨date, hview⟩

namespace Rule

/-! ## What is accepted -/

/-- The day alone decides on the expression: it is read as the rule if some year has the day, and
refused for the day if no year has it. -/
structure DecidedByDay (registry : Registry) (expression : String) (rule : Rule)
    (month day : Nat) : Prop where
  accepted : ofExpression expression registry = .ok rule ↔ InSomeYear month day
  refused : ofExpression expression registry = .error ⟨expression, .noSuchDay month day⟩ ↔
    ¬ InSomeYear month day

variable {registry : Registry} {expression : String} {month day : Nat}

theorem decidedByDay_of_words {rule : Rule}
    (hwrites : InLeapYear month day → Expression.Writes registry (Text.words expression) rule)
    (hfaulty : ¬ InLeapYear month day →
      Expression.Faulty registry (Text.words expression) (.noSuchDay month day)) :
    DecidedByDay registry expression rule month day := by
  by_cases hday : InLeapYear month day
  · have hread := ofExpression_eq_ok_iff.2 (hwrites hday)
    exact ⟨by simp [hread, inSomeYear_iff, hday], by simp [hread, inSomeYear_iff, hday]⟩
  · have hread := ofExpression_of_faulty (hfaulty hday)
    exact ⟨by simp [hread, inSomeYear_iff, hday], by simp [hread, inSomeYear_iff, hday]⟩

theorem decidedByDay_fixed {date : String} (hwords : Text.words expression = [date])
    (hdate : Word.IsMonthDay date month day) :
    DecidedByDay registry expression (fixed month day) month day := by
  apply decidedByDay_of_words
  · intro hday
    rw [hwords]
    exact .fixed hdate hday
  · intro hnoDay
    rw [hwords]
    exact .fixed (.fixed hdate) hnoDay

theorem decidedByDay_nearDate {name keyword date : String} {weekday : Weekday}
    {direction : Direction} (hwords : Text.words expression = [name, keyword, date])
    (hname : Text.sameLetters weekday.name name = true)
    (hkeyword : Text.sameLetters direction.keyword keyword = true)
    (hdate : Word.IsMonthDay date month day) :
    DecidedByDay registry expression (nearDate weekday direction month day) month day := by
  apply decidedByDay_of_words
  · intro hday
    rw [hwords]
    exact .nearDate hname hkeyword hdate hday
  · intro hnoDay
    rw [hwords]
    exact .nearNoDay (.nearDate (Weekday.isName hname) hkeyword hdate) hname hnoDay

/-! ## What is resolved -/

theorem exists_resolve_fixed_iff (year : Int32) (month day : UInt32) :
    (∃ date, (fixed month.toNat day.toNat).resolve year.toInt = some date) ↔
      (-262143 ≤ year.toInt ∧ year.toInt ≤ 262142) ∧ (1 ≤ month ∧ month ≤ 12) ∧
        1 ≤ day ∧ ∃ length, Table.daysOfMonth? year month = some length ∧ day ≤ length := by
  have hfirst : 1 ≤ month ↔ 1 ≤ month.toNat := UInt32.le_iff_toNat_le
  have hlast : month ≤ 12 ↔ month.toNat ≤ 12 := UInt32.le_iff_toNat_le
  have hday : 1 ≤ day ↔ 1 ≤ day.toNat := UInt32.le_iff_toNat_le
  show (∃ date, Date.ofYearMonthDay? year.toInt month.toNat day.toNat = some date) ↔ _
  rw [exists_date_iff, Table.exists_length_iff, hfirst, hlast, hday]
  refine ⟨?_, ?_⟩
  · rintro ⟨hyear, hmonth, hone, hlength⟩
    exact ⟨hyear, hmonth, hone, hmonth.2, hlength⟩
  · rintro ⟨hyear, hmonth, hone, -, hlength⟩
    exact ⟨hyear, hmonth, hone, hlength⟩

theorem view_of_resolve_fixed {year : Int} {month day : Nat} {date : Date}
    (h : (fixed month day).resolve year = some date) :
    (date.year = year ∧ date.month = month ∧ date.day = day) ∧
      date.dayNumber = countedNumber year month day := by
  obtain ⟨hmonth, -, hnumber⟩ := ofYearMonthDay?_eq_some_iff_dayNumber.1 h
  rw [dayNumber_eq_counted year month day hmonth] at hnumber
  exact ⟨view_of_ofYearMonthDay? h, hnumber⟩

/--
**What is accepted and what is resolved agree.**

A fixed date has a date in a year exactly if the calendar has the year and the table of month
lengths allows the day, and the date is the one that is named. The lengths of the table are the
numbers of days that are counted from one first of a month to the next. An expression with a fixed
date is accepted exactly if some year has the day, and then all years have it, but for the leap day,
which leap years have. The date of a rule for a weekday is accepted in the same way, and where it is
missing the weekday is not looked for.
-/
theorem resolve_fixed_validated :
    (∀ (year : Int32) (month day : UInt32),
      ((∃ date, (fixed month.toNat day.toNat).resolve year.toInt = some date) ↔
        (-262143 ≤ year.toInt ∧ year.toInt ≤ 262142) ∧ (1 ≤ month ∧ month ≤ 12) ∧
          1 ≤ day ∧ ∃ length, Table.daysOfMonth? year month = some length ∧ day ≤ length) ∧
      ∀ date, (fixed month.toNat day.toNat).resolve year.toInt = some date →
        (date.year = year.toInt ∧ date.month = month.toNat ∧ date.day = day.toNat) ∧
          date.dayNumber = countedNumber year.toInt month.toNat day.toNat) ∧
    (∀ (year : Int32) (month length : UInt32), 1 ≤ month →
      Table.daysOfMonth? year month = some length →
      (length.toNat : Int) =
        countedEnd year.toInt month.toNat - countedNumber year.toInt month.toNat 1) ∧
    (∀ (registry : Registry) (expression date : String) (month day : Nat),
      Text.words expression = [date] → Word.IsMonthDay date month day →
      DecidedByDay registry expression (fixed month day) month day ∧
      (InSomeYear month day → ∀ year : Int32, -262143 ≤ year.toInt ∧ year.toInt ≤ 262142 →
        ((∃ found, (fixed month day).resolve year.toInt = some found) ↔
          (month = 2 ∧ day = 29 → Table.isLeap year = true)))) ∧
    ∀ (registry : Registry) (expression name keyword date : String) (weekday : Weekday)
      (direction : Direction) (month day : Nat),
      Text.words expression = [name, keyword, date] →
      Text.sameLetters weekday.name name = true →
      Text.sameLetters direction.keyword keyword = true → Word.IsMonthDay date month day →
      DecidedByDay registry expression (nearDate weekday direction month day) month day ∧
      ∀ year, (fixed month day).resolve year = none →
        (nearDate weekday direction month day).resolve year = none := by
  refine ⟨?_, ?_, ?_, ?_⟩
  · intro year month day
    exact ⟨exists_resolve_fixed_iff year month day, fun date hdate => view_of_resolve_fixed hdate⟩
  · -- the table agrees with the lengths of the calendar, which counting confirms
    intro year month length hfirst hlength
    have hsame := Table.daysOfMonth?_eq year month
    rw [hlength] at hsame
    obtain ⟨hmonth, hnumber⟩ := daysOfMonth?_eq_some_iff.1 hsame.symm
    rw [← hnumber]
    exact lengthOf_eq_counted year.toInt ⟨UInt32.le_iff_toNat_le.1 hfirst, hmonth⟩
  · intro registry expression date month day hwords hdate
    refine ⟨decidedByDay_fixed hwords hdate, ?_⟩
    intro hday year hyear
    rw [Table.isLeap_eq]
    exact exists_date_of_inLeapYear_iff (inSomeYear_iff.1 hday) hyear
  · intro registry expression name keyword date weekday direction month day hwords hname hkeyword
      hdate
    refine ⟨decidedByDay_nearDate hwords hname hkeyword hdate, ?_⟩
    intro year hnone
    exact resolve_nearDate_of_no_anchor hnone

/-- The leap day before year 0, where remainders are negative, and a day that no year has. -/
theorem resolve_fixed_validated_leapDay :
    ((1 : UInt32) ≤ 2 ∧ Table.daysOfMonth? (-4) 2 = some 29 ∧
      (29 : Int) = countedEnd (-4) 2 - countedNumber (-4) 2 1) ∧
    (Text.words " 02-29" = ["02-29"] ∧ Word.IsMonthDay "02-29" 2 29 ∧ InSomeYear 2 29 ∧
      ofExpression " 02-29" .standard = .ok (fixed 2 29) ∧
      (∃ found, (fixed 2 29).resolve (-4) = some found ∧
        (found.year = -4 ∧ found.month = 2 ∧ found.day = 29) ∧
          found.dayNumber = countedNumber (-4) 2 29) ∧
      ¬ ∃ found, (fixed 2 29).resolve (-100) = some found) ∧
    Text.words "saturday after 02-30" = ["saturday", "after", "02-30"] ∧
      Word.IsMonthDay "02-30" 2 30 ∧ ¬ InSomeYear 2 30 ∧
      ofExpression "saturday after 02-30" .standard =
        .error ⟨"saturday after 02-30", .noSuchDay 2 30⟩ ∧
      (fixed 2 30).resolve 2020 = none ∧
      (nearDate .saturday .after 2 30).resolve 2020 = none := by
  obtain ⟨hdates, hlengths, hfixed, hnear⟩ := resolve_fixed_validated
  have hwords : Text.words " 02-29" = ["02-29"] := by decide +kernel
  have hleapDay : Word.IsMonthDay "02-29" 2 29 := Word.monthDay?_iff.1 (by decide +kernel)
  have hthree : Text.words "saturday after 02-30" = ["saturday", "after", "02-30"] := by
    decide +kernel
  have hnoDay : Word.IsMonthDay "02-30" 2 30 := Word.monthDay?_iff.1 (by decide +kernel)
  have hleap : InSomeYear 2 29 := ⟨⟨730544, by decide, by decide⟩, by decide, by decide⟩
  have hnever : ¬ InSomeYear 2 30 := by
    rw [inSomeYear_iff, inLeapYear_iff]
    decide
  have hnone : (fixed 2 30).resolve 2020 = none := by decide
  obtain ⟨hdecided, hyears⟩ := hfixed .standard " 02-29" "02-29" 2 29 hwords hleapDay
  obtain ⟨hrefused, hanchor⟩ := hnear .standard "saturday after 02-30" "saturday" "after" "02-30"
    .saturday .after 2 30 hthree (by decide) (by decide) hnoDay
  refine ⟨⟨by decide, by decide, hlengths (-4) 2 29 (by decide) (by decide)⟩,
    ⟨hwords, hleapDay, hleap, hdecided.accepted.2 hleap, ?_, ?_⟩,
    hthree, hnoDay, hnever, hrefused.refused.2 hnever, hnone, hanchor 2020 hnone⟩
  · obtain ⟨found, hfound⟩ := (hyears hleap (-4) (by decide)).2 (by decide)
    exact ⟨found, hfound, (hdates (-4) 2 29).2 found hfound⟩
  · intro hfound
    exact absurd ((hyears hleap (-100) (by decide)).1 hfound) (by decide)

end Rule

end Almanac
