import Almanac.Proofs.Feast.Formula
import Almanac.Proofs.Feast.PaschalMoon

/-!
# Easter in 32 bits

The steps of the computation of Easter, written as formulas, and every value on the way from 1583 to
the end of the calendar. None leaves 32 bits, none that is divided is negative and no divisor is
zero, so a machine works the formulas out exactly. What remains to be seen is that the product of
quotients, the one step that is not linear, is never more than one (`exceptions_bounds`).
-/

namespace Almanac

namespace Easter

namespace Formulas

/-- The place in the cycle of nineteen years. -/
def golden : Formula := .year % 19

/-- The full centuries. -/
def century : Formula := .year / 100

/-- The mean moon. -/
def meanMoon : Formula :=
  (century - century / 4 - (8 * century + 13) / 25 + 19 * golden + 15) % 30

/-- The product that is one in the two exceptions that keep a late moon where it is. -/
def exceptions : Formula := meanMoon / 28 * (29 / (meanMoon + 1)) * ((21 - golden) / 11)

/-- The full moon. -/
def fullMoon : Formula := meanMoon - meanMoon / 28 * (1 - exceptions)

/-- The days from a Sunday to the full moon. -/
def fullMoonWeekday : Formula := (.year + .year / 4 + fullMoon + 2 - century + century / 4) % 7

/-- The day of March. -/
def dayOfMarch : Formula := fullMoon - fullMoonWeekday + 28

/-- The day of April. -/
def dayOfApril : Formula := dayOfMarch - 31

end Formulas

open Formula

/-! ## The formulas have the values of the computation -/

/-- Easter is on 22 March at the earliest and 56 days into March, on 25 April, at the latest. -/
theorem dayOfMarch_bounds (year : Int) : 22 ≤ dayOfMarch year ∧ dayOfMarch year ≤ 56 := by
  have hday := fullMoon_bounds year
  have hweek := fullMoonWeekday_bounds year
  unfold dayOfMarch
  omega

section
variable (year : Int)

@[simp] theorem value_golden : Formulas.golden.value year = golden year := rfl

@[simp] theorem value_century : Formulas.century.value year = century year := rfl

@[simp] theorem value_meanMoon : Formulas.meanMoon.value year = meanMoon year := rfl

@[simp] theorem value_fullMoon : Formulas.fullMoon.value year = fullMoon year := rfl

@[simp] theorem value_fullMoonWeekday :
    Formulas.fullMoonWeekday.value year = fullMoonWeekday year := rfl

@[simp] theorem value_dayOfMarch : Formulas.dayOfMarch.value year = dayOfMarch year := rfl

end

/-! ## All values on the way -/

/-- Before its 28th day the mean moon is not late, and from then on it is late by one. -/
theorem late_cases (year : Int) : meanMoon year / 28 = 0 ∨ meanMoon year / 28 = 1 := by
  have hmoon := meanMoon_bounds year
  omega

theorem reciprocal_bounds (year : Int) :
    0 ≤ 29 / (meanMoon year + 1) ∧ 29 / (meanMoon year + 1) ≤ 29 := by
  have hmoon := meanMoon_bounds year
  exact ⟨Int.ediv_nonneg (by decide) (by omega), Int.ediv_le_self _ (by decide)⟩

/-- The product can only be zero or one. -/
theorem exceptions_bounds (year : Int) :
    0 ≤ Formulas.exceptions.value year ∧ Formulas.exceptions.value year ≤ 1 := by
  have hmoon := meanMoon_bounds year
  have hgolden := golden_bounds year
  have hlast : (21 - golden year) / 11 = 0 ∨ (21 - golden year) / 11 = 1 := by omega
  show 0 ≤ meanMoon year / 28 * (29 / (meanMoon year + 1)) * ((21 - golden year) / 11) ∧
    meanMoon year / 28 * (29 / (meanMoon year + 1)) * ((21 - golden year) / 11) ≤ 1
  -- the second factor is large for early moons only, and for these the first one is zero
  obtain hearly | hmoon | hmoon : meanMoon year / 28 = 0 ∨ meanMoon year = 28 ∨
      meanMoon year = 29 := by omega
  · rw [hearly, Int.zero_mul, Int.zero_mul]
    decide
  · rw [hmoon]
    omega
  · rw [hmoon]
    omega

section
variable {year : Int} (hyear : 1583 ≤ year ∧ year ≤ 262142)
include hyear

theorem century_bounds : 15 ≤ century year ∧ century year ≤ 2621 := by
  unfold century
  omega

theorem exact_golden : Formulas.golden.Exact year := by
  simp only [Formulas.golden, exact_mod, exact_year, exact_ofNat, value_year, value_ofNat, Fits]
  omega

theorem exact_century : Formulas.century.Exact year := by
  simp only [Formulas.century, exact_div, exact_year, exact_ofNat, value_year, value_ofNat, Fits]
  omega

theorem exact_meanMoon : Formulas.meanMoon.Exact year := by
  have hgolden := exact_golden hyear
  have hcentury := exact_century hyear
  have hplace := golden_bounds year
  have hcenturies := century_bounds hyear
  simp only [Formulas.meanMoon, exact_add, exact_sub, exact_mul, exact_div, exact_mod, exact_ofNat,
    value_add, value_sub, value_mul, value_div, value_ofNat, value_golden, value_century, Fits,
    hgolden, hcentury, true_and, and_true]
  omega

theorem exact_exceptions : Formulas.exceptions.Exact year := by
  have hgolden := exact_golden hyear
  have hmoon := exact_meanMoon hyear
  have hplace := golden_bounds year
  have hday := meanMoon_bounds year
  have hreciprocal := reciprocal_bounds year
  have hproduct := exceptions_bounds year
  -- the first factor is zero or one, so the product of two is no larger than the second
  have hpair : 0 ≤ meanMoon year / 28 * (29 / (meanMoon year + 1)) ∧
      meanMoon year / 28 * (29 / (meanMoon year + 1)) ≤ 29 := by
    rcases late_cases year with hzero | hone
    · rw [hzero, Int.zero_mul]
      decide
    · rw [hone, Int.one_mul]
      exact hreciprocal
  simp only [Formulas.exceptions, exact_add, exact_sub, exact_mul, exact_div, exact_ofNat,
    value_add, value_sub, value_mul, value_div, value_ofNat, value_golden, value_meanMoon, Fits,
    hgolden, hmoon, true_and, and_true] at hproduct ⊢
  omega

theorem exact_fullMoon : Formulas.fullMoon.Exact year := by
  have hmoon := exact_meanMoon hyear
  have hexceptions := exact_exceptions hyear
  have hday := meanMoon_bounds year
  have hproduct := exceptions_bounds year
  simp only [Formulas.fullMoon, exact_sub, exact_mul, exact_div, exact_ofNat, value_sub, value_mul,
    value_div, value_ofNat, value_meanMoon, Fits, hmoon, hexceptions,
    true_and, and_true]
  rcases late_cases year with hzero | hone
  · rw [hzero, Int.zero_mul]
    omega
  · rw [hone, Int.one_mul]
    omega

theorem exact_fullMoonWeekday : Formulas.fullMoonWeekday.Exact year := by
  have hmoon := exact_fullMoon hyear
  have hcentury := exact_century hyear
  have hcenturies := century_bounds hyear
  have hday := fullMoon_bounds year
  simp only [Formulas.fullMoonWeekday, exact_add, exact_sub, exact_div, exact_mod, exact_year,
    exact_ofNat, value_add, value_sub, value_div, value_year, value_ofNat, value_fullMoon,
    value_century, Fits, hmoon, hcentury, true_and, and_true]
  omega

theorem exact_dayOfMarch : Formulas.dayOfMarch.Exact year := by
  have hmoon := exact_fullMoon hyear
  have hweekday := exact_fullMoonWeekday hyear
  have hday := fullMoon_bounds year
  have hweek := fullMoonWeekday_bounds year
  simp only [Formulas.dayOfMarch, exact_add, exact_sub, exact_ofNat, value_sub, value_ofNat,
    value_fullMoon, value_fullMoonWeekday, Fits, hmoon, hweekday, true_and, and_true]
  omega

theorem exact_dayOfApril : Formulas.dayOfApril.Exact year := by
  have hmarch := exact_dayOfMarch hyear
  have hday := dayOfMarch_bounds year
  simp only [Formulas.dayOfApril, exact_sub, exact_ofNat, value_ofNat, value_dayOfMarch, Fits,
    hmarch, true_and]
  omega

end

/-! ## The day that is named -/

/-- Easter is named by its day of March, or by its day of April if March has no such day. -/
theorem view_of_easterSunday {year : Int} {easter : Date} (h : easterSunday year = some easter) :
    (firstYear ≤ year ∧ year ≤ lastYear) ∧ easter.year = year ∧
      (easter.month = 3 ∧ (22 ≤ easter.day ∧ easter.day ≤ 31) ∧ dayOfMarch year = easter.day ∨
        easter.month = 4 ∧ (1 ≤ easter.day ∧ easter.day ≤ 25) ∧
          dayOfMarch year - 31 = easter.day) := by
  have hday := dayOfMarch_bounds year
  unfold easterSunday at h
  split at h
  · next hyear =>
    refine ⟨hyear, ?_⟩
    split at h
    · next hlate =>
      obtain ⟨hsame, hmonth, hnamed⟩ := view_of_ofYearMonthDay? h
      exact ⟨hsame, Or.inr ⟨hmonth, by omega, by omega⟩⟩
    · next hearly =>
      obtain ⟨hsame, hmonth, hnamed⟩ := view_of_ofYearMonthDay? h
      exact ⟨hsame, Or.inl ⟨hmonth, by omega, by omega⟩⟩
  · cases h

end Easter

open Easter

/--
**Easter is computed safely in 32 bits.**

Of all years that 32 bits can hold, those from 1583 to the end of the calendar have an Easter. In
them every value on the way fits, no dividend is negative and every divisor is positive, so the
machine finds the day that is meant: from 22 to 31 in March or from 1 to 25 in April of the same
year. There are Easters on the first and on the last of these days.
-/
theorem easterSunday_isSafe (year : Int32) :
    ((∃ easter, easterSunday year.toInt = some easter) ↔
      1583 ≤ year.toInt ∧ year.toInt ≤ 262142) ∧
    (1583 ≤ year.toInt ∧ year.toInt ≤ 262142 →
      (Formulas.dayOfMarch.Exact year.toInt ∧ Formulas.dayOfApril.Exact year.toInt) ∧
      ∃ easter, easterSunday year.toInt = some easter ∧ easter.year = year.toInt ∧
        (easter.month = 3 ∧ (22 ≤ easter.day ∧ easter.day ≤ 31) ∧
            (Formulas.dayOfMarch.run year).toInt = easter.day ∨
          easter.month = 4 ∧ (1 ≤ easter.day ∧ easter.day ≤ 25) ∧
            (Formulas.dayOfApril.run year).toInt = easter.day)) ∧
    (∃ year easter, easterSunday year = some easter ∧ easter.month = 3 ∧ easter.day = 22) ∧
    ∃ year easter, easterSunday year = some easter ∧ easter.month = 4 ∧ easter.day = 25 := by
  refine ⟨⟨?_, ?_⟩, ?_, ?_, ?_⟩
  · rintro ⟨easter, heaster⟩
    exact (view_of_easterSunday heaster).1
  · intro hyear
    obtain ⟨easter, heaster, -⟩ := exists_easterSunday hyear
    exact ⟨easter, heaster⟩
  · intro hyear
    have hmarch := exact_dayOfMarch hyear
    have hapril := exact_dayOfApril hyear
    obtain ⟨easter, heaster, -⟩ := exists_easterSunday hyear
    obtain ⟨-, hsame, hview⟩ := view_of_easterSunday heaster
    refine ⟨⟨hmarch, hapril⟩, easter, heaster, hsame, ?_⟩
    rw [Formula.toInt_run hmarch, Formula.toInt_run hapril]
    exact hview
  · exact ⟨1818, ⟨664091, by decide, by decide⟩, by decide, by decide, by decide⟩
  · exact ⟨1943, ⟨709780, by decide, by decide⟩, by decide, by decide, by decide⟩

/-- The last year of the calendar, where the sums are largest, still has its Easter, and the year
after it has none. -/
theorem easterSunday_isSafe_lastYear :
    ((1583 ≤ (262142 : Int32).toInt ∧ (262142 : Int32).toInt ≤ 262142) ∧
      (Formulas.dayOfMarch.Exact 262142 ∧ Formulas.dayOfApril.Exact 262142) ∧
      ∃ easter, easterSunday 262142 = some easter ∧ easter.year = 262142 ∧
        (easter.month = 3 ∧ (22 ≤ easter.day ∧ easter.day ≤ 31) ∧
            (Formulas.dayOfMarch.run 262142).toInt = easter.day ∨
          easter.month = 4 ∧ (1 ≤ easter.day ∧ easter.day ≤ 25) ∧
            (Formulas.dayOfApril.run 262142).toInt = easter.day)) ∧
    ¬ ∃ easter, easterSunday 262143 = some easter := by
  have hlast : 1583 ≤ (262142 : Int32).toInt ∧ (262142 : Int32).toInt ≤ 262142 := by decide
  obtain ⟨-, hsafe, -⟩ := easterSunday_isSafe 262142
  obtain ⟨hnext, -⟩ := easterSunday_isSafe 262143
  refine ⟨⟨hlast, hsafe hlast⟩, ?_⟩
  intro h
  exact absurd (hnext.1 h).2 (by decide)

end Almanac
