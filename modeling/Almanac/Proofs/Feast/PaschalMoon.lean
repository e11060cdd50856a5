import Almanac.Feast.Easter
import Almanac.Proofs.Date.Counting
import Almanac.Proofs.Date.Week

/-!
# Easter and the paschal moon

The church finds Easter from tables: the epact of the year gives the paschal full moon, and Easter
is the first Sunday after it. The computation by Gauss's method knows no epacts, it writes the two
exceptions of the tables as products of quotients, and it never looks at a weekday. This file says
that the two come to the same date in every year.

The epact and the moon of Gauss's method add up to 23 modulo 30, which gives the day of the moon
(`paschalDay_eq`). The days of a year up to March, counted modulo seven, give its weekday
(`fullMoonWeekday_eq`).
-/

namespace Almanac

namespace Easter

/-! ## The tables -/

/-- The age of the moon at the beginning of the year, by the year's place in the cycle of nineteen
years and the two corrections of its century, for the sun and for the moon. -/
def epact (year : Int) : Int :=
  (11 * (year % 19) + 8 - (year / 100 - year / 100 / 4) + (8 * (year / 100) + 13) / 25) % 30

/-- Two epacts are raised, so that no moon comes too late and none comes twice in the cycle. -/
def tableEpact (year : Int) : Int :=
  if epact year = 24 ∨ epact year = 25 ∧ 10 < year % 19 then epact year + 1 else epact year

/-- The day of the paschal full moon, counted from the first of March on. -/
def paschalDay (year : Int) : Int :=
  if 44 - tableEpact year < 21 then 44 - tableEpact year + 30 else 44 - tableEpact year

/-- The paschal full moon. -/
def paschalMoon? (year : Int) : Option Date :=
  match Date.ofYearMonthDay? year 3 1 with
  | some first => first.addDays? (paschalDay year - 1)
  | none => none

/-! ## The day of the moon -/

theorem golden_bounds (year : Int) : 0 ≤ golden year ∧ golden year < 19 :=
  ⟨Int.emod_nonneg _ (by decide), Int.emod_lt_of_pos _ (by decide)⟩

theorem epact_bounds (year : Int) : 0 ≤ epact year ∧ epact year < 30 :=
  ⟨Int.emod_nonneg _ (by decide), Int.emod_lt_of_pos _ (by decide)⟩

/-- The epact falls by one for every day that the moon is later. -/
theorem meanMoon_eq (year : Int) : meanMoon year = (23 - epact year) % 30 := by
  unfold meanMoon epact golden century
  omega

theorem meanMoon_bounds (year : Int) : 0 ≤ meanMoon year ∧ meanMoon year < 30 :=
  ⟨Int.emod_nonneg _ (by decide), Int.emod_lt_of_pos _ (by decide)⟩

/-- The products of quotients are the two exceptions. -/
theorem fullMoon_eq (year : Int) :
    fullMoon year =
      if meanMoon year = 29 ∨ meanMoon year = 28 ∧ 10 < golden year then meanMoon year - 1
      else meanMoon year := by
  obtain ⟨hgolden, hgolden'⟩ := golden_bounds year
  obtain ⟨hmoon, hmoon'⟩ := meanMoon_bounds year
  unfold fullMoon
  generalize meanMoon year = moon at hmoon hmoon' ⊢
  generalize golden year = place at hgolden hgolden' ⊢
  obtain hearly | rfl | rfl : moon < 28 ∨ moon = 28 ∨ moon = 29 := by omega
  · have hzero : moon / 28 = 0 := by omega
    rw [hzero, Int.zero_mul, Int.sub_zero, if_neg (by omega)]
  · -- the quotient tells the first eleven years of the cycle from the other eight
    by_cases hlate : 10 < place
    · have hquotient : (21 - place) / 11 = 0 := by omega
      rw [hquotient, if_pos (by omega)]
      decide
    · have hquotient : (21 - place) / 11 = 1 := by omega
      rw [hquotient, if_neg (by omega)]
      decide
  · rw [if_pos (by omega)]
    simp

/-- **The tables and the computation have the same moon.** -/
theorem paschalDay_eq (year : Int) : paschalDay year = 21 + fullMoon year := by
  obtain ⟨hepact, hepact'⟩ := epact_bounds year
  rw [fullMoon_eq, meanMoon_eq]
  unfold paschalDay tableEpact
  unfold golden
  generalize epact year = moon at hepact hepact' ⊢
  -- an epact is raised where a moon is put a day earlier, and the other moons fit as they are
  by_cases hraised : moon = 24 ∨ moon = 25 ∧ 10 < year % 19
  · have hmean : (23 - moon) % 30 = 29 ∨ (23 - moon) % 30 = 28 ∧ 10 < year % 19 := by omega
    rw [if_pos hraised, if_pos hmean, if_pos (by omega)]
    omega
  · have hmean : ¬ ((23 - moon) % 30 = 29 ∨ (23 - moon) % 30 = 28 ∧ 10 < year % 19) := by omega
    rw [if_neg hraised, if_neg hmean]
    split
    · omega
    · omega

theorem fullMoon_bounds (year : Int) : 0 ≤ fullMoon year ∧ fullMoon year ≤ 28 := by
  have hbounds := meanMoon_bounds year
  rw [fullMoon_eq]
  split
  · omega
  · omega

/-! ## The weekday of the moon -/

/-- The number of the day of the full moon. -/
def moonNumber (year : Int) : Int :=
  daysBeforeYear year + daysBeforeMonth (isLeap year) 3 + paschalDay year - 1

/-- **The weekday that is computed is that of the moon**, counted from Sunday, since day 1 was a
Sunday. -/
theorem fullMoonWeekday_eq (year : Int) : fullMoonWeekday year = (moonNumber year - 1) % 7 := by
  unfold moonNumber
  rw [daysBeforeMarch, paschalDay_eq]
  unfold fullMoonWeekday century
  have hcenturies : year / 100 / 4 = year / 400 := by omega
  rw [hcenturies]
  generalize fullMoon year = moon
  omega

theorem fullMoonWeekday_bounds (year : Int) :
    0 ≤ fullMoonWeekday year ∧ fullMoonWeekday year < 7 :=
  ⟨Int.emod_nonneg _ (by decide), Int.emod_lt_of_pos _ (by decide)⟩

/-! ## The dates -/

/-- The days of March and April can be counted through, whichever of the two they belong to. -/
theorem exists_date_from_march {year : Int} (day : Int)
    (hyear : Almanac.firstYear ≤ year ∧ year ≤ lastYear) (hday : 1 ≤ day ∧ day ≤ 61) :
    ∃ date : Date,
      (if 31 < day then Date.ofYearMonthDay? year 4 (day - 31).toNat
        else Date.ofYearMonthDay? year 3 day.toNat) = some date ∧
      date.dayNumber = daysBeforeYear year + daysBeforeMonth (isLeap year) 3 + day - 1 := by
  have hmarch : lengthOf (isLeap year) 3 = 31 := by cases isLeap year <;> rfl
  have hapril : lengthOf (isLeap year) 4 = 30 := by cases isLeap year <;> rfl
  have hsucc : daysBeforeMonth (isLeap year) 4 =
      daysBeforeMonth (isLeap year) 3 + lengthOf (isLeap year) 3 := daysBeforeMonth_succ _ 3
  split
  · next hlate =>
    obtain ⟨date, hdate, hnumber⟩ :=
      exists_ofYearMonthDay? 4 (day - 31).toNat hyear (by decide) (by omega)
    exact ⟨date, hdate, by omega⟩
  · next hearly =>
    obtain ⟨date, hdate, hnumber⟩ :=
      exists_ofYearMonthDay? 3 day.toNat hyear (by decide) (by omega)
    exact ⟨date, hdate, by omega⟩

theorem exists_paschalMoon? {year : Int} (hyear : Almanac.firstYear ≤ year ∧ year ≤ lastYear) :
    ∃ moon : Date, paschalMoon? year = some moon ∧ moon.dayNumber = moonNumber year := by
  have hbounds := fullMoon_bounds year
  have hday := paschalDay_eq year
  obtain ⟨first, hfirst, hnumber⟩ := exists_date_from_march 1 hyear (by decide)
  obtain ⟨moon, -, hmoon⟩ := exists_date_from_march (paschalDay year) hyear (by omega)
  refine ⟨moon, ?_, hmoon⟩
  unfold paschalMoon?
  rw [show Date.ofYearMonthDay? year 3 1 = some first from hfirst]
  apply ofDayNumber?_eq_some.2
  rw [hmoon, hnumber]
  omega

/-- Easter is as many days before the day a week after the moon as the moon is after a Sunday. -/
theorem exists_easterSunday {year : Int} (hyear : firstYear ≤ year ∧ year ≤ lastYear) :
    ∃ easter : Date, easterSunday year = some easter ∧
      easter.dayNumber = moonNumber year + 7 - fullMoonWeekday year := by
  have hmoon := fullMoon_bounds year
  have hweek := fullMoonWeekday_bounds year
  have hcalendar : Almanac.firstYear ≤ year := by
    have hreform : Almanac.firstYear ≤ firstYear := by decide
    omega
  obtain ⟨easter, heaster, hnumber⟩ :=
    exists_date_from_march (dayOfMarch year) ⟨hcalendar, hyear.2⟩
      (by unfold dayOfMarch; omega)
  refine ⟨easter, ?_, ?_⟩
  · unfold easterSunday
    rw [if_pos hyear, heaster]
  · rw [hnumber]
    unfold moonNumber dayOfMarch
    rw [paschalDay_eq]
    omega

/-- Easter is never before 22 March and never after 25 April. -/
theorem dayNumber_bounds {year : Int} {easter : Date} (h : easterSunday year = some easter) :
    daysBeforeYear year + daysBeforeMonth (isLeap year) 3 + 21 ≤ easter.dayNumber ∧
      easter.dayNumber ≤ daysBeforeYear year + daysBeforeMonth (isLeap year) 3 + 55 := by
  by_cases hyear : firstYear ≤ year ∧ year ≤ lastYear
  · obtain ⟨found, hfound, hnumber⟩ := exists_easterSunday hyear
    have hsame : easter = found := Option.some.inj (h.symm.trans hfound)
    have hmoon := fullMoon_bounds year
    have hweek := fullMoonWeekday_bounds year
    have hday := paschalDay_eq year
    unfold moonNumber at hnumber
    rw [hsame]
    omega
  · unfold easterSunday at h
    rw [if_neg hyear] at h
    cases h

end Easter

/--
**Easter is the first Sunday after the paschal full moon.**

From the Gregorian reform to the end of the calendar every year has the moon of its epact and an
Easter, and Easter is the first Sunday that comes after the moon, a week later if the moon itself is
on a Sunday.
-/
theorem easterSunday_isFirstAfter {year : Int} (hfirst : 1583 ≤ year) (hlast : year ≤ 262142) :
    ∃ moon easter, Easter.paschalMoon? year = some moon ∧ easterSunday year = some easter ∧
      Date.IsFirstAfter .sunday moon easter := by
  have hreform : Easter.firstYear ≤ year ∧ year ≤ lastYear := ⟨hfirst, hlast⟩
  have hcalendar : firstYear ≤ year ∧ year ≤ lastYear := by
    unfold firstYear lastYear
    omega
  have hweek := Easter.fullMoonWeekday_bounds year
  obtain ⟨moon, hmoon, hmoonNumber⟩ := Easter.exists_paschalMoon? hcalendar
  obtain ⟨easter, heaster, hnumber⟩ := Easter.exists_easterSunday hreform
  have hsunday : easter.weekday = .sunday := by
    rw [Date.weekday_eq_iff, hnumber, Easter.fullMoonWeekday_eq]
    show _ = (6 : Int)
    omega
  exact ⟨moon, easter, hmoon, heaster, Date.isFirstAfter_of_le hsunday (by omega) (by omega)⟩

/-- Both exceptions at work: the moons of 1954 and of 1981 come a day earlier than their epacts say,
on a Saturday, and without that the two years would have kept Easter a week later. -/
theorem easterSunday_isFirstAfter_exceptions :
    (Easter.paschalMoon? 1954 = Date.ofYearMonthDay? 1954 4 17 ∧
      easterSunday 1954 = Date.ofYearMonthDay? 1954 4 18 ∧
      ∃ moon easter, Easter.paschalMoon? 1954 = some moon ∧ easterSunday 1954 = some easter ∧
        Date.IsFirstAfter .sunday moon easter) ∧
    Easter.paschalMoon? 1981 = Date.ofYearMonthDay? 1981 4 18 ∧
      easterSunday 1981 = Date.ofYearMonthDay? 1981 4 19 ∧
      ∃ moon easter, Easter.paschalMoon? 1981 = some moon ∧ easterSunday 1981 = some easter ∧
        Date.IsFirstAfter .sunday moon easter :=
  ⟨⟨by decide, by decide, easterSunday_isFirstAfter (by decide) (by decide)⟩,
    by decide, by decide, easterSunday_isFirstAfter (by decide) (by decide)⟩

end Almanac
