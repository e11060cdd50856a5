import Almanac.Proofs.Date.Naming

/-!
# Days by counting

The days of a year are counted month by month from a table, and the table knows leap years by a rule
on remainders. Neither is needed if years begin in March. The leap day is then the last day of the
year, and five months on end have 153 days, from March on as well as from August on. This file says
that both ways of counting give every day the same number (`dayNumber_eq_counted`), so the table has
the months as long as they are counted (`lengthOf_eq_counted`).

The rule and the table are also there in 32 bits, where the remainder of a negative year is
negative. It is zero for the same years, and nothing else of it counts (`Table.daysOfMonth?_eq`).
-/

namespace Almanac

/-! ## Years that begin in March -/

/-- The year that the month belongs to if years begin in March. -/
def yearFromMarch (year : Int) (month : Nat) : Int := if month ≤ 2 then year - 1 else year

/-- The days from the first of March to the first of the month. -/
def daysFromMarch (month : Nat) : Nat := (153 * ((month + 9) % 12) + 2) / 5

/-- The number of the day, counted by years from March to February and by blocks of five months. -/
def countedNumber (year : Int) (month day : Nat) : Int :=
  365 * yearFromMarch year month + yearFromMarch year month / 4 - yearFromMarch year month / 100 +
    yearFromMarch year month / 400 + daysFromMarch month + day + 59

/-- The number of the first day after the month, which may be in the next year. -/
def countedEnd (year : Int) (month : Nat) : Int :=
  if month = 12 then countedNumber (year + 1) 1 1 else countedNumber year (month + 1) 1

/-- The days before the first of March follow the simple count of leap years. -/
theorem daysBeforeMarch (year : Int) :
    daysBeforeYear year + daysBeforeMonth (isLeap year) 3 =
      365 * year + year / 4 - year / 100 + year / 400 + 60 := by
  have hmarch : daysBeforeMonth (isLeap year) 3 = if isLeap year then 60 else 59 := by
    cases isLeap year <;> rfl
  rw [hmarch]
  unfold daysBeforeYear
  split
  · next hleap =>
    rw [isLeap_iff] at hleap
    omega
  · next hleap =>
    rw [isLeap_iff] at hleap
    omega

/-- From March on the months begin after 153 days to five of them. -/
theorem daysBeforeMonth_fromMarch (leap : Bool) {month : Nat} (h : 3 ≤ month ∧ month ≤ 12) :
    daysBeforeMonth leap month = daysBeforeMonth leap 3 + daysFromMarch month := by
  have hmonths : ∀ m ≤ 12, 3 ≤ m →
      daysBeforeMonth leap m = daysBeforeMonth leap 3 + daysFromMarch m := by
    cases leap <;> decide
  exact hmonths month h.2 h.1

/-- **Both ways of counting give a day the same number.** -/
theorem dayNumber_eq_counted (year : Int) (month day : Nat) (hmonth : 1 ≤ month ∧ month ≤ 12) :
    daysBeforeYear year + daysBeforeMonth (isLeap year) month + day - 1 =
      countedNumber year month day := by
  have hjanuary : daysBeforeMonth (isLeap year) 1 = 0 := by cases isLeap year <;> rfl
  have hfebruary : daysBeforeMonth (isLeap year) 2 = 31 := by cases isLeap year <;> rfl
  unfold countedNumber yearFromMarch
  -- January and February belong to the year that has begun in the March before
  obtain rfl | rfl | hmarch : month = 1 ∨ month = 2 ∨ 3 ≤ month := by omega
  · rw [hjanuary, if_pos (by omega), show daysFromMarch 1 = 306 by rfl]
    unfold daysBeforeYear
    omega
  · rw [hfebruary, if_pos (by omega), show daysFromMarch 2 = 337 by rfl]
    unfold daysBeforeYear
    omega
  · have hbegin := daysBeforeMonth_fromMarch (isLeap year) ⟨hmarch, hmonth.2⟩
    have hyear := daysBeforeMarch year
    rw [if_neg (by omega)]
    omega

/-- **The table has the months as long as they are counted.** -/
theorem lengthOf_eq_counted (year : Int) {month : Nat} (hmonth : 1 ≤ month ∧ month ≤ 12) :
    (lengthOf (isLeap year) month : Int) = countedEnd year month - countedNumber year month 1 := by
  have hsucc := daysBeforeMonth_succ (isLeap year) month
  have hbegin := dayNumber_eq_counted year month 1 hmonth
  unfold countedEnd
  by_cases hlast : month = 12
  · subst hlast
    have hyear : daysBeforeMonth (isLeap year) (12 + 1) = daysOfYear year :=
      daysBeforeMonth_thirteen _
    have hnext := daysBeforeYear_succ year
    have hjanuary : daysBeforeMonth (isLeap (year + 1)) 1 = 0 := by
      cases isLeap (year + 1) <;> rfl
    have hend := dayNumber_eq_counted (year + 1) 1 1 (by omega)
    rw [if_pos rfl]
    omega
  · have hend := dayNumber_eq_counted year (month + 1) 1 (by omega)
    rw [if_neg hlast]
    omega

/-! ## The table in 32 bits -/

namespace Table

/-- The leap rule, where the remainder has the sign of the year. -/
def isLeap (year : Int32) : Bool := (year % 4 == 0 && year % 100 != 0) || year % 400 == 0

/-- The months of common years, from the empty month 0 on. -/
def commonLengths : List UInt32 := [0, 31, 28, 31, 30, 31, 30, 31, 31, 30, 31, 30, 31]

/-- The months of leap years, from the empty month 0 on. -/
def leapLengths : List UInt32 := [0, 31, 29, 31, 30, 31, 30, 31, 31, 30, 31, 30, 31]

/-- The length of month number `month`, if there is such a month. -/
def daysOfMonth? (year : Int32) (month : UInt32) : Option UInt32 :=
  (if isLeap year then leapLengths else commonLengths)[month.toNat]?

/-- The sign of a remainder does not matter if there is none. -/
theorem mod_beq_zero (year divisor : Int32) :
    (year % divisor == 0) = (year.toInt % divisor.toInt == 0) := by
  rw [Bool.eq_iff_iff, beq_iff_eq, beq_iff_eq, ← Int32.toInt_inj, Int32.toInt_mod]
  exact Int.dvd_iff_tmod_eq_zero.symm.trans Int.dvd_iff_emod_eq_zero

theorem isLeap_eq (year : Int32) : isLeap year = Almanac.isLeap year.toInt := by
  unfold isLeap Almanac.isLeap bne
  rw [mod_beq_zero, mod_beq_zero, mod_beq_zero]
  rfl

/-- **The table in 32 bits** has the same months. -/
theorem daysOfMonth?_eq (year : Int32) (month : UInt32) :
    (daysOfMonth? year month).map UInt32.toNat = Almanac.daysOfMonth? year.toInt month.toNat := by
  have hleap : leapLengths.map UInt32.toNat = monthLengths true := by rfl
  have hcommon : commonLengths.map UInt32.toNat = monthLengths false := by rfl
  unfold daysOfMonth? Almanac.daysOfMonth?
  rw [← List.getElem?_map, isLeap_eq]
  cases Almanac.isLeap year.toInt with
  | true => rw [if_pos rfl, hleap]
  | false => rw [if_neg (by decide), hcommon]

/-- The days that the table allows are those of the month. -/
theorem exists_length_iff {year : Int32} {month day : UInt32} :
    (∃ length, daysOfMonth? year month = some length ∧ day ≤ length) ↔
      month.toNat ≤ 12 ∧ day.toNat ≤ lengthOf (Almanac.isLeap year.toInt) month.toNat := by
  have hsame := daysOfMonth?_eq year month
  refine ⟨?_, ?_⟩
  · rintro ⟨length, hlength, hday⟩
    rw [hlength] at hsame
    obtain ⟨hmonth, hnumber⟩ := daysOfMonth?_eq_some_iff.1 hsame.symm
    rw [hnumber]
    exact ⟨hmonth, UInt32.le_iff_toNat_le.1 hday⟩
  · rintro ⟨hmonth, hday⟩
    rw [daysOfMonth?_eq_some_iff.2 ⟨hmonth, rfl⟩] at hsame
    obtain ⟨length, hlength, hnumber⟩ := Option.map_eq_some_iff.1 hsame
    rw [← hnumber] at hday
    exact ⟨length, hlength, UInt32.le_iff_toNat_le.2 hday⟩

end Table

end Almanac
