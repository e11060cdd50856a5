import Almanac.Proofs.Date.Naming

/-!
# Weekdays by counting

A weekday is a remainder of the day number (`weekdayOf_index`), so it comes back every seven days
and not before. `IsFirstAfter` is what that is good for: a date with the right weekday, one to seven
days after another date, is the first such date after it.
-/

namespace Almanac

theorem Weekday.index_ofIndex (n : Nat) : (ofIndex n).index = n % 7 := by
  have hlt : n % 7 < 7 := Nat.mod_lt n (by decide)
  unfold ofIndex
  generalize n % 7 = m at hlt
  match m with
  | 0 | 1 | 2 | 3 | 4 | 5 | 6 => rfl
  | m + 7 => omega

theorem Weekday.index_inj {a b : Weekday} (h : a.index = b.index) : a = b := by
  rw [← ofIndex_index a, h, ofIndex_index]

namespace Date

theorem lt_iff {a b : Date} : a < b ↔ a.dayNumber < b.dayNumber := Iff.rfl

theorem le_iff {a b : Date} : a ≤ b ↔ a.dayNumber ≤ b.dayNumber := Iff.rfl

/-- The weekday of the day with this number, be it inside the calendar or not. -/
def weekdayOf (n : Int) : Weekday := Weekday.ofIndex ((n + Weekday.saturday.index) % 7).toNat

/-- **A weekday is a remainder of the day number.** -/
theorem weekdayOf_index (n : Int) : ((weekdayOf n).index : Int) = (n + 5) % 7 := by
  unfold weekdayOf
  rw [Weekday.index_ofIndex]
  show (((n + 5) % 7).toNat % 7 : Nat) = (n + 5) % 7
  omega

theorem weekdayOf_eq_iff (n : Int) (weekday : Weekday) :
    weekdayOf n = weekday ↔ (n + 5) % 7 = weekday.index := by
  rw [← weekdayOf_index]
  refine ⟨?_, ?_⟩
  · intro h
    rw [h]
  · intro h
    exact Weekday.index_inj (Int.ofNat.inj h)

theorem weekday_index (date : Date) : (date.weekday.index : Int) = (date.dayNumber + 5) % 7 :=
  weekdayOf_index date.dayNumber

theorem weekday_eq_iff (date : Date) (weekday : Weekday) :
    date.weekday = weekday ↔ (date.dayNumber + 5) % 7 = weekday.index :=
  weekdayOf_eq_iff date.dayNumber weekday

/-- `found` is the first date after `date` that falls on `weekday`. -/
structure IsFirstAfter (weekday : Weekday) (date found : Date) : Prop where
  onWeekday : found.weekday = weekday
  after : date < found
  first : ∀ other : Date, other.weekday = weekday → date < other → found ≤ other

theorem isFirstAfter_of_le {weekday : Weekday} {date found : Date}
    (honWeekday : found.weekday = weekday) (hafter : date.dayNumber < found.dayNumber)
    (hweek : found.dayNumber ≤ date.dayNumber + 7) : IsFirstAfter weekday date found := by
  refine ⟨honWeekday, hafter, ?_⟩
  intro other hother hlater
  rw [lt_iff] at hlater
  rw [le_iff]
  -- the numbers of the two dates leave the same remainder, so they are whole weeks apart
  have hsame : (other.dayNumber + 5) % 7 = (found.dayNumber + 5) % 7 := by
    rw [← weekday_index, ← weekday_index, hother, honWeekday]
  omega

end Date

/-- The year of the calendar has all of its days. -/
theorem exists_ofYearMonthDay? {year : Int} (month day : Nat)
    (hyear : firstYear ≤ year ∧ year ≤ lastYear) (hmonth : 1 ≤ month ∧ month ≤ 12)
    (hday : 1 ≤ day ∧ day ≤ lengthOf (isLeap year) month) :
    ∃ date : Date, Date.ofYearMonthDay? year month day = some date ∧
      date.dayNumber = daysBeforeYear year + daysBeforeMonth (isLeap year) month + day - 1 := by
  have hsucc := daysBeforeMonth_succ (isLeap year) month
  have hwithin : daysBeforeMonth (isLeap year) (month + 1) ≤ daysOfYear year :=
    daysBeforeMonth_le (isLeap year) hmonth.2
  have hlow : daysBeforeYear firstYear ≤ daysBeforeYear year := daysBeforeYear_mono hyear.1
  have hhigh : daysBeforeYear year + daysOfYear year ≤ daysBeforeYear (lastYear + 1) := by
    rw [← daysBeforeYear_succ]
    exact daysBeforeYear_mono (by omega)
  have hfirst : firstDay ≤ daysBeforeYear year + daysBeforeMonth (isLeap year) month + day - 1 := by
    unfold firstDay
    omega
  have hlast : daysBeforeYear year + daysBeforeMonth (isLeap year) month + day - 1 ≤ lastDay := by
    unfold lastDay
    omega
  exact ⟨⟨_, hfirst, hlast⟩,
    ofYearMonthDay?_eq_some_iff_dayNumber.2 ⟨hmonth, hday, rfl⟩, rfl⟩

/-- The calendar has the days that the table allows, in all of its years. -/
theorem exists_date_iff {year : Int} {month day : Nat} :
    (∃ date, Date.ofYearMonthDay? year month day = some date) ↔
      (firstYear ≤ year ∧ year ≤ lastYear) ∧ (1 ≤ month ∧ month ≤ 12) ∧
        1 ≤ day ∧ day ≤ lengthOf (isLeap year) month := by
  refine ⟨?_, ?_⟩
  · rintro ⟨date, hdate⟩
    obtain ⟨hmonth, hday, -⟩ := ofYearMonthDay?_eq_some_iff_dayNumber.1 hdate
    obtain ⟨hyear, -⟩ := view_of_ofYearMonthDay? hdate
    rw [← hyear] at hday ⊢
    exact ⟨date.year_bounds, hmonth, hday⟩
  · rintro ⟨hyear, hmonth, hday⟩
    obtain ⟨date, hdate, -⟩ := exists_ofYearMonthDay? month day hyear hmonth hday
    exact ⟨date, hdate⟩

end Almanac
