import Almanac.Proofs.Rule.Walk

/-!
# The first weekday of a month

A rule for the first weekday of a month counts on from the first of the month and names the day that
it comes to. A rule for the weekday on or after the first of the month walks there, and does not
know that a month has an end. Both have the same date, because no month is shorter than a week: the
days of `IsInFirstWeek`, and of those there is one for every weekday.
-/

namespace Almanac

/-- The date falls on `weekday`, in the first week of this month of this year. -/
structure Date.IsInFirstWeek (year : Int) (month : Month) (weekday : Weekday) (date : Date) :
    Prop where
  year_eq : date.year = year
  month_eq : date.month = month.number
  weekday_eq : date.weekday = weekday
  day_le : date.day ≤ 7

/-! ## Months hold a week -/

theorem Month.number_bounds (month : Month) : 1 ≤ month.number ∧ month.number ≤ 12 := by
  cases month <;> decide

theorem Month.seven_le_lengthOf (month : Month) (leap : Bool) :
    7 ≤ lengthOf leap month.number := by
  cases leap <;> cases month <;> decide

/-- Within a month the days of the month count as the days of the calendar do. -/
theorem ofYearMonthDay?_add {year : Int} {month day k : Nat} {date : Date}
    (hdate : Date.ofYearMonthDay? year month day = some date)
    (hwithin : day + k ≤ lengthOf (isLeap year) month) :
    Date.ofYearMonthDay? year month (day + k) = date.addDays? k := by
  obtain ⟨hmonth, hday, hnumber⟩ := ofYearMonthDay?_eq_some_iff_dayNumber.1 hdate
  apply Option.ext
  intro later
  rw [ofYearMonthDay?_eq_some_iff_dayNumber, Date.addDays?, ofDayNumber?_eq_some]
  refine ⟨?_, ?_⟩
  · rintro ⟨-, -, hlater⟩
    omega
  · intro hlater
    exact ⟨hmonth, ⟨by omega, hwithin⟩, by omega⟩

/-- Days of a month count from one. -/
theorem Date.one_le_day (date : Date) : 1 ≤ date.day :=
  (ofYearMonthDay?_eq_some_iff_dayNumber.1 (ofYearMonthDay?_view date)).2.1.1

theorem exists_first_of_month {year : Int} (month : Month)
    (hyear : firstYear ≤ year ∧ year ≤ lastYear) :
    ∃ first : Date, Date.ofYearMonthDay? year month.number 1 = some first := by
  have hweek := month.seven_le_lengthOf (isLeap year)
  obtain ⟨first, hfirst, -⟩ :=
    exists_ofYearMonthDay? month.number 1 hyear month.number_bounds ⟨Nat.le_refl 1, by omega⟩
  exact ⟨first, hfirst⟩

namespace Rule

variable {weekday : Weekday} {month : Month} {year : Int}

/-! ## What the two rules compute -/

/-- What is counted to is a day of the month. -/
theorem resolve_firstInMonth {first : Date}
    (hfirst : Date.ofYearMonthDay? year month.number 1 = some first) :
    (firstInMonth weekday month).resolve year =
      first.addDays? (first.weekday.daysUntil weekday) := by
  have hweek := month.seven_le_lengthOf (isLeap year)
  have hsteps := first.weekday.daysUntil_lt weekday
  simp only [resolve, Date.firstWeekday?, hfirst]
  exact ofYearMonthDay?_add hfirst (by omega)

theorem resolve_firstInMonth_eq_nearDate (weekday : Weekday) (month : Month) (year : Int) :
    (firstInMonth weekday month).resolve year =
      (nearDate weekday .after month.number 1).resolve year := by
  cases hfirst : Date.ofYearMonthDay? year month.number 1 with
  | none =>
    rw [resolve_nearDate_of_no_anchor hfirst]
    simp only [resolve, Date.firstWeekday?, hfirst]
  | some first =>
    rw [resolve_firstInMonth hfirst, resolve_nearDate hfirst]
    simp only [Direction.step, Direction.steps, Int.one_mul]

/-! ## The date in the first week -/

/-- Of the seven days from `first` on, one falls on the weekday. -/
theorem weekday_addDays?_iff {first date : Date} {k : Nat} (hk : k < 7)
    (hdate : first.addDays? k = some date) :
    date.weekday = weekday ↔ k = first.weekday.daysUntil weekday := by
  have hnumber : date.dayNumber = first.dayNumber + k := ofDayNumber?_eq_some.1 hdate
  have hsteps : Date.weekdayOf (first.dayNumber + Direction.after.step * k) = weekday ↔
      k = Direction.after.steps first.weekday weekday := weekdayOf_steps_iff hk
  rw [Direction.step, Int.one_mul, ← hnumber] at hsteps
  exact hsteps

/-- Seen from the first of the month, the date in the first week is as far away as the weekdays
are. -/
theorem isInFirstWeek_iff {first date : Date}
    (hfirst : Date.ofYearMonthDay? year month.number 1 = some first) :
    date.IsInFirstWeek year month weekday ↔
      first.addDays? (first.weekday.daysUntil weekday) = some date := by
  have hweek := month.seven_le_lengthOf (isLeap year)
  have hsteps := first.weekday.daysUntil_lt weekday
  -- the days of the week are named by their distance from the first of the month
  have hname : ∀ k : Nat, k < 7 → (first.addDays? k = some date ↔
      date.year = year ∧ date.month = month.number ∧ date.day = 1 + k) := by
    intro k hk
    rw [← ofYearMonthDay?_add hfirst (by omega), ofYearMonthDay?_eq_some_iff]
  refine ⟨?_, ?_⟩
  · intro h
    have hle := h.day_le
    obtain ⟨k, hday⟩ : ∃ k, date.day = 1 + k := Nat.exists_eq_add_of_le date.one_le_day
    have hdate := (hname k (by omega)).2 ⟨h.year_eq, h.month_eq, hday⟩
    rw [← (weekday_addDays?_iff (by omega) hdate).1 h.weekday_eq]
    exact hdate
  · intro hdate
    obtain ⟨hyear, hmonth, hday⟩ := (hname _ hsteps).1 hdate
    exact ⟨hyear, hmonth, (weekday_addDays?_iff hsteps hdate).2 rfl, by omega⟩

/-- **The rule has the date in the first week**, and no other. -/
theorem resolve_firstInMonth_eq_some_iff {date : Date} :
    (firstInMonth weekday month).resolve year = some date ↔
      date.IsInFirstWeek year month weekday := by
  cases hfirst : Date.ofYearMonthDay? year month.number 1 with
  | some first => rw [resolve_firstInMonth hfirst, isInFirstWeek_iff hfirst]
  | none =>
    rw [resolve_firstInMonth_eq_nearDate, resolve_nearDate_of_no_anchor hfirst]
    refine ⟨?_, ?_⟩
    · intro h
      cases h
    · intro h
      -- the year of a date is one of the calendar, so the month has a first day
      obtain ⟨first, hsome⟩ := exists_first_of_month month date.year_bounds
      rw [h.year_eq, hfirst] at hsome
      cases hsome

/-- The first week has the first of all dates of the month that fall on the weekday. -/
theorem isInFirstWeek_le {date other : Date} (h : date.IsInFirstWeek year month weekday)
    (hyear : other.year = year) (hmonth : other.month = month.number)
    (hweekday : other.weekday = weekday) : date ≤ other := by
  rw [Date.le_iff]
  by_cases hweek : other.day ≤ 7
  · -- in the first week there is no other
    have hother := resolve_firstInMonth_eq_some_iff.2 ⟨hyear, hmonth, hweekday, hweek⟩
    rw [resolve_firstInMonth_eq_some_iff.2 h] at hother
    rw [Option.some.inj hother]
  · -- behind the first week the day of the month decides
    have hview := ofYearMonthDay?_view date
    have hotherView := ofYearMonthDay?_view other
    rw [h.year_eq, h.month_eq] at hview
    rw [hyear, hmonth] at hotherView
    obtain ⟨-, -, hnumber⟩ := ofYearMonthDay?_eq_some_iff_dayNumber.1 hview
    obtain ⟨-, -, hotherNumber⟩ := ofYearMonthDay?_eq_some_iff_dayNumber.1 hotherView
    have hday := h.day_le
    omega

theorem exists_resolve_firstInMonth (weekday : Weekday) (month : Month)
    (hyear : firstYear ≤ year ∧ year ≤ lastYear) :
    ∃ date, (firstInMonth weekday month).resolve year = some date := by
  obtain ⟨first, hfirst⟩ := exists_first_of_month month hyear
  have hweek := month.seven_le_lengthOf (isLeap year)
  have hsteps := first.weekday.daysUntil_lt weekday
  obtain ⟨date, hdate, -⟩ := exists_ofYearMonthDay? month.number
    (1 + first.weekday.daysUntil weekday) hyear month.number_bounds ⟨by omega, by omega⟩
  refine ⟨date, ?_⟩
  rw [resolve_firstInMonth hfirst, ← ofYearMonthDay?_add hfirst (by omega)]
  exact hdate

/--
**The first weekday of a month is the weekday on or after its first day.**

The two rules have the same date in every year. In the years of the calendar this is the one date of
the month that falls on the weekday and is among the first seven days of the month, and so the first
of all dates of the month that fall on the weekday; in all other years neither rule has a date.
-/
theorem resolve_firstInMonth_isInFirstWeek (weekday : Weekday) (month : Month) (year : Int) :
    (firstInMonth weekday month).resolve year =
      (nearDate weekday .after month.number 1).resolve year ∧
    (-262143 ≤ year ∧ year ≤ 262142 →
      ∃ date, (firstInMonth weekday month).resolve year = some date ∧
        date.IsInFirstWeek year month weekday ∧
        (∀ other : Date, other.IsInFirstWeek year month weekday → other = date) ∧
        ∀ other : Date, other.year = year → other.month = month.number →
          other.weekday = weekday → date ≤ other) ∧
    (year < -262143 ∨ 262142 < year →
      (firstInMonth weekday month).resolve year = none ∧
        (nearDate weekday .after month.number 1).resolve year = none) := by
  have hsame := resolve_firstInMonth_eq_nearDate weekday month year
  refine ⟨hsame, ?_, ?_⟩
  · intro hyear
    obtain ⟨date, hdate⟩ := exists_resolve_firstInMonth weekday month hyear
    have hweek := resolve_firstInMonth_eq_some_iff.1 hdate
    refine ⟨date, hdate, hweek, ?_, fun other => isInFirstWeek_le hweek⟩
    intro other hother
    rw [← resolve_firstInMonth_eq_some_iff, hdate] at hother
    exact (Option.some.inj hother).symm
  · intro hyear
    -- the date would have a year, and all of those are in the calendar
    have hnone : (firstInMonth weekday month).resolve year = none := by
      rw [Option.eq_none_iff_forall_ne_some]
      intro date hdate
      obtain ⟨rfl, -, -, -⟩ := resolve_firstInMonth_eq_some_iff.1 hdate
      have hbounds : -262143 ≤ date.year ∧ date.year ≤ 262142 := date.year_bounds
      omega
    exact ⟨hnone, hsame.symm.trans hnone⟩

/-- A Monday in September, a February that begins with the Sunday, and the years at the end of the
calendar and outside it. -/
theorem resolve_firstInMonth_isInFirstWeek_september :
    ((firstInMonth .monday .september).resolve 2017 = Date.ofYearMonthDay? 2017 9 4 ∧
      ∃ date, (firstInMonth .monday .september).resolve 2017 = some date ∧
        (∀ other : Date, other.IsInFirstWeek 2017 .september .monday → other = date) ∧
        ∀ other : Date, other.year = 2017 → other.month = 9 → other.weekday = .monday →
          date ≤ other) ∧
    ((firstInMonth .sunday .february).resolve 2032 = Date.ofYearMonthDay? 2032 2 1 ∧
      (firstInMonth .sunday .february).resolve 2032 = (nearDate .sunday .after 2 1).resolve 2032) ∧
    (∃ date : Date, (firstInMonth .saturday .december).resolve 262142 = some date ∧
      date.IsInFirstWeek 262142 .december .saturday) ∧
    (nearDate .saturday .after 1 1).resolve 262143 = none ∧
    (nearDate .saturday .after 12 1).resolve (-262144) = none := by
  obtain ⟨-, hseptember, -⟩ := resolve_firstInMonth_isInFirstWeek .monday .september 2017
  obtain ⟨hfebruary, -, -⟩ := resolve_firstInMonth_isInFirstWeek .sunday .february 2032
  obtain ⟨-, hlast, -⟩ := resolve_firstInMonth_isInFirstWeek .saturday .december 262142
  obtain ⟨-, -, hlate⟩ := resolve_firstInMonth_isInFirstWeek .saturday .january 262143
  obtain ⟨-, -, hearly⟩ := resolve_firstInMonth_isInFirstWeek .saturday .december (-262144)
  obtain ⟨monday, hmonday, -, honly, hfirst⟩ := hseptember ⟨by decide, by decide⟩
  obtain ⟨final, hend, hinside, -⟩ := hlast ⟨by decide, by decide⟩
  exact ⟨⟨by decide, monday, hmonday, honly, hfirst⟩, ⟨by decide, hfebruary⟩,
    ⟨final, hend, hinside⟩, (hlate (.inr (by decide))).2, (hearly (.inl (by decide))).2⟩

end Rule

end Almanac
