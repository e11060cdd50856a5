import Almanac.Proofs.Date.Week
import Almanac.Rule.Basic
import Mathlib.Order.Bounds.Basic

/-!
# Walking to a weekday

A rule for a weekday near a date means a walk: from the date on, one day after the other, until the
weekday comes. What is computed is a remainder, and no day in between is looked at. This file says
that both end on the same day, the nearest one with the weekday in the direction of the rule.

A walk is about day numbers and not about dates, because it may have to leave the calendar before
the weekday comes. The rule has no date then.
-/

namespace Almanac

/-- How far one step in the direction leads. -/
def Direction.step : Direction → Int
  | before => -1
  | after => 1

/-- How many steps it takes from one weekday to the other, none if they are the same. -/
def Direction.steps (direction : Direction) (start target : Weekday) : Nat :=
  match direction with
  | before => target.daysUntil start
  | after => start.daysUntil target

/-- From `start` on, going day by day, the weekday comes first on `found`. -/
inductive Walk (weekday : Weekday) (direction : Direction) : Int → Int → Prop
  | arrived {start : Int} (onWeekday : Date.weekdayOf start = weekday) :
      Walk weekday direction start start
  | onward {start found : Int} (other : Date.weekdayOf start ≠ weekday)
      (rest : Walk weekday direction (start + direction.step) found) :
      Walk weekday direction start found

/-- Of the days in the direction of `start`, which is one of them, `found` is the nearest that falls
on the weekday. -/
def IsNearest (weekday : Weekday) (direction : Direction) (start found : Int) : Prop :=
  match direction with
  | .before => IsGreatest {day | day ≤ start ∧ Date.weekdayOf day = weekday} found
  | .after => IsLeast {day | start ≤ day ∧ Date.weekdayOf day = weekday} found

variable {weekday : Weekday} {direction : Direction}

/-! ## Where a walk ends -/

theorem isNearest_here {start : Int} (honWeekday : Date.weekdayOf start = weekday) :
    IsNearest weekday direction start start := by
  cases direction with
  | before => exact ⟨⟨Int.le_refl start, honWeekday⟩, fun day hday => hday.1⟩
  | after => exact ⟨⟨Int.le_refl start, honWeekday⟩, fun day hday => hday.1⟩

/-- A step that leaves a day with another weekday does not change what is nearest. -/
theorem isNearest_step {start found : Int} (hother : Date.weekdayOf start ≠ weekday)
    (h : IsNearest weekday direction (start + direction.step) found) :
    IsNearest weekday direction start found := by
  -- the day that is left is none with the weekday, so the bound moves by a step
  have hne : ∀ day : Int, Date.weekdayOf day = weekday → day ≠ start := by
    rintro day hday rfl
    exact hother hday
  cases direction with
  | before =>
      obtain ⟨⟨hle, honWeekday⟩, hbound⟩ := h
      simp only [Direction.step] at hle hbound
      refine ⟨⟨by omega, honWeekday⟩, ?_⟩
      rintro day ⟨hday, hdayOn⟩
      have hleft := hne day hdayOn
      exact hbound ⟨by omega, hdayOn⟩
  | after =>
      obtain ⟨⟨hle, honWeekday⟩, hbound⟩ := h
      simp only [Direction.step] at hle hbound
      refine ⟨⟨by omega, honWeekday⟩, ?_⟩
      rintro day ⟨hday, hdayOn⟩
      have hleft := hne day hdayOn
      exact hbound ⟨by omega, hdayOn⟩

/-- **A walk ends on the nearest day with the weekday.** -/
theorem Walk.isNearest {start found : Int} (h : Walk weekday direction start found) :
    IsNearest weekday direction start found := by
  induction h with
  | arrived onWeekday => exact isNearest_here onWeekday
  | onward other _ ih => exact isNearest_step other ih

/-! ## How long a walk is -/

theorem Direction.steps_self (direction : Direction) (weekday : Weekday) :
    direction.steps weekday weekday = 0 := by
  cases direction <;> cases weekday <;> rfl

theorem Direction.steps_lt (direction : Direction) (start target : Weekday) :
    direction.steps start target < 7 := by
  cases direction with
  | before => exact target.daysUntil_lt start
  | after => exact start.daysUntil_lt target

/-- Within a week the weekday comes after so many steps, and on no other day. -/
theorem weekdayOf_steps_iff {start : Int} {k : Nat} (hk : k < 7) :
    Date.weekdayOf (start + direction.step * k) = weekday ↔
      k = direction.steps (Date.weekdayOf start) weekday := by
  have hstart := Date.weekdayOf_index start
  have htarget := weekday.index_lt
  rw [Date.weekdayOf_eq_iff]
  cases direction with
  | before =>
      simp only [Direction.step, Direction.steps, Weekday.daysUntil]
      omega
  | after =>
      simp only [Direction.step, Direction.steps, Weekday.daysUntil]
      omega

theorem walk_of_steps {start : Int} {k : Nat}
    (harrives : Date.weekdayOf (start + direction.step * k) = weekday)
    (hbefore : ∀ j < k, Date.weekdayOf (start + direction.step * j) ≠ weekday) :
    Walk weekday direction start (start + direction.step * k) := by
  induction k generalizing start with
  | zero =>
      have hhere : start + direction.step * (0 : Nat) = start := by simp
      rw [hhere] at harrives ⊢
      exact .arrived harrives
  | succ k ih =>
      -- what is ahead of the first step is what is ahead of the day that it leads to
      have hshift : ∀ j : Nat, start + direction.step * (j + 1 : Nat) =
          start + direction.step + direction.step * j := by
        intro j
        rw [Int.natCast_succ, Int.mul_add, Int.mul_one]
        omega
      rw [hshift] at harrives ⊢
      refine .onward ?_ (ih harrives ?_)
      · have hhere := hbefore 0 (by omega)
        simpa using hhere
      · intro j hj
        rw [← hshift]
        exact hbefore (j + 1) (by omega)

/-- **Every walk ends**, and the weekdays tell after how many steps. -/
theorem walk_steps (weekday : Weekday) (direction : Direction) (start : Int) :
    Walk weekday direction start
      (start + direction.step * direction.steps (Date.weekdayOf start) weekday) := by
  have hweek := direction.steps_lt (Date.weekdayOf start) weekday
  refine walk_of_steps ((weekdayOf_steps_iff hweek).2 rfl) ?_
  intro j hj hearly
  have hsame := (weekdayOf_steps_iff (by omega)).1 hearly
  omega

/-! ## What the rule computes -/

namespace Rule

/-- The rule takes all steps at once. -/
theorem resolve_nearDate {month day : Nat} {year : Int} {anchor : Date}
    (hanchor : Date.ofYearMonthDay? year month day = some anchor) :
    (nearDate weekday direction month day).resolve year =
      anchor.addDays? (direction.step * direction.steps anchor.weekday weekday) := by
  simp only [resolve, hanchor]
  cases direction with
  | before =>
      simp only [Direction.step, Direction.steps]
      rw [Int.neg_mul, Int.one_mul]
  | after =>
      simp only [Direction.step, Direction.steps]
      rw [Int.one_mul]

theorem resolve_nearDate_of_no_anchor {month day : Nat} {year : Int}
    (hanchor : Date.ofYearMonthDay? year month day = none) :
    (nearDate weekday direction month day).resolve year = none := by
  simp only [resolve, hanchor]

theorem resolve_nearDate_eq_some_iff {month day : Nat} {year : Int} {date : Date} :
    (nearDate weekday direction month day).resolve year = some date ↔
      ∃ anchor, Date.ofYearMonthDay? year month day = some anchor ∧
        date.dayNumber =
          anchor.dayNumber + direction.step * direction.steps anchor.weekday weekday := by
  cases hanchor : Date.ofYearMonthDay? year month day with
  | none => simp [resolve_nearDate_of_no_anchor hanchor]
  | some anchor => simp [resolve_nearDate hanchor, Date.addDays?, ofDayNumber?_eq_some]

/--
**A weekday near a date is found by walking to it.**

Without the date there is nothing to walk from, and the rule has no date either. From every other
date the walk ends within six days, on the nearest day with the weekday, which is the date itself if
it has the weekday. The rule gives that day, and it gives none exactly if the walk has left the
calendar.
-/
theorem resolve_nearDate_walk (weekday : Weekday) (direction : Direction) (month day : Nat)
    (year : Int) :
    ((¬ ∃ anchor : Date, anchor.year = year ∧ anchor.month = month ∧ anchor.day = day) →
      (nearDate weekday direction month day).resolve year = none) ∧
    ∀ anchor : Date, anchor.year = year ∧ anchor.month = month ∧ anchor.day = day →
      ∃ found : Int, Walk weekday direction anchor.dayNumber found ∧
        IsNearest weekday direction anchor.dayNumber found ∧
        (anchor.weekday = weekday → found = anchor.dayNumber) ∧
        (found - anchor.dayNumber).natAbs ≤ 6 ∧
        (∀ date, (nearDate weekday direction month day).resolve year = some date ↔
          date.dayNumber = found) ∧
        ((nearDate weekday direction month day).resolve year = none ↔
          found < firstDay ∨ lastDay < found) := by
  refine ⟨?_, ?_⟩
  · intro hnone
    apply resolve_nearDate_of_no_anchor
    rw [Option.eq_none_iff_forall_ne_some]
    intro anchor hanchor
    exact hnone ⟨anchor, view_of_ofYearMonthDay? hanchor⟩
  · intro anchor hview
    -- the walk makes as many steps as the rule counts days
    have hanchor := ofYearMonthDay?_eq_some_iff.2 hview
    have hwalk := walk_steps weekday direction anchor.dayNumber
    have hweek := direction.steps_lt anchor.weekday weekday
    refine ⟨_, hwalk, hwalk.isNearest, ?_, ?_, ?_, ?_⟩
    · intro hsame
      show anchor.dayNumber + direction.step * direction.steps anchor.weekday weekday = _
      rw [hsame, direction.steps_self]
      simp
    · show (anchor.dayNumber + direction.step * direction.steps anchor.weekday weekday -
        anchor.dayNumber).natAbs ≤ 6
      cases direction with
      | before => simp only [Direction.step]; omega
      | after => simp only [Direction.step]; omega
    · -- the calendar has a date for exactly the days within its ends
      intro date
      rw [resolve_nearDate hanchor]
      exact ofDayNumber?_eq_some
    · rw [resolve_nearDate hanchor]
      exact ofDayNumber?_eq_none_iff

/-- A walk back over the leap day, a walk from a leap day that does not exist, and one that leaves
the calendar at its end. -/
theorem resolve_nearDate_walk_leapDay :
    let monday : Date := ⟨737851, by decide, by decide⟩
    let last : Date := ⟨95745764, by decide, by decide⟩
    ((monday.year = 2020 ∧ monday.month = 3 ∧ monday.day = 2) ∧
      (nearDate .saturday .before 3 2).resolve 2020 = Date.ofYearMonthDay? 2020 2 29 ∧
      ∃ found, Walk .saturday .before monday.dayNumber found ∧
        IsNearest .saturday .before monday.dayNumber found ∧
        ∀ date, (nearDate .saturday .before 3 2).resolve 2020 = some date ↔
          date.dayNumber = found) ∧
    ((¬ ∃ anchor : Date, anchor.year = 2021 ∧ anchor.month = 2 ∧ anchor.day = 29) ∧
      (nearDate .saturday .before 2 29).resolve 2021 = none) ∧
    (last.year = 262142 ∧ last.month = 12 ∧ last.day = 31) ∧
      (nearDate .sunday .after 12 31).resolve 262142 = none ∧
      ∃ found, Walk .sunday .after last.dayNumber found ∧ (found < firstDay ∨ lastDay < found) := by
  intro monday last
  have hmonday : monday.year = 2020 ∧ monday.month = 3 ∧ monday.day = 2 := by decide
  have hlast : last.year = 262142 ∧ last.month = 12 ∧ last.day = 31 := by decide
  have hmissing : ¬ ∃ anchor : Date, anchor.year = 2021 ∧ anchor.month = 2 ∧ anchor.day = 29 := by
    rintro ⟨anchor, hview⟩
    have hanchor := ofYearMonthDay?_eq_some_iff.2 hview
    rw [show Date.ofYearMonthDay? 2021 2 29 = none by decide] at hanchor
    cases hanchor
  have hend : (nearDate .sunday .after 12 31).resolve 262142 = none := by decide
  obtain ⟨saturday, hback, hnearest, -, -, hresolve, -⟩ :=
    (resolve_nearDate_walk .saturday .before 3 2 2020).2 monday hmonday
  obtain ⟨sunday, honward, -, -, -, -, hnone⟩ :=
    (resolve_nearDate_walk .sunday .after 12 31 262142).2 last hlast
  exact ⟨⟨hmonday, by decide, saturday, hback, hnearest, hresolve⟩,
    ⟨hmissing, (resolve_nearDate_walk .saturday .before 2 29 2021).1 hmissing⟩,
    hlast, hend, sunday, honward, hnone.1 hend⟩

end Rule

end Almanac
