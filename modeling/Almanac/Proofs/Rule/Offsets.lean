import Almanac.Feast.Easter
import Almanac.Proofs.Date.Naming
import Almanac.Rule.Basic
import Mathlib.Algebra.Group.Int.Defs
import Mathlib.Algebra.Group.Nat.Defs

/-!
# Offsets of 64 bits

An offset is a whole number of days, and adding it to the number of a date is all there is to it.
But days can also be counted on or back only, by numbers without a sign. The sign of an offset is
split off first then, and of the offsets of 64 bits the least has no opposite among them. This file
says that nothing is lost that way (`DayCounting.shift?_eq`), as long as counting is exact, and that
a rule with an offset is exact at every offset.
-/

namespace Almanac

/-- The first day of the calendar, as a date. -/
def Date.first : Date := ⟨firstDay, Int.le_refl firstDay, by decide⟩

/-- The last day of the calendar, as a date. -/
def Date.last : Date := ⟨lastDay, by decide, Int.le_refl lastDay⟩

/-! ## Splitting off the sign -/

/-- The offset without its sign. The absolute value of the least offset wraps around to that offset,
whose bits are the right ones for a number without a sign. -/
def magnitude (offset : Int64) : UInt64 := offset.abs.toUInt64

/-- **The sign is split off without a loss**, from the least offset too. -/
theorem toNat_magnitude (offset : Int64) : (magnitude offset).toNat = offset.toInt.natAbs := by
  have hbits := offset.toBitVec.isLt
  have hvalue := BitVec.toInt_eq_msb_cond offset.toBitVec
  rw [Int64.toInt_toBitVec] at hvalue
  show offset.toBitVec.abs.toNat = offset.toInt.natAbs
  rw [BitVec.toNat_abs, hvalue]
  split
  · omega
  · omega

/-! ## Counting days -/

/-- A way of counting days on and back, by any number of 64 bits. It finds the date that is so many
days away, and it fails only where the calendar has no such date. -/
structure DayCounting where
  later? : Date → UInt64 → Option Date
  earlier? : Date → UInt64 → Option Date
  later?_eq_some_iff : ∀ date days found,
    later? date days = some found ↔ found.dayNumber = date.dayNumber + days.toNat
  earlier?_eq_some_iff : ∀ date days found,
    earlier? date days = some found ↔ found.dayNumber = date.dayNumber - days.toNat

namespace DayCounting

/-- The date that is `offset` days later, by counting on, or back when the offset is negative. -/
def shift? (counting : DayCounting) (date : Date) (offset : Int64) : Option Date :=
  if 0 ≤ offset then counting.later? date (magnitude offset)
  else counting.earlier? date (magnitude offset)

theorem shift?_eq_some_iff (counting : DayCounting) (date : Date) (offset : Int64) (found : Date) :
    counting.shift? date offset = some found ↔
      found.dayNumber = date.dayNumber + offset.toInt := by
  have hmagnitude := toNat_magnitude offset
  have hsign : 0 ≤ offset ↔ 0 ≤ offset.toInt := Int64.le_iff_toInt_le
  unfold shift?
  by_cases h : 0 ≤ offset
  · have hforward := hsign.1 h
    rw [if_pos h, counting.later?_eq_some_iff]
    omega
  · have hback := mt hsign.2 h
    rw [if_neg h, counting.earlier?_eq_some_iff]
    omega

/-- **Counting is adding.** -/
theorem shift?_eq (counting : DayCounting) (date : Date) (offset : Int64) :
    counting.shift? date offset = date.addDays? offset.toInt := by
  apply Option.ext
  intro found
  rw [shift?_eq_some_iff, Date.addDays?, ofDayNumber?_eq_some]

/-- Counting that gives up at once on numbers beyond 31 bits. No two dates are that far apart. -/
def narrow : DayCounting where
  later? date days := if days.toNat < 2 ^ 31 then date.addDays? days.toNat else none
  earlier? date days := if days.toNat < 2 ^ 31 then date.addDays? (-days.toNat) else none
  later?_eq_some_iff date days found := by
    have hspan : lastDay - firstDay < 2 ^ 31 := by decide
    have hdate := date.first_le
    have hfound := found.le_last
    split
    · exact ofDayNumber?_eq_some
    · refine ⟨nofun, ?_⟩
      intro hnumber
      omega
  earlier?_eq_some_iff date days found := by
    have hspan : lastDay - firstDay < 2 ^ 31 := by decide
    have hdate := date.le_last
    have hfound := found.first_le
    split
    · exact ofDayNumber?_eq_some
    · refine ⟨nofun, ?_⟩
      intro hnumber
      omega

end DayCounting

/-! ## Rules with an offset -/

namespace Rule

/-- What counting makes of a feast and an offset. -/
def countFromFeast (counting : DayCounting) (feast : Feast) (offset : Int64) (year : Int) :
    Option Date :=
  match feast year with
  | some date => counting.shift? date offset
  | none => none

/-- The rule is resolved by counting. -/
theorem resolve_fromFeast_eq_count (counting : DayCounting) (name : String) (feast : Feast)
    (offset : Int64) (year : Int) :
    (fromFeast name feast offset.toInt).resolve year =
      countFromFeast counting feast offset year := by
  simp only [resolve, countFromFeast]
  cases feast year with
  | none => rfl
  | some date => exact (counting.shift?_eq date offset).symm

/--
**An offset is added exactly.**

However days are counted, as long as it is done exactly, the rule has no date in a year without its
feast. In every other year its date is the one whose number is that of the feast and the offset
together, and it has none exactly if the calendar does not reach that far.
-/
theorem resolve_fromFeast_exact (counting : DayCounting) (name : String) (feast : Feast)
    (offset : Int64) (year : Int) :
    ((Date.first.year = -262143 ∧ Date.first.month = 1 ∧ Date.first.day = 1) ∧
      Date.last.year = 262142 ∧ Date.last.month = 12 ∧ Date.last.day = 31) ∧
    (fromFeast name feast offset.toInt).resolve year = countFromFeast counting feast offset year ∧
    (feast year = none → (fromFeast name feast offset.toInt).resolve year = none) ∧
    ∀ date, feast year = some date →
      (∀ found, (fromFeast name feast offset.toInt).resolve year = some found ↔
        found.dayNumber = date.dayNumber + offset.toInt) ∧
      ((fromFeast name feast offset.toInt).resolve year = none ↔
        date.dayNumber + offset.toInt < Date.first.dayNumber ∨
          Date.last.dayNumber < date.dayNumber + offset.toInt) := by
  refine ⟨by decide, resolve_fromFeast_eq_count counting name feast offset year, ?_, ?_⟩
  · intro hnone
    simp only [resolve, hnone]
  · intro date hdate
    have hresolve : (fromFeast name feast offset.toInt).resolve year =
        date.addDays? offset.toInt := by
      simp only [resolve, hdate]
    rw [hresolve]
    refine ⟨?_, ?_⟩
    · intro found
      exact ofDayNumber?_eq_some
    · exact ofDayNumber?_eq_none_iff

/-- Good Friday, and Easter moved by the least offset, whose absolute value does not fit. -/
theorem resolve_fromFeast_exact_least :
    let easter : Date := ⟨736800, by decide, by decide⟩
    let friday : Date := ⟨736798, by decide, by decide⟩
    (easterSunday 2017 = some easter ∧
      (fromFeast "easter" easterSunday (-2 : Int64).toInt).resolve 2017 = some friday ∧
      countFromFeast .narrow easterSunday (-2) 2017 = some friday) ∧
    (easter.dayNumber + Int64.minValue.toInt < Date.first.dayNumber ∧
      (fromFeast "easter" easterSunday Int64.minValue.toInt).resolve 2017 = none ∧
      countFromFeast .narrow easterSunday Int64.minValue 2017 = none) ∧
    easterSunday 1582 = none ∧
      (fromFeast "easter" easterSunday (-2 : Int64).toInt).resolve 1582 = none := by
  intro easter friday
  have heaster : easterSunday 2017 = some easter := by decide
  have hbefore : easterSunday 1582 = none := by decide
  have hfar : easter.dayNumber + Int64.minValue.toInt < Date.first.dayNumber := by decide
  obtain ⟨-, -, hmissing, -⟩ := resolve_fromFeast_exact .narrow "easter" easterSunday (-2) 1582
  obtain ⟨-, hfriday, -, hdates⟩ := resolve_fromFeast_exact .narrow "easter" easterSunday (-2) 2017
  obtain ⟨-, hleast, -, hends⟩ :=
    resolve_fromFeast_exact .narrow "easter" easterSunday Int64.minValue 2017
  have hdate := ((hdates easter heaster).1 friday).2 (by decide)
  have hnone := (hends easter heaster).2.2 (Or.inl hfar)
  refine ⟨⟨heaster, hdate, ?_⟩, ⟨hfar, hnone, ?_⟩, hbefore, hmissing hbefore⟩
  · rw [← hfriday, hdate]
  · rw [← hleast, hnone]

end Rule

end Almanac
