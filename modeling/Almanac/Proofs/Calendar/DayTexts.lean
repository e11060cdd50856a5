import Almanac.Calendar.Entry
import Almanac.Proofs.Rule.Canonical

/-!
# Texts of days

The text of a day is its date, a colon, its name and, in brackets, its kind. The name may be
anything: it can have colons and brackets of its own and end as if a kind stood there already. Still
the text tells the day. The date ends at the first colon, because a date has none; the kind is told
by the end, because neither kind ends as the other does; and the name is all that is in between. The
text of a date tells the date in turn, because a year is written as a number and what follows it
always takes the same space.
-/

namespace Almanac

/-! ## The text of a date -/

namespace Word

variable {word : String}

theorem Spells.ne_colon {digits : List Char} {n : Nat} (h : Spells digits n) :
    ∀ c ∈ digits, c ≠ ':' := by
  rintro c hc rfl
  exact absurd (h.ascii ':' hc) (by decide)

theorem IsNumber.ne_colon {n : Int} (h : IsNumber word n) : ∀ c ∈ word.toList, c ≠ ':' := by
  cases h with
  | unsigned digits => exact digits.ne_colon
  | plus sign digits =>
    rw [sign, List.forall_mem_cons]
    exact ⟨by decide, digits.ne_colon⟩
  | minus sign digits =>
    rw [sign, List.forall_mem_cons]
    exact ⟨by decide, digits.ne_colon⟩

theorem IsMonthDay.ne_colon {month day : Nat} (h : IsMonthDay word month day) :
    ∀ c ∈ word.toList, c ≠ ':' := by
  obtain ⟨months, days, hword, ⟨-, hmonths⟩, -, hdays⟩ := h
  rw [hword, List.forall_mem_append, List.forall_mem_cons]
  exact ⟨hmonths.ne_colon, by decide, hdays.ne_colon⟩

theorem IsMonthDay.length_eq {month day : Nat} (h : IsMonthDay word month day) :
    word.toList.length = 5 := by
  obtain ⟨months, days, hword, ⟨hmonths, -⟩, hdays, -⟩ := h
  rw [hword, List.length_append, List.length_cons, hmonths, hdays]

end Word

namespace Date

/-- A year is written as a whole number, be it with a sign or without. -/
theorem isNumber_yearText (year : Int) : Word.IsNumber (yearText year) year := by
  have hdigits := Word.spells_paddedDecimal 4 year.natAbs
  have hsigned (sign : Char) : (String.singleton sign ++ Text.paddedDecimal 4 year.natAbs).toList =
      sign :: (Text.paddedDecimal 4 year.natAbs).toList := by
    simp
  unfold yearText
  -- four digits are written without a sign, and others with the one that the year has
  split
  · next hplain =>
    have hyear : (year.natAbs : Int) = year := by omega
    have hnumber := Word.IsNumber.unsigned hdigits
    rwa [hyear] at hnumber
  · split
    · next hnegative =>
      have hyear : -(year.natAbs : Int) = year := by omega
      have hnumber := Word.IsNumber.minus (hsigned '-') hdigits
      rwa [hyear] at hnumber
    · next hpositive =>
      have hyear : (year.natAbs : Int) = year := by omega
      have hnumber := Word.IsNumber.plus (hsigned '+') hdigits
      rwa [hyear] at hnumber

/-- Month and day take two digits each. -/
theorem isMonthDay_view (date : Date) :
    Word.IsMonthDay (Rule.monthDayText date.month date.day) date.month date.day := by
  obtain ⟨hmonth, hday, -⟩ := ofYearMonthDay?_eq_some_iff_dayNumber.1 (ofYearMonthDay?_view date)
  have hshort := lengthOf_le (isLeap date.year) hmonth.2
  exact Word.isMonthDay_monthDayText (by omega) (by omega)

theorem toList_toText (date : Date) : date.toText.toList =
    (yearText date.year).toList ++ '-' :: (Rule.monthDayText date.month date.day).toList := by
  simp [toText, Rule.monthDayText]

theorem ne_colon_of_mem_toText (date : Date) : ∀ c ∈ date.toText.toList, c ≠ ':' := by
  rw [toList_toText, List.forall_mem_append, List.forall_mem_cons]
  exact ⟨(isNumber_yearText date.year).ne_colon, by decide, date.isMonthDay_view.ne_colon⟩

/-- **The text of a date tells the date.** -/
theorem toText_inj {date other : Date} : date.toText = other.toText ↔ date = other := by
  refine ⟨?_, fun h => by rw [h]⟩
  intro htext
  have hlists := congrArg String.toList htext
  rw [toList_toText, toList_toText] at hlists
  have hmonthDay := date.isMonthDay_view
  have hother := other.isMonthDay_view
  -- the year may take any space, so the text is taken apart from its end
  obtain ⟨hyears, hdays⟩ := List.append_inj' hlists
    (by rw [List.length_cons, List.length_cons, hmonthDay.length_eq, hother.length_eq])
  rw [String.toList_injective (List.cons.inj hdays).2] at hmonthDay
  obtain ⟨hmonth, hday⟩ := Expression.isMonthDay_unique hmonthDay hother
  have hnumber := isNumber_yearText date.year
  rw [String.toList_injective hyears] at hnumber
  have hyear := Expression.isNumber_unique hnumber (isNumber_yearText other.year)
  have hnamed := ofYearMonthDay?_view other
  rw [← hyear, ← hmonth, ← hday, ofYearMonthDay?_view date] at hnamed
  exact Option.some.inj hnamed

end Date

/-! ## The text of a day -/

namespace Kind

/-- What the text of a day ends in. -/
def closing (kind : Kind) : List Char := ' ' :: '(' :: (kind.name.toList ++ [')'])

/-- The last letter of its name tells a kind. -/
theorem eq_of_getLast?_name {kind kind' : Kind}
    (h : kind.name.toList.getLast? = kind'.name.toList.getLast?) : kind = kind' := by
  revert h
  cases kind <;> cases kind' <;> decide

theorem getElem?_reverse_closing (name : List Char) (kind : Kind) :
    (name ++ kind.closing).reverse[1]? = kind.name.toList.getLast? := by
  cases kind <;> simp [closing, Kind.name]

/-- **The end tells the kind**, whatever is in front of it. -/
theorem append_closing_inj {name name' : List Char} {kind kind' : Kind}
    (h : name ++ kind.closing = name' ++ kind'.closing) : name = name' ∧ kind = kind' := by
  have hkind : kind = kind' := by
    apply eq_of_getLast?_name
    rw [← getElem?_reverse_closing name kind, h, getElem?_reverse_closing name' kind']
  subst hkind
  exact ⟨List.append_cancel_right h, rfl⟩

end Kind

namespace Day

theorem toList_toText (day : Day) : day.toText.toList =
    day.date.toText.toList ++ ':' :: ' ' :: (day.name.toList ++ day.kind.closing) := by
  simp [toText, Kind.closing]

/-- The date of a day ends at the first colon of its text. -/
theorem takeWhile_toText (day : Day) :
    day.toText.toList.takeWhile (· != ':') = day.date.toText.toList := by
  have hdate : ∀ c ∈ day.date.toText.toList, (c != ':') = true :=
    fun c hc => bne_iff_ne.2 (day.date.ne_colon_of_mem_toText c hc)
  rw [toList_toText, List.takeWhile_append_of_pos hdate, List.takeWhile_cons_of_neg (by decide),
    List.append_nil]

/-- **The text of a day tells the day.** -/
theorem toText_inj {day other : Day} : day.toText = other.toText ↔ day = other := by
  refine ⟨?_, fun h => by rw [h]⟩
  intro htext
  have hlists := congrArg String.toList htext
  have hdates : day.date.toText.toList = other.date.toText.toList := by
    rw [← takeWhile_toText, hlists, takeWhile_toText]
  -- with equal dates in front, what is behind them is equal too
  rw [toList_toText, toList_toText, hdates] at hlists
  have hbehind := List.append_cancel_left hlists
  obtain ⟨hname, hkind⟩ := Kind.append_closing_inj (List.cons.inj (List.cons.inj hbehind).2).2
  obtain ⟨name, kind, date⟩ := day
  obtain ⟨name', kind', date'⟩ := other
  rw [Day.mk.injEq]
  exact ⟨String.toList_injective hname, hkind,
    Date.toText_inj.1 (String.toList_injective hdates)⟩

/--
**No two days have one text.**

Whatever entries are called, and in whatever years they have a date: the texts of two of their days
are equal exactly if the days agree in date, name and kind.
-/
theorem toText_identifies (entry other : Entry) (year year' : Int) :
    ∀ day ∈ entry.inYear year, ∀ day' ∈ other.inYear year',
      (day.toText = day'.toText ↔
        day.date = day'.date ∧ day.name = day'.name ∧ day.kind = day'.kind) := by
  rintro ⟨name, kind, date⟩ - ⟨name', kind', date'⟩ -
  rw [toText_inj, Day.mk.injEq]
  exact ⟨fun h => ⟨h.2.2, h.1, h.2.1⟩, fun h => ⟨h.2.1, h.2.2, h.1⟩⟩

/-- Names that pretend to hold a kind or a date, on days long before and long after our time. -/
theorem toText_identifies_pretender :
    let closed : Entry := ⟨"Jul (Observance)", .holiday, .fixed 12 25⟩
    let dated : Entry := ⟨"12-25: Jul", .observance, .fixed 12 25⟩
    let plain : Entry := ⟨"Jul", .observance, .fixed 12 25⟩
    let closedDay : Day := ⟨"Jul (Observance)", .holiday, ⟨-15712, by decide, by decide⟩⟩
    let datedDay : Day := ⟨"12-25: Jul", .observance, ⟨4509277, by decide, by decide⟩⟩
    let plainDay : Day := ⟨"Jul", .observance, ⟨-15712, by decide, by decide⟩⟩
    (closedDay ∈ closed.inYear (-44) ∧ datedDay ∈ dated.inYear 12345 ∧
      plainDay ∈ plain.inYear (-44)) ∧
    (closedDay.toText = "-0044-12-25: Jul (Observance) (Holiday)" ∧
      datedDay.toText = "+12345-12-25: 12-25: Jul (Observance)" ∧
      plainDay.toText = "-0044-12-25: Jul (Observance)") ∧
    (closedDay.toText = plainDay.toText ↔ closedDay.date = plainDay.date ∧
      closedDay.name = plainDay.name ∧ closedDay.kind = plainDay.kind) ∧
    (datedDay.toText = plainDay.toText ↔ datedDay.date = plainDay.date ∧
      datedDay.name = plainDay.name ∧ datedDay.kind = plainDay.kind) := by
  intro closed dated plain closedDay datedDay plainDay
  have hclosed : closedDay ∈ closed.inYear (-44) := by decide
  have hdated : datedDay ∈ dated.inYear 12345 := by decide
  have hplain : plainDay ∈ plain.inYear (-44) := by decide
  exact ⟨⟨hclosed, hdated, hplain⟩, ⟨by decide +kernel, by decide +kernel, by decide +kernel⟩,
    toText_identifies closed plain (-44) (-44) closedDay hclosed plainDay hplain,
    toText_identifies dated plain 12345 (-44) datedDay hdated plainDay hplain⟩

end Day

end Almanac
