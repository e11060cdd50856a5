import Almanac.Proofs.Rule.Canonical
import Almanac.Proofs.Text.Cuts

/-!
# Reading without a misstep

Some steps of a reader are not possible everywhere: a byte is taken from its place in a word, a word
is cut at places that are counted in bytes, a table is asked for the length of a month that may be
any number. Here these steps are guarded, an impossible one is a misstep, and the readers are
written down once more on top of them, step by step: what is not looked at any more once the answer
is known cannot be a misstep. There is none in any expression, and the outcome is that of the
readers without guards (`ofExpression_guarded`). The words are cut beside a hyphen, which is a byte
of no other character, and a month is a number from 1 to 12 before the table is asked for it.
-/

namespace Almanac

/-- A step that is not possible. -/
inductive Misstep
  /-- The text has no byte in this place. -/
  | noByte (text : String) (place : Nat)
  /-- The text has no part from the first to the last place, as one of them is inside a character or
  behind the end, or they are the wrong way round. -/
  | noPart (text : String) (first last : Nat)
  /-- The year has no such month. -/
  | noMonth (month : Nat)
  deriving DecidableEq, Repr

namespace Guarded

/-! ## Steps -/

/-- The byte in this place. -/
def byteAt (text : String) (place : Nat) : Except Misstep UInt8 :=
  match (Word.bytes text)[place]? with
  | some byte => .ok byte
  | none => .error (.noByte text place)

/-- The part of the text from the first to the last place. -/
def part (text : String) (first last : Nat) : Except Misstep String :=
  if h : String.Pos.Raw.IsValid text ⟨first⟩ ∧ String.Pos.Raw.IsValid text ⟨last⟩ ∧
      first ≤ last then
    .ok (text.extract ⟨⟨first⟩, h.1⟩ ⟨⟨last⟩, h.2.1⟩)
  else .error (.noPart text first last)

/-- How many days the month has in the years when it is longest. -/
def longest (month : Nat) : Except Misstep Nat :=
  if month = 0 then .error (.noMonth month)
  else match maxDaysOfMonth? month with
    | some length => .ok length
    | none => .error (.noMonth month)

/-! ## Readers -/

/-- The number that a text spells, if it is one of 32 bits without a sign. -/
def number? (text : String) : Option Nat :=
  match Word.signedDigits? text with
  | some ⟨false, digits⟩ =>
    if Text.decimalValue digits < UInt32.size then some (Text.decimalValue digits) else none
  | _ => none

/-- What stands before and behind the hyphen of a word of five bytes. -/
def besideHyphen? (word : String) : Except Misstep (Option (String × String)) :=
  if (Word.bytes word).length = 5 then do
    let middle ← byteAt word 2
    if middle = '-'.toUInt8 then
      let months ← part word 0 2
      let days ← part word 3 5
      return some (months, days)
    else return none
  else return none

/-- The numbers that two texts of digits spell. -/
def numbers? (months days : String) : Option (Nat × Nat) :=
  if (Word.bytes months ++ Word.bytes days).all fun byte => (Word.digitOfByte? byte).isSome then
    match number? months, number? days with
    | some month, some day => some (month, day)
    | _, _ => none
  else none

/-- Month and day of a word `MM-DD`. -/
def monthDay? (word : String) : Except Misstep (Option (Nat × Nat)) := do
  match ← besideHyphen? word with
  | some (months, days) => return numbers? months days
  | none => return none

/-- Whether some year has this day. -/
def isMonthDay (month day : Nat) : Except Misstep Bool :=
  if 1 ≤ month ∧ month ≤ 12 then do
    let length ← longest month
    return decide (1 ≤ day ∧ day ≤ length)
  else return false

/-- Month and day, if some year has that day. -/
def checkedMonthDay (month day : Nat) : Except Misstep (Except ExpressionFault (Nat × Nat)) := do
  if ← isMonthDay month day then return .ok (month, day)
  else return .error (.noSuchDay month day)

open Expression (Reading)

/-- `MM-DD` -/
def readFixed (words : List String) (_ : Registry) : Except Misstep Reading :=
  match words with
  | [word] => do
    match ← monthDay? word with
    | some (month, day) =>
      let checked ← checkedMonthDay month day
      return some do
        let (month, day) ← checked
        return .fixed month day
    | none => return none
  | _ => return none

/-- `<weekday> before|after MM-DD` -/
def readNearDate (words : List String) (_ : Registry) : Except Misstep Reading :=
  match words with
  | [name, keyword, date] =>
    if Word.isIdentifier name then
      match Direction.ofName? keyword with
      | some direction => do
        match ← monthDay? date with
        | some (month, day) =>
          match Expression.weekday name with
          | .ok weekday =>
            let checked ← checkedMonthDay month day
            return some do
              let (month, day) ← checked
              return .nearDate weekday direction month day
          | .error fault => return some (.error fault)
        | none => return none
      | none => return none
    else return none
  | _ => return none

/-- The readers in the order in which they are tried. Those of feasts and of weekdays in a month
take no step that could be impossible. -/
def readers : List (List String → Registry → Except Misstep Reading) := [
  readFixed,
  fun words registry => return Expression.readFeast words registry,
  fun words registry => return Expression.readFeastOffset words registry,
  readNearDate,
  fun words registry => return Expression.readFirstInMonth words registry]

/-- The reading of the first form whose shape the words have. -/
def readWords (words : List String) (registry : Registry) :
    Except Misstep (Except ExpressionFault Rule) := do
  match ← readers.findSomeM? fun read => read words registry with
  | some reading => return reading
  | none => return .error .unknownForm

/-- The rule that `expression` writes, with feasts taken from `registry`. -/
def ofExpression (expression : String) (registry : Registry) :
    Except Misstep (Except ExpressionError Rule) := do
  match ← readWords (Text.words expression) registry with
  | .ok rule => return .ok rule
  | .error fault => return .error ⟨expression, fault⟩

/-! ## Cutting a word at its hyphen -/

theorem exists_part {text : String} {first last : Nat}
    (hfirst : String.Pos.Raw.IsValid text ⟨first⟩) (hlast : String.Pos.Raw.IsValid text ⟨last⟩)
    (hle : first ≤ last) :
    ∃ between, part text first last = .ok between ∧
      Word.bytes between = ((Word.bytes text).take last).drop first :=
  ⟨_, dif_pos ⟨hfirst, hlast, hle⟩, Word.bytes_extract _ _⟩

/-- **The hyphen of a word of five bytes is a character**, whatever stands beside it. -/
theorem isValid_of_hasHyphenInMiddle {word : String} (h : Word.hasHyphenInMiddle word = true) :
    String.Pos.Raw.IsValid word ⟨2⟩ ∧ String.Pos.Raw.IsValid word ⟨3⟩ := by
  simp only [Word.hasHyphenInMiddle, Bool.and_eq_true, beq_iff_eq] at h
  exact Word.isValid_of_ascii h.2 (by decide)

theorem besideHyphen?_of_not {word : String} (h : Word.hasHyphenInMiddle word = false) :
    besideHyphen? word = .ok none := by
  unfold besideHyphen? byteAt
  split
  · next hlength =>
    have hmiddle : (Word.bytes word)[2]? = some (Word.bytes word)[2] :=
      List.getElem?_eq_getElem (by omega)
    have hother : (Word.bytes word)[2] ≠ '-'.toUInt8 := by
      intro hhyphen
      rw [Word.hasHyphenInMiddle, hmiddle, hhyphen, hlength] at h
      cases h
    simp only [hmiddle]
    exact if_neg hother
  · rfl

theorem besideHyphen?_of_hasHyphenInMiddle {word : String}
    (h : Word.hasHyphenInMiddle word = true) :
    ∃ months days, besideHyphen? word = .ok (some (months, days)) ∧
      Word.bytes months = (Word.bytes word).take 2 ∧
      Word.bytes days = (Word.bytes word).drop 3 := by
  obtain ⟨htwo, hthree⟩ := isValid_of_hasHyphenInMiddle h
  simp only [Word.hasHyphenInMiddle, Bool.and_eq_true, beq_iff_eq] at h
  obtain ⟨hlength, hmiddle⟩ := h
  have hend : String.Pos.Raw.IsValid word ⟨5⟩ := by
    rw [← hlength, Word.length_bytes]
    exact String.Pos.Raw.isValid_rawEndPos
  obtain ⟨months, hmonths, hfront⟩ :=
    exists_part (String.Pos.Raw.isValid_zero (s := word)) htwo (by omega)
  obtain ⟨days, hdays, hback⟩ := exists_part hthree hend (by omega)
  refine ⟨months, days, ?_, hfront, ?_⟩
  · simp only [besideHyphen?, byteAt, if_pos hlength, hmiddle, ok_bind, if_true, hmonths, hdays]
    rfl
  · rw [hback, List.take_of_length_le (by omega)]

/-! ## The numbers of a date -/

/-- Two bytes spell a number if both are digits. -/
theorem isSome_twoDigits? {bytes : List UInt8} (h : bytes.length = 2) :
    (Word.twoDigits? bytes).isSome =
      bytes.all fun byte => (Word.digitOfByte? byte).isSome := by
  obtain ⟨tens, units, rfl⟩ := List.length_eq_two.1 h
  unfold Word.twoDigits?
  cases htens : Word.digitOfByte? tens with
  | none => simp [htens]
  | some t =>
    cases hunits : Word.digitOfByte? units with
    | none => simp [htens, hunits]
    | some u => simp [htens, hunits]

theorem number?_of_twoDigits? {text : String} {n : Nat}
    (h : Word.twoDigits? (Word.bytes text) = some n) : number? text = some n := by
  -- digits are ASCII, so the two bytes are two characters
  have hascii := Word.ascii_of_bytes (Word.ascii_of_twoDigits? h)
  rw [Word.bytes_of_ascii hascii] at h
  have hlength : text.toList.length = 2 := by
    unfold Word.twoDigits? at h
    split at h
    · next tens units htwo => rw [← List.length_map (f := Char.toUInt8), htwo]; rfl
    · cases h
  have hspells : Word.Spells text.toList n := by
    obtain ⟨tens, units, htext⟩ := List.length_eq_two.1 hlength
    rw [htext] at h hascii ⊢
    exact (Word.twoDigits?_eq_some_iff (hascii tens (by simp)) (hascii units (by simp))).1 h
  have hsmall := hspells.lt_of_two hlength
  unfold number?
  rw [Word.signedDigits?_of_spells hspells]
  simp only [hspells.value]
  exact if_pos (Nat.lt_trans hsmall (by decide))

theorem numbers?_eq {months days : String} (hmonths : (Word.bytes months).length = 2)
    (hdays : (Word.bytes days).length = 2) :
    numbers? months days =
      match Word.twoDigits? (Word.bytes months), Word.twoDigits? (Word.bytes days) with
      | some month, some day => some (month, day)
      | _, _ => none := by
  unfold numbers?
  rw [List.all_append, ← isSome_twoDigits? hmonths, ← isSome_twoDigits? hdays]
  cases hmonth : Word.twoDigits? (Word.bytes months) with
  | none => rfl
  | some month =>
    cases hday : Word.twoDigits? (Word.bytes days) with
    | none => rfl
    | some day =>
      rw [number?_of_twoDigits? hmonth, number?_of_twoDigits? hday]
      rfl

/-- **Every word may be asked for month and day.** -/
theorem monthDay?_eq (word : String) : monthDay? word = .ok (Word.monthDay? word) := by
  unfold monthDay? Word.monthDay?
  cases hhyphen : Word.hasHyphenInMiddle word with
  | false =>
    rw [besideHyphen?_of_not hhyphen]
    rfl
  | true =>
    obtain ⟨months, days, hbeside, hfront, hback⟩ := besideHyphen?_of_hasHyphenInMiddle hhyphen
    simp only [Word.hasHyphenInMiddle, Bool.and_eq_true, beq_iff_eq] at hhyphen
    have hmonths : (Word.bytes months).length = 2 := by rw [hfront, List.length_take]; omega
    have hdays : (Word.bytes days).length = 2 := by rw [hback, List.length_drop]; omega
    have hnumbers := numbers?_eq hmonths hdays
    rw [hfront, hback] at hnumbers
    rw [hbeside, if_pos rfl]
    exact congrArg Except.ok hnumbers

theorem monthDay?_eq_some_iff {word : String} {month day : Nat} :
    monthDay? word = .ok (some (month, day)) ↔ Word.IsMonthDay word month day := by
  rw [monthDay?_eq, Except.ok.injEq]
  exact Word.monthDay?_iff

/-- The months that a word can spell are more than the months of a year. -/
theorem exists_monthDay?_iff {month day : Nat} :
    (∃ word, monthDay? word = .ok (some (month, day))) ↔ month ≤ 99 ∧ day ≤ 99 := by
  refine ⟨?_, ?_⟩
  · rintro ⟨word, hword⟩
    obtain ⟨months, days, -, ⟨hm, hmonths⟩, hd, hdays⟩ := monthDay?_eq_some_iff.1 hword
    have hmonth := hmonths.lt_of_two hm
    have hday := hdays.lt_of_two hd
    omega
  · rintro ⟨hmonth, hday⟩
    exact ⟨Rule.monthDayText month day,
      monthDay?_eq_some_iff.2 (Word.isMonthDay_monthDayText (by omega) (by omega))⟩

/-! ## The table of months -/

theorem longest_of_le {month : Nat} (h : 1 ≤ month ∧ month ≤ 12) :
    longest month = .ok (lengthOf true month) := by
  have hlength : maxDaysOfMonth? month = some (lengthOf true month) :=
    daysOfMonth?_eq_some_iff.2 ⟨h.2, rfl⟩
  unfold longest
  rw [if_neg (by omega), hlength]

theorem exists_longest_iff {month : Nat} :
    (∃ length, longest month = .ok length) ↔ 1 ≤ month ∧ month ≤ 12 := by
  refine ⟨?_, fun h => ⟨_, longest_of_le h⟩⟩
  rintro ⟨length, hlength⟩
  unfold longest at hlength
  split at hlength
  · cases hlength
  · next hzero =>
    split at hlength
    · next found hfound =>
      obtain ⟨hlast, -⟩ := daysOfMonth?_eq_some_iff.1 hfound
      omega
    · cases hlength

/-- **The table is asked for no month that it does not have**, as any other month is refused
before. -/
theorem isMonthDay_eq (month day : Nat) :
    isMonthDay month day = .ok (Expression.isMonthDay month day) := by
  have hsame : Expression.isMonthDay month day =
      decide ((1 ≤ month ∧ month ≤ 12) ∧ 1 ≤ day ∧ day ≤ lengthOf true month) := by
    rw [Bool.eq_iff_iff, decide_eq_true_iff, Expression.isMonthDay_iff, inLeapYear_iff]
  unfold isMonthDay
  rw [hsame]
  -- where the month is refused, the table is not looked at
  by_cases hmonth : 1 ≤ month ∧ month ≤ 12
  · rw [if_pos hmonth, longest_of_le hmonth]
    simp [hmonth, bind, Except.bind, pure, Except.pure]
  · rw [if_neg hmonth]
    simp [hmonth, pure, Except.pure]

theorem checkedMonthDay_eq (month day : Nat) :
    checkedMonthDay month day = .ok (Expression.checkedMonthDay month day) := by
  unfold checkedMonthDay Expression.checkedMonthDay
  rw [isMonthDay_eq]
  cases Expression.isMonthDay month day <;> rfl

/-! ## Whole expressions -/

theorem readFixed_eq (words : List String) (registry : Registry) :
    readFixed words registry = .ok (Expression.readFixed words registry) := by
  match words with
  | [] => rfl
  | [word] =>
    simp only [readFixed, Expression.readFixed, monthDay?_eq, ok_bind]
    cases Word.monthDay? word with
    | none => rfl
    | some date =>
      simp only [checkedMonthDay_eq]
      rfl
  | _ :: _ :: _ => rfl

theorem readNearDate_eq (words : List String) (registry : Registry) :
    readNearDate words registry = .ok (Expression.readNearDate words registry) := by
  match words with
  | [] => rfl
  | [_] => rfl
  | [_, _] => rfl
  | [name, keyword, date] =>
    simp only [readNearDate, Expression.readNearDate, monthDay?_eq, ok_bind]
    -- the questions are asked in this order, and the table last of all
    cases Word.isIdentifier name with
    | false => rfl
    | true =>
      cases Direction.ofName? keyword with
      | none => rfl
      | some direction =>
        cases Word.monthDay? date with
        | none => rfl
        | some date =>
          cases hweekday : Expression.weekday name with
          | error fault => rfl
          | ok weekday =>
            simp only [checkedMonthDay_eq]
            rfl
  | _ :: _ :: _ :: _ :: _ => rfl

theorem readers_eq :
    readers = Expression.forms.map fun form words registry => .ok (form.read words registry) := by
  have hfixed : readFixed = fun words registry => .ok (Expression.readFixed words registry) :=
    funext fun words => funext (readFixed_eq words)
  have hnear : readNearDate = fun words registry => .ok (Expression.readNearDate words registry) :=
    funext fun words => funext (readNearDate_eq words)
  unfold readers
  rw [hfixed, hnear]
  rfl

theorem readWords_eq (words : List String) (registry : Registry) :
    readWords words registry = .ok (Expression.readWords words registry) := by
  have hfirst : readers.findSomeM? (fun read => read words registry) =
      .ok (Expression.forms.findSome? fun form => form.read words registry) := by
    rw [readers_eq]
    exact findSomeM?_ok (fun form => form.read words registry) Expression.forms
  unfold readWords Expression.readWords
  rw [hfirst, ok_bind]
  cases Expression.forms.findSome? fun form => form.read words registry <;> rfl

theorem ofExpression_eq (expression : String) (registry : Registry) :
    ofExpression expression registry = .ok (Rule.ofExpression expression registry) := by
  unfold ofExpression Rule.ofExpression
  rw [readWords_eq, ok_bind]
  cases Expression.readWords (Text.words expression) registry <;> rfl

end Guarded

namespace Rule

/--
**No expression leads to a misstep.**

Whatever the expression and the registered feasts, reading with every step guarded has the outcome
of reading without guards. A word of five bytes with a hyphen in the middle may be cut before and
behind the hyphen, whichever characters stand there. A date is read from a word exactly if it is two
ASCII digits, a hyphen and two ASCII digits, and as the two numbers that the digits spell. All
numbers up to 99 can be spelled, and the table has a length for no month but those from 1 to 12,
and still every month and day may be checked.
-/
theorem ofExpression_guarded :
    (∀ (expression : String) (registry : Registry),
      Guarded.ofExpression expression registry = .ok (ofExpression expression registry)) ∧
    (∀ word : String, Word.hasHyphenInMiddle word = true →
      String.Pos.Raw.IsValid word ⟨2⟩ ∧ String.Pos.Raw.IsValid word ⟨3⟩) ∧
    (∀ word : String, Guarded.monthDay? word = .ok (Word.monthDay? word) ∧
      ∀ month day, Word.monthDay? word = some (month, day) ↔ Word.IsMonthDay word month day) ∧
    (∀ month day : Nat,
      (∃ word, Guarded.monthDay? word = .ok (some (month, day))) ↔ month ≤ 99 ∧ day ≤ 99) ∧
    (∀ month : Nat, (∃ length, Guarded.longest month = .ok length) ↔ 1 ≤ month ∧ month ≤ 12) ∧
    ∀ month day : Nat,
      Guarded.checkedMonthDay month day = .ok (Expression.checkedMonthDay month day) := by
  refine ⟨Guarded.ofExpression_eq, ?_, ?_, ?_, ?_, Guarded.checkedMonthDay_eq⟩
  · intro word hhyphen
    exact Guarded.isValid_of_hasHyphenInMiddle hhyphen
  · intro word
    exact ⟨Guarded.monthDay?_eq word, fun month day => Word.monthDay?_iff⟩
  · intro month day
    exact Guarded.exists_monthDay?_iff
  · intro month
    exact Guarded.exists_longest_iff

/-- A hyphen between letters of two bytes each, a character that is cut in two where no hyphen is,
and a date of which there is neither the month nor the day. -/
theorem ofExpression_guarded_letters :
    (Word.hasHyphenInMiddle "é-é" = true ∧
      (String.Pos.Raw.IsValid "é-é" ⟨2⟩ ∧ String.Pos.Raw.IsValid "é-é" ⟨3⟩) ∧
      Guarded.monthDay? "é-é" = .ok none ∧
      Guarded.ofExpression "é-é" .standard = .ok (.error ⟨"é-é", .unknownForm⟩)) ∧
    (Guarded.part "a€b" 0 2 = .error (.noPart "a€b" 0 2) ∧ Guarded.monthDay? "a€b" = .ok none) ∧
    Guarded.longest 13 = .error (.noMonth 13) ∧
      (∃ word, Guarded.monthDay? word = .ok (some (13, 45))) ∧
      Guarded.checkedMonthDay 13 45 = .ok (.error (.noSuchDay 13 45)) := by
  obtain ⟨hread, hcut, hdate, hspelled, -, hchecked⟩ := ofExpression_guarded
  have hhyphen : Word.hasHyphenInMiddle "é-é" = true := by decide +kernel
  refine ⟨⟨hhyphen, hcut "é-é" hhyphen, ?_, ?_⟩, ⟨?_, ?_⟩, rfl, ?_, ?_⟩
  · rw [(hdate "é-é").1]
    decide +kernel
  · rw [hread]
    rfl
  · exact dif_neg (by decide +kernel)
  · rw [(hdate "a€b").1]
    decide +kernel
  · exact (hspelled 13 45).2 (by decide)
  · rw [hchecked]
    decide

end Rule

end Almanac
