import Almanac.Proofs.Outcome
import Almanac.Proofs.Rule.Phrases
import Almanac.Proofs.Text.Words
import Mathlib.Algebra.Group.Int.Defs

/-!
# The grammar of date expressions

Which words write which rule, and what is wrong with all other words. `Writes` is the grammar: one
constructor for each form. `Faulty` is its complement: words that have the shape of a form fail at
the first thing in them that does not exist, and words of no shape have no form. `writes_or_faulty`
says that nothing is left over, and `ofExpression_grammar` that reading an expression decides
between the two.
-/

namespace Almanac

namespace Expression

/-- The words write the rule. -/
inductive Writes (registry : Registry) : List String → Rule → Prop
  | fixed {date : String} {month day : Nat} (isDate : Word.IsMonthDay date month day)
      (hasDay : InLeapYear month day) : Writes registry [date] (.fixed month day)
  | onFeast {name : String} {feast : Feast} (isName : Word.IsName name)
      (known : registry.get? name = some feast) :
      Writes registry [name] (.onFeast (Text.lowercase name) feast)
  | fromFeast {name number : String} {feast : Feast} {offset : Int} (isName : Word.IsName name)
      (isNumber : Word.IsNumber number offset) (known : registry.get? name = some feast)
      (least : -2 ^ 63 ≤ offset) (greatest : offset < 2 ^ 63) :
      Writes registry [name, number] (.fromFeast (Text.lowercase name) feast offset)
  | nearDate {name keyword date : String} {weekday : Weekday} {direction : Direction}
      {month day : Nat} (isWeekday : Text.sameLetters weekday.name name = true)
      (isKeyword : Text.sameLetters direction.keyword keyword = true)
      (isDate : Word.IsMonthDay date month day) (hasDay : InLeapYear month day) :
      Writes registry [name, keyword, date] (.nearDate weekday direction month day)
  | firstInMonth {name keyword monthName : String} {weekday : Weekday} {month : Month}
      (isWeekday : Text.sameLetters weekday.name name = true)
      (isKeyword : Text.sameLetters "in" keyword = true)
      (isMonth : Text.sameLetters month.name monthName = true) :
      Writes registry [name, keyword, monthName] (.firstInMonth weekday month)

/-- What is wrong with the words. -/
inductive Faulty (registry : Registry) (words : List String) : ExpressionFault → Prop
  /-- The words have none of the five shapes. -/
  | unknownForm (unspelled : ∀ phrase, ¬ Spelled words phrase) :
      Faulty registry words .unknownForm
  /-- No leap year has the date. -/
  | fixed {month day : Nat} (spelled : Spelled words (.fixed month day))
      (noDay : ¬ InLeapYear month day) : Faulty registry words (.noSuchDay month day)
  | onFeast {name : String} (spelled : Spelled words (.onFeast name))
      (unknown : registry.get? name = none) : Faulty registry words (.unknownFeast name)
  /-- The feast is unknown, whether or not the offset is one. -/
  | fromFeast {name : String} {offset : Int} (spelled : Spelled words (.fromFeast name offset))
      (unknown : registry.get? name = none) : Faulty registry words (.unknownFeast name)
  | tooLarge {name : String} {feast : Feast} {offset : Int}
      (spelled : Spelled words (.fromFeast name offset)) (known : registry.get? name = some feast)
      (large : 2 ^ 63 ≤ offset) : Faulty registry words .offsetTooLarge
  | tooSmall {name : String} {feast : Feast} {offset : Int}
      (spelled : Spelled words (.fromFeast name offset)) (known : registry.get? name = some feast)
      (small : offset < -2 ^ 63) : Faulty registry words .offsetTooSmall
  /-- The weekday is unknown, whether or not the date is one. -/
  | nearDate {name : String} {direction : Direction} {month day : Nat}
      (spelled : Spelled words (.nearDate name direction month day))
      (unknown : ∀ weekday : Weekday, Text.sameLetters weekday.name name = false) :
      Faulty registry words (.unknownWeekday name)
  | nearNoDay {name : String} {weekday : Weekday} {direction : Direction} {month day : Nat}
      (spelled : Spelled words (.nearDate name direction month day))
      (known : Text.sameLetters weekday.name name = true) (noDay : ¬ InLeapYear month day) :
      Faulty registry words (.noSuchDay month day)
  /-- The weekday is unknown, whether or not the month is one. -/
  | firstInMonth {name monthName : String}
      (spelled : Spelled words (.firstInMonth name monthName))
      (unknown : ∀ weekday : Weekday, Text.sameLetters weekday.name name = false) :
      Faulty registry words (.unknownWeekday name)
  | inNoMonth {name monthName : String} {weekday : Weekday}
      (spelled : Spelled words (.firstInMonth name monthName))
      (known : Text.sameLetters weekday.name name = true)
      (unknown : ∀ month : Month, Text.sameLetters month.name monthName = false) :
      Faulty registry words (.unknownMonth monthName)

/-! ## Names and numbers are looked up -/

section
variable {name : String} {registry : Registry}

theorem checkedMonthDay_of_inLeapYear {month day : Nat} (h : InLeapYear month day) :
    checkedMonthDay month day = .ok (month, day) :=
  if_pos (isMonthDay_iff.2 h)

theorem checkedMonthDay_of_not {month day : Nat} (h : ¬ InLeapYear month day) :
    checkedMonthDay month day = .error (.noSuchDay month day) :=
  if_neg fun hday => h (isMonthDay_iff.1 hday)

theorem feast_of_known {found : Feast} (h : registry.get? name = some found) :
    feast registry name = .ok found := by
  unfold feast; rw [h]

theorem feast_of_unknown (h : registry.get? name = none) :
    feast registry name = .error (.unknownFeast name) := by
  unfold feast; rw [h]

theorem weekday_of_known {found : Weekday} (h : Text.sameLetters found.name name = true) :
    weekday name = .ok found := by
  unfold weekday; rw [Weekday.ofName?_eq_some_iff.2 h]

theorem weekday_of_unknown (h : ∀ found : Weekday, Text.sameLetters found.name name = false) :
    weekday name = .error (.unknownWeekday name) := by
  unfold weekday
  rw [show Weekday.ofName? name = none from List.find?_eq_none.2 fun found _ => by simp [h found]]

theorem month_of_known {found : Month} (h : Text.sameLetters found.name name = true) :
    month name = .ok found := by
  unfold month; rw [Month.ofName?_eq_some_iff.2 h]

theorem month_of_unknown (h : ∀ found : Month, Text.sameLetters found.name name = false) :
    month name = .error (.unknownMonth name) := by
  unfold month
  rw [show Month.ofName? name = none from List.find?_eq_none.2 fun found _ => by simp [h found]]

theorem checkedOffset_of_fits {days : Int} (hleast : -2 ^ 63 ≤ days) (hgreatest : days < 2 ^ 63) :
    checkedOffset days = .ok days := by
  unfold checkedOffset maxOffset minOffset
  rw [if_neg (by omega), if_neg (by omega)]

theorem checkedOffset_of_large {days : Int} (h : 2 ^ 63 ≤ days) :
    checkedOffset days = .error .offsetTooLarge := by
  unfold checkedOffset maxOffset
  rw [if_pos (by omega)]

theorem checkedOffset_of_small {days : Int} (h : days < -2 ^ 63) :
    checkedOffset days = .error .offsetTooSmall := by
  unfold checkedOffset maxOffset minOffset
  rw [if_neg (by omega), if_pos (by omega)]

end

/-! ## Grammar and reading agree -/

variable {registry : Registry} {words : List String}

/-- The rule that words write is the one that is read. -/
theorem readWords_of_writes {rule : Rule} (h : Writes registry words rule) :
    readWords words registry = .ok rule := by
  cases h with
  | fixed isDate hasDay =>
    rw [readWords_of_spelled (.fixed isDate)]
    simp only [Phrase.reading, checkedMonthDay_of_inLeapYear hasDay]
    rfl
  | onFeast isName known =>
    rw [readWords_of_spelled (.onFeast isName)]
    simp only [Phrase.reading, feast_of_known known]
    rfl
  | fromFeast isName isNumber known least greatest =>
    rw [readWords_of_spelled (.fromFeast isName isNumber)]
    simp only [Phrase.reading, feast_of_known known, checkedOffset_of_fits least greatest]
    rfl
  | nearDate isWeekday isKeyword isDate hasDay =>
    rw [readWords_of_spelled (.nearDate (Weekday.isName isWeekday) isKeyword isDate)]
    simp only [Phrase.reading, weekday_of_known isWeekday, checkedMonthDay_of_inLeapYear hasDay]
    rfl
  | firstInMonth isWeekday isKeyword isMonth =>
    rw [readWords_of_spelled
      (.firstInMonth (Weekday.isName isWeekday) isKeyword (Month.isName isMonth))]
    simp only [Phrase.reading, weekday_of_known isWeekday, month_of_known isMonth]
    rfl

/-- The fault of faulty words is the one that is reported. -/
theorem readWords_of_faulty {fault : ExpressionFault} (h : Faulty registry words fault) :
    readWords words registry = .error fault := by
  -- whatever is looked up before the fault is found, so the reading comes as far as the fault
  cases h with
  | unknownForm unspelled => exact readWords_of_not_spelled unspelled registry
  | fixed spelled noDay =>
    rw [readWords_of_spelled spelled]
    simp only [Phrase.reading, checkedMonthDay_of_not noDay]
    rfl
  | onFeast spelled unknown =>
    rw [readWords_of_spelled spelled]
    simp only [Phrase.reading, feast_of_unknown unknown]
    rfl
  | fromFeast spelled unknown =>
    rw [readWords_of_spelled spelled]
    simp only [Phrase.reading, feast_of_unknown unknown]
    rfl
  | tooLarge spelled known large =>
    rw [readWords_of_spelled spelled]
    simp only [Phrase.reading, feast_of_known known, checkedOffset_of_large large]
    rfl
  | tooSmall spelled known small =>
    rw [readWords_of_spelled spelled]
    simp only [Phrase.reading, feast_of_known known, checkedOffset_of_small small]
    rfl
  | nearDate spelled unknown =>
    rw [readWords_of_spelled spelled]
    simp only [Phrase.reading, weekday_of_unknown unknown]
    rfl
  | nearNoDay spelled known noDay =>
    rw [readWords_of_spelled spelled]
    simp only [Phrase.reading, weekday_of_known known, checkedMonthDay_of_not noDay]
    rfl
  | firstInMonth spelled unknown =>
    rw [readWords_of_spelled spelled]
    simp only [Phrase.reading, weekday_of_unknown unknown]
    rfl
  | inNoMonth spelled known unknown =>
    rw [readWords_of_spelled spelled]
    simp only [Phrase.reading, weekday_of_known known, month_of_unknown unknown]
    rfl

/-- **All words write a rule or are faulty.** -/
theorem writes_or_faulty (registry : Registry) (words : List String) :
    (∃ rule, Writes registry words rule) ∨ ∃ fault, Faulty registry words fault := by
  -- given the phrase, each look-up of its reading either succeeds or is the fault
  by_cases hspelled : ∃ phrase, Spelled words phrase
  · obtain ⟨phrase, spelled⟩ := hspelled
    cases hphrase : spelled with
    | @fixed _ month day isDate =>
      by_cases hday : InLeapYear month day
      · exact Or.inl ⟨_, .fixed isDate hday⟩
      · exact Or.inr ⟨_, .fixed spelled hday⟩
    | @onFeast name isName =>
      cases hfeast : registry.get? name with
      | some feast => exact Or.inl ⟨_, .onFeast isName hfeast⟩
      | none => exact Or.inr ⟨_, .onFeast spelled hfeast⟩
    | @fromFeast name _ offset isName isNumber =>
      cases hfeast : registry.get? name with
      | some feast =>
        rcases Int.lt_or_le offset (-2 ^ 63) with hsmall | hleast
        · exact Or.inr ⟨_, .tooSmall spelled hfeast hsmall⟩
        · rcases Int.lt_or_le offset (2 ^ 63) with hgreatest | hlarge
          · exact Or.inl ⟨_, .fromFeast isName isNumber hfeast hleast hgreatest⟩
          · exact Or.inr ⟨_, .tooLarge spelled hfeast hlarge⟩
      | none => exact Or.inr ⟨_, .fromFeast spelled hfeast⟩
    | @nearDate name _ _ _ month day isName isKeyword isDate =>
      by_cases hweekday : ∃ weekday : Weekday, Text.sameLetters weekday.name name = true
      · obtain ⟨weekday, hknown⟩ := hweekday
        by_cases hday : InLeapYear month day
        · exact Or.inl ⟨_, .nearDate hknown isKeyword isDate hday⟩
        · exact Or.inr ⟨_, .nearNoDay spelled hknown hday⟩
      · exact Or.inr ⟨_, .nearDate spelled (by simpa using hweekday)⟩
    | @firstInMonth name _ monthName isName isKeyword isMonthName =>
      by_cases hweekday : ∃ weekday : Weekday, Text.sameLetters weekday.name name = true
      · obtain ⟨weekday, hknown⟩ := hweekday
        by_cases hmonth : ∃ month : Month, Text.sameLetters month.name monthName = true
        · obtain ⟨month, hmonth⟩ := hmonth
          exact Or.inl ⟨_, .firstInMonth hknown isKeyword hmonth⟩
        · exact Or.inr ⟨_, .inNoMonth spelled hknown (by simpa using hmonth)⟩
      · exact Or.inr ⟨_, .firstInMonth spelled (by simpa using hweekday)⟩
  · exact Or.inr ⟨_, .unknownForm fun phrase spelled => hspelled ⟨phrase, spelled⟩⟩

theorem readWords_iff :
    (∀ rule, readWords words registry = .ok rule ↔ Writes registry words rule) ∧
      ∀ fault, readWords words registry = .error fault ↔ Faulty registry words fault :=
  eq_ok_and_eq_error_iff (fun _ => readWords_of_writes) (fun _ => readWords_of_faulty)
    (writes_or_faulty registry words)

theorem readWords_eq_ok_iff {rule : Rule} :
    readWords words registry = .ok rule ↔ Writes registry words rule :=
  readWords_iff.1 rule

theorem readWords_eq_error_iff {fault : ExpressionFault} :
    readWords words registry = .error fault ↔ Faulty registry words fault :=
  readWords_iff.2 fault

end Expression

/--
**Reading accepts the grammar and tells every fault.**

The words of an expression are the pieces between its blanks. It is read as a rule exactly if they
write that rule. Otherwise the error names the expression and says what is wrong with its words.
-/
theorem Rule.ofExpression_grammar (expression : String) (registry : Registry) :
    let words := ((expression.toList.splitOnP Text.isBlank).filter fun piece =>
      !piece.isEmpty).map String.ofList
    (∀ rule, Rule.ofExpression expression registry = .ok rule ↔
      Expression.Writes registry words rule) ∧
    ∀ error, Rule.ofExpression expression registry = .error error ↔
      error.expression = expression ∧ Expression.Faulty registry words error.fault := by
  rw [← Text.words_eq]
  intro words
  simp only [← Expression.readWords_eq_ok_iff, ← Expression.readWords_eq_error_iff]
  unfold Rule.ofExpression
  cases hread : Expression.readWords words registry with
  | ok written => simp
  | error fault =>
    refine ⟨by simp, ?_⟩
    intro error
    refine ⟨?_, ?_⟩
    · intro h; cases h; exact ⟨rfl, rfl⟩
    · intro h
      obtain ⟨hexpression, hfault⟩ := h
      cases hfault
      rw [← hexpression]

-- A feast is found under its name in any case and written in lower case.
example : Rule.ofExpression "EASTER" .standard = .ok (.onFeast "easter" easterSunday) := by rfl

example : Rule.ofExpression "Easter -2" .standard =
    .ok (.fromFeast "easter" easterSunday (-2)) := by rfl

-- The first word that names nothing is the fault, and no later one.
example : Rule.ofExpression "pentecost 99999999999999999999" .standard =
    .error ⟨"pentecost 99999999999999999999", .unknownFeast "pentecost"⟩ := by rfl

example : Rule.ofExpression "funday after 02-30" .standard =
    .error ⟨"funday after 02-30", .unknownWeekday "funday"⟩ := by rfl

end Almanac
