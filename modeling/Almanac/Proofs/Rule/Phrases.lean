import Almanac.Proofs.Rule.Spelling

/-!
# Phrases

An expression is read in two steps, and this file takes them apart. The kinds of its words make it a
phrase of one of the five forms. Only then are its names looked up and its numbers checked, in the
order of the words.

The forms exclude each other: no words spell two phrases (`Spelled.unique`). So it does not matter
in which order the forms are tried (`readWordsIn`), and reading an expression is reading its phrase,
if it has one (`readWords_of_spelled`, `readWords_of_not_spelled`).
-/

namespace Almanac.Expression

/-- What the words of an expression say before any name is looked up. -/
inductive Phrase
  /-- `MM-DD` -/
  | fixed (month day : Nat)
  /-- `<feast>` -/
  | onFeast (name : String)
  /-- `<feast> <offset>` -/
  | fromFeast (name : String) (offset : Int)
  /-- `<weekday> before|after MM-DD` -/
  | nearDate (weekday : String) (direction : Direction) (month day : Nat)
  /-- `<weekday> in <month>` -/
  | firstInMonth (weekday month : String)

/-- The words have the shape of the phrase, and these are its parts. -/
inductive Spelled : List String → Phrase → Prop
  | fixed {date : String} {month day : Nat} (isDate : Word.IsMonthDay date month day) :
      Spelled [date] (.fixed month day)
  | onFeast {name : String} (isName : Word.IsName name) : Spelled [name] (.onFeast name)
  | fromFeast {name number : String} {offset : Int} (isName : Word.IsName name)
      (isNumber : Word.IsNumber number offset) : Spelled [name, number] (.fromFeast name offset)
  | nearDate {name keyword date : String} {direction : Direction} {month day : Nat}
      (isName : Word.IsName name)
      (isKeyword : Text.sameLetters direction.keyword keyword = true)
      (isDate : Word.IsMonthDay date month day) :
      Spelled [name, keyword, date] (.nearDate name direction month day)
  | firstInMonth {name keyword month : String} (isName : Word.IsName name)
      (isKeyword : Text.sameLetters "in" keyword = true) (isMonthName : Word.IsName month) :
      Spelled [name, keyword, month] (.firstInMonth name month)

/-! ## The forms exclude each other -/

theorem isMonthDay_unique {word : String} {month month' day day' : Nat}
    (h : Word.IsMonthDay word month day) (h' : Word.IsMonthDay word month' day') :
    month = month' ∧ day = day' := by
  rw [← Word.monthDay?_iff] at h h'
  rw [h] at h'
  cases h'
  exact ⟨rfl, rfl⟩

theorem isNumber_unique {word : String} {n n' : Int} (h : Word.IsNumber word n)
    (h' : Word.IsNumber word n') : n = n' := by
  obtain ⟨number, hnumber, rfl⟩ := Word.isNumber_iff.1 h
  obtain ⟨number', hnumber', rfl⟩ := Word.isNumber_iff.1 h'
  rw [hnumber] at hnumber'
  cases hnumber'
  rfl

theorem direction_unique {word : String} {direction direction' : Direction}
    (h : Text.sameLetters direction.keyword word = true)
    (h' : Text.sameLetters direction'.keyword word = true) : direction = direction' := by
  rw [← Direction.ofName?_eq_some_iff] at h h'
  rw [h] at h'
  exact Option.some.inj h'

/-- A date has a hyphen, and names have none. -/
theorem not_isName_of_isMonthDay {word : String} {month day : Nat}
    (h : Word.IsMonthDay word month day) : ¬ Word.IsName word := by
  obtain ⟨months, days, hword, -⟩ := h
  intro hname
  have hhyphen := hname.letters '-' (by rw [hword]; simp)
  exact absurd hhyphen (by decide)

/-- **No words spell two phrases.** -/
theorem Spelled.unique {words : List String} {phrase other : Phrase} (h : Spelled words phrase)
    (h' : Spelled words other) : phrase = other := by
  -- only two forms of as many words can meet: one word is a date or a name, and of three words the
  -- second is a direction or "in"
  cases h with
  | fixed isDate =>
    cases h' with
    | fixed isDate' =>
      obtain ⟨rfl, rfl⟩ := isMonthDay_unique isDate isDate'
      rfl
    | onFeast isName => exact absurd isName (not_isName_of_isMonthDay isDate)
  | onFeast isName =>
    cases h' with
    | fixed isDate => exact absurd isName (not_isName_of_isMonthDay isDate)
    | onFeast => rfl
  | fromFeast isName isNumber =>
    cases h' with
    | fromFeast isName' isNumber' => rw [isNumber_unique isNumber isNumber']
  | nearDate isName isKeyword isDate =>
    cases h' with
    | nearDate isName' isKeyword' isDate' =>
      obtain ⟨rfl, rfl⟩ := isMonthDay_unique isDate isDate'
      rw [direction_unique isKeyword isKeyword']
    | firstInMonth isName' isIn =>
      rw [Direction.not_in isKeyword] at isIn
      cases isIn
  | firstInMonth isName isKeyword isMonthName =>
    cases h' with
    | nearDate isName' isDirection =>
      rw [Direction.not_in isDirection] at isKeyword
      cases isKeyword
    | firstInMonth => rfl

/-! ## Readers read phrases -/

/-- The number of days as an offset. -/
def checkedOffset (days : Int) : Except ExpressionFault Int :=
  if maxOffset < days then .error .offsetTooLarge
  else if days < minOffset then .error .offsetTooSmall
  else .ok days

/-- Of the digits only their value counts. -/
theorem offset_eq (number : Word.SignedDigits) : offset number = checkedOffset number.value := rfl

/-- What the phrase comes to: its names are looked up and its numbers are checked from left to
right. -/
def Phrase.reading (registry : Registry) : Phrase → Except ExpressionFault Rule
  | .fixed month day => do
    let (month, day) ← checkedMonthDay month day
    return .fixed month day
  | .onFeast name => do
    let feast ← feast registry name
    return .onFeast (Text.lowercase name) feast
  | .fromFeast name days => do
    let feast ← feast registry name
    let offset ← checkedOffset days
    return .fromFeast (Text.lowercase name) feast offset
  | .nearDate name direction month day => do
    let weekday ← weekday name
    let (month, day) ← checkedMonthDay month day
    return .nearDate weekday direction month day
  | .firstInMonth name monthName => do
    let weekday ← weekday name
    let month ← month monthName
    return .firstInMonth weekday month

variable {words : List String} {registry : Registry} {result : Except ExpressionFault Rule}

theorem readFixed_eq_some_iff :
    readFixed words registry = some result ↔ ∃ month day, Spelled words (.fixed month day) ∧
      (Phrase.fixed month day).reading registry = result := by
  refine ⟨?_, ?_⟩
  · intro h
    unfold readFixed at h
    split at h
    · split at h
      · next month day hdate =>
        exact ⟨month, day, .fixed (Word.monthDay?_iff.1 hdate), Option.some.inj h⟩
      · cases h
    · cases h
  · intro h
    obtain ⟨month, day, hspelled, rfl⟩ := h
    cases hspelled with
    | fixed isDate => simp only [readFixed, Word.monthDay?_iff.2 isDate, Phrase.reading]

theorem readFeast_eq_some_iff :
    readFeast words registry = some result ↔ ∃ name, Spelled words (.onFeast name) ∧
      (Phrase.onFeast name).reading registry = result := by
  refine ⟨?_, ?_⟩
  · intro h
    unfold readFeast at h
    split at h
    · next name =>
      split at h
      · next hname => exact ⟨name, .onFeast (Word.isIdentifier_iff.1 hname), Option.some.inj h⟩
      · cases h
    · cases h
  · intro h
    obtain ⟨name, hspelled, rfl⟩ := h
    cases hspelled with
    | onFeast isName =>
      simp only [readFeast, Word.isIdentifier_iff.2 isName, if_true, Phrase.reading]

theorem readFeastOffset_eq_some_iff :
    readFeastOffset words registry = some result ↔ ∃ name days,
      Spelled words (.fromFeast name days) ∧
        (Phrase.fromFeast name days).reading registry = result := by
  refine ⟨?_, ?_⟩
  · intro h
    unfold readFeastOffset at h
    split at h
    · next name number =>
      split at h
      · next digits hname hnumber =>
        rw [offset_eq] at h
        exact ⟨name, digits.value, .fromFeast (Word.isIdentifier_iff.1 hname)
          (Word.isNumber_iff.2 ⟨digits, hnumber, rfl⟩), Option.some.inj h⟩
      · cases h
    · cases h
  · intro h
    obtain ⟨name, days, hspelled, rfl⟩ := h
    cases hspelled with
    | fromFeast isName isNumber =>
      obtain ⟨digits, hdigits, rfl⟩ := Word.isNumber_iff.1 isNumber
      simp only [readFeastOffset, Word.isIdentifier_iff.2 isName, hdigits, offset_eq,
        Phrase.reading]

theorem readNearDate_eq_some_iff :
    readNearDate words registry = some result ↔ ∃ name direction month day,
      Spelled words (.nearDate name direction month day) ∧
        (Phrase.nearDate name direction month day).reading registry = result := by
  refine ⟨?_, ?_⟩
  · intro h
    unfold readNearDate at h
    split at h
    · next name keyword date =>
      split at h
      · next direction month day hname hkeyword hdate =>
        exact ⟨name, direction, month, day, .nearDate (Word.isIdentifier_iff.1 hname)
          (Direction.ofName?_eq_some_iff.1 hkeyword) (Word.monthDay?_iff.1 hdate),
          Option.some.inj h⟩
      · cases h
    · cases h
  · intro h
    obtain ⟨name, direction, month, day, hspelled, rfl⟩ := h
    cases hspelled with
    | nearDate isName isKeyword isDate =>
      simp only [readNearDate, Word.isIdentifier_iff.2 isName,
        Direction.ofName?_eq_some_iff.2 isKeyword, Word.monthDay?_iff.2 isDate, Phrase.reading]

theorem readFirstInMonth_eq_some_iff :
    readFirstInMonth words registry = some result ↔ ∃ name monthName,
      Spelled words (.firstInMonth name monthName) ∧
        (Phrase.firstInMonth name monthName).reading registry = result := by
  refine ⟨?_, ?_⟩
  · intro h
    unfold readFirstInMonth at h
    split at h
    · next name keyword monthName =>
      split at h
      · next hwords =>
        simp only [Bool.and_eq_true] at hwords
        exact ⟨name, monthName, .firstInMonth (Word.isIdentifier_iff.1 hwords.1.1) hwords.1.2
          (Word.isIdentifier_iff.1 hwords.2), Option.some.inj h⟩
      · cases h
    · cases h
  · intro h
    obtain ⟨name, monthName, hspelled, rfl⟩ := h
    cases hspelled with
    | firstInMonth isName isKeyword isMonthName =>
      simp only [readFirstInMonth, Word.isIdentifier_iff.2 isName, isKeyword,
        Word.isIdentifier_iff.2 isMonthName, Bool.and_self, if_true, Phrase.reading]

/-! ## Whatever is read, its phrase is read -/

/-- The form of the phrase. -/
def Phrase.form : Phrase → Form
  | .fixed _ _ => ⟨"MM-DD", readFixed⟩
  | .onFeast _ => ⟨"<feast>", readFeast⟩
  | .fromFeast _ _ => ⟨"<feast> <offset>", readFeastOffset⟩
  | .nearDate _ _ _ _ => ⟨"<weekday> before|after MM-DD", readNearDate⟩
  | .firstInMonth _ _ => ⟨"<weekday> in <month>", readFirstInMonth⟩

theorem form_mem_forms (phrase : Phrase) : phrase.form ∈ forms := by
  cases phrase <;> simp [Phrase.form, forms]

/-- A form reads nothing but phrases of its own. -/
theorem spelled_of_read {form : Form} (hform : form ∈ forms)
    (h : form.read words registry = some result) :
    ∃ phrase, Spelled words phrase ∧ phrase.form = form ∧ phrase.reading registry = result := by
  simp only [forms, List.mem_cons, List.not_mem_nil, or_false] at hform
  rcases hform with rfl | rfl | rfl | rfl | rfl
  · obtain ⟨month, day, hspelled, hreading⟩ := readFixed_eq_some_iff.1 h
    exact ⟨_, hspelled, rfl, hreading⟩
  · obtain ⟨name, hspelled, hreading⟩ := readFeast_eq_some_iff.1 h
    exact ⟨_, hspelled, rfl, hreading⟩
  · obtain ⟨name, days, hspelled, hreading⟩ := readFeastOffset_eq_some_iff.1 h
    exact ⟨_, hspelled, rfl, hreading⟩
  · obtain ⟨name, direction, month, day, hspelled, hreading⟩ := readNearDate_eq_some_iff.1 h
    exact ⟨_, hspelled, rfl, hreading⟩
  · obtain ⟨name, monthName, hspelled, hreading⟩ := readFirstInMonth_eq_some_iff.1 h
    exact ⟨_, hspelled, rfl, hreading⟩

/-- Every phrase is read by its form. -/
theorem read_of_spelled {phrase : Phrase} (h : Spelled words phrase) (registry : Registry) :
    phrase.form.read words registry = some (phrase.reading registry) := by
  cases phrase with
  | fixed month day => exact readFixed_eq_some_iff.2 ⟨month, day, h, rfl⟩
  | onFeast name => exact readFeast_eq_some_iff.2 ⟨name, h, rfl⟩
  | fromFeast name days => exact readFeastOffset_eq_some_iff.2 ⟨name, days, h, rfl⟩
  | nearDate name direction month day =>
    exact readNearDate_eq_some_iff.2 ⟨name, direction, month, day, h, rfl⟩
  | firstInMonth name monthName => exact readFirstInMonth_eq_some_iff.2 ⟨name, monthName, h, rfl⟩

/-! ## The order of the forms -/

/-- The reading of the first form of `order` whose shape the words have. -/
def readWordsIn (order : List Form) (words : List String) (registry : Registry) :
    Except ExpressionFault Rule :=
  match order.findSome? fun form => form.read words registry with
  | some reading => reading
  | none => .error .unknownForm

variable {order : List Form}

/-- Whichever form reads the words first, what it reads is their one phrase. -/
theorem readWordsIn_of_spelled (horder : order.Perm forms) {phrase : Phrase}
    (h : Spelled words phrase) (registry : Registry) :
    readWordsIn order words registry = phrase.reading registry := by
  have hread := read_of_spelled h registry
  unfold readWordsIn
  cases hfirst : order.findSome? fun form => form.read words registry with
  | none =>
    have hform : phrase.form ∈ order := horder.mem_iff.2 (form_mem_forms phrase)
    rw [List.findSome?_eq_none_iff.1 hfirst phrase.form hform] at hread
    cases hread
  | some reading =>
    -- it may be another form that reads them first, but not another phrase
    obtain ⟨first, hmem, hfirst⟩ := List.exists_of_findSome?_eq_some hfirst
    obtain ⟨other, hother, -, rfl⟩ := spelled_of_read (horder.mem_iff.1 hmem) hfirst
    rw [h.unique hother]

theorem readWordsIn_of_not_spelled (horder : order.Perm forms)
    (h : ∀ phrase, ¬ Spelled words phrase) (registry : Registry) :
    readWordsIn order words registry = .error .unknownForm := by
  unfold readWordsIn
  cases hfirst : order.findSome? fun form => form.read words registry with
  | none => rfl
  | some reading =>
    obtain ⟨form, hform, hread⟩ := List.exists_of_findSome?_eq_some hfirst
    obtain ⟨phrase, hspelled, -⟩ := spelled_of_read (horder.mem_iff.1 hform) hread
    exact absurd hspelled (h phrase)

/-- **Words that spell a phrase are read as it.** -/
theorem readWords_of_spelled {phrase : Phrase} (h : Spelled words phrase) (registry : Registry) :
    readWords words registry = phrase.reading registry :=
  readWordsIn_of_spelled (.refl forms) h registry

/-- Words that spell no phrase are not read. -/
theorem readWords_of_not_spelled (h : ∀ phrase, ¬ Spelled words phrase) (registry : Registry) :
    readWords words registry = .error .unknownForm :=
  readWordsIn_of_not_spelled (.refl forms) h registry

end Almanac.Expression
