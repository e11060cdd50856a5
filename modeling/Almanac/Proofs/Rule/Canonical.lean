import Almanac.Proofs.Rule.Grammar
import Almanac.Proofs.Text.Lowercase

/-!
# Rules and their canonical texts

Which rules can be read at all, and how to write them. A rule that was read is well-formed: its date
exists, its feast is the one that the registry has under its name, and the name is a word of the
expression in lower case. A well-formed rule has a canonical text, and reading the text gives back
the rule. Both directions go through the grammar, where a rule and the words that write it stand
side by side: `Writes.wellFormed` reads a rule off its words, `writes_pieces` goes back.
-/

namespace Almanac

namespace Rule

/-! ## Well-formed rules and their texts -/

/-- The day is one of the month in the years when the month is longest. -/
def HasDay (month day : Nat) : Prop :=
  (1 ≤ month ∧ month ≤ 12) ∧ 1 ≤ day ∧ ∃ length, maxDaysOfMonth? month = some length ∧ day ≤ length

/-- Dates exist, offsets fit in 64 bits, and feasts are those of the registry, under names that are
`Named`. -/
def WellFormed (registry : Registry) (Named : String → Prop) : Rule → Prop
  | fixed month day => HasDay month day
  | onFeast name feast => Named name ∧ registry.get? name = some feast
  | fromFeast name feast offset =>
    (Named name ∧ registry.get? name = some feast) ∧ -2 ^ 63 ≤ offset ∧ offset < 2 ^ 63
  | nearDate _ _ month day => HasDay month day
  | firstInMonth _ _ => True

/-- `MM-DD` -/
def monthDayText (month day : Nat) : String :=
  Text.paddedDecimal 2 month ++ "-" ++ Text.paddedDecimal 2 day

/-- The words of the canonical text. -/
def pieces : Rule → List String
  | fixed month day => [monthDayText month day]
  | onFeast name _ => [name]
  | fromFeast name _ offset => [name, toString offset]
  | nearDate weekday direction month day =>
    [weekday.name, direction.keyword, monthDayText month day]
  | firstInMonth weekday month => [weekday.name, "in", Text.asciiLower month.name]

/-- The canonical text of the rule: names in full and in lower case, numbers in decimal, months and
days with two digits, and one space between any two words. -/
def text (rule : Rule) : String := " ".intercalate rule.pieces

/-- The rule with the name of its feast in lower case. -/
def lowered : Rule → Rule
  | onFeast name feast => onFeast (Text.lowercase name) feast
  | fromFeast name feast offset => fromFeast (Text.lowercase name) feast offset
  | rule => rule

theorem WellFormed.imp {registry : Registry} {Named Known : String → Prop} {rule : Rule}
    (h : rule.WellFormed registry Named) (himp : ∀ name, Named name → Known name) :
    rule.WellFormed registry Known := by
  cases rule with
  | fixed month day => exact h
  | onFeast name feast => exact ⟨himp name h.1, h.2⟩
  | fromFeast name feast offset => exact ⟨⟨himp name h.1.1, h.1.2⟩, h.2⟩
  | nearDate weekday direction month day => exact h
  | firstInMonth weekday month => trivial

theorem lowered_eq {registry : Registry} {rule : Rule}
    (h : rule.WellFormed registry fun name => Text.lowercase name = name) :
    rule.lowered = rule := by
  cases rule with
  | onFeast name feast => rw [lowered, h.1]
  | fromFeast name feast offset => rw [lowered, h.1.1]
  | _ => rfl

theorem beq_self (rule : Rule) : (rule == rule) = true := by
  show same rule rule = true
  cases rule <;> simp [same]

end Rule

theorem hasDay_iff {month day : Nat} : Rule.HasDay month day ↔ InLeapYear month day := by
  have hleap : isLeap 2000 = true := by decide
  unfold Rule.HasDay maxDaysOfMonth?
  rw [inLeapYear_iff]
  refine ⟨?_, ?_⟩
  · intro h
    obtain ⟨hmonth, hday, length, hlength, hle⟩ := h
    rw [daysOfMonth?_eq_some_iff, hleap] at hlength
    rw [hlength.2]
    exact ⟨hmonth, hday, hle⟩
  · intro h
    obtain ⟨hmonth, hday, hle⟩ := h
    refine ⟨hmonth, hday, _, ?_, hle⟩
    rw [daysOfMonth?_eq_some_iff, hleap]
    exact ⟨hmonth.2, rfl⟩

/-- A registry has the same feast under a name and under the name in lower case. -/
theorem Registry.get?_lowercase (registry : Registry) (name : String) :
    registry.get? (Text.lowercase name) = registry.get? name := by
  unfold get?
  rw [Text.lowercase_lowercase]

/-! ## Words are unbroken -/

namespace Word

theorem IsName.unbroken {word : String} (h : IsName word) : Text.Unbroken word := by
  refine ⟨h.nonempty, ?_⟩
  intro c hc
  rcases h.letters c hc with hletter | rfl
  · exact Text.isBlank_of_isAlphanumeric hletter
  · decide

theorem Spells.unblank {digits : List Char} {n : Nat} (h : Spells digits n) :
    ∀ c ∈ digits, Text.isBlank c = false := by
  intro c hc
  have hdigit := h.ascii c hc
  have hascii : c.toNat < 0x80 := ascii_of_isDigit hdigit
  apply Text.isBlank_of_isAlphanumeric
  unfold Text.isAlphanumeric
  rw [if_pos hascii, Char.isAlphanum, hdigit, Bool.or_true]

theorem unbroken_of_sign {word : String} {sign : Char} {digits : List Char} {n : Nat}
    (hword : word.toList = sign :: digits) (hsign : Text.isBlank sign = false)
    (h : Spells digits n) : Text.Unbroken word := by
  refine ⟨by rw [hword]; exact List.cons_ne_nil _ _, ?_⟩
  rw [hword, List.forall_mem_cons]
  exact ⟨hsign, h.unblank⟩

theorem IsNumber.unbroken {word : String} {n : Int} (h : IsNumber word n) :
    Text.Unbroken word := by
  cases h with
  | unsigned digits => exact ⟨digits.nonempty, digits.unblank⟩
  | plus sign digits => exact unbroken_of_sign sign (by decide) digits
  | minus sign digits => exact unbroken_of_sign sign (by decide) digits

theorem IsMonthDay.unbroken {word : String} {month day : Nat} (h : IsMonthDay word month day) :
    Text.Unbroken word := by
  obtain ⟨months, days, hword, ⟨-, hmonths⟩, -, hdays⟩ := h
  refine ⟨by rw [hword]; simp, ?_⟩
  rw [hword, List.forall_mem_append, List.forall_mem_cons]
  exact ⟨hmonths.unblank, by decide, hdays.unblank⟩

end Word

theorem Direction.isName {direction : Direction} {word : String}
    (h : Text.sameLetters direction.keyword word = true) : Word.IsName word :=
  Word.isName_of_sameLetters h (by cases direction <;> decide) (by cases direction <;> decide)

/-! ## Numbers are written in decimal -/

namespace Word

theorem spells_toDigits (n : Nat) : Spells (Nat.toDigits 10 n) n where
  nonempty := Nat.toDigits_ne_nil
  ascii _ hdigit := Nat.isDigit_of_mem_toDigits (by decide) (by decide) hdigit
  value := Nat.ofDigitChars_toDigits (by decide) (by decide)

/-- Zeros in front do not count. -/
theorem spells_paddedDecimal (width n : Nat) :
    Spells (Text.paddedDecimal width n).toList n := by
  have hdigits := spells_toDigits n
  unfold Text.paddedDecimal
  rw [String.toList_ofList, List.leftpad]
  refine ⟨?_, ?_, ?_⟩
  · intro h
    exact hdigits.nonempty (List.append_eq_nil_iff.1 h).2
  · intro digit hdigit
    rcases List.mem_append.1 hdigit with hzero | hdigit
    · rw [List.eq_of_mem_replicate hzero]; decide
    · exact hdigits.ascii digit hdigit
  · show Nat.ofDigitChars 10 (List.replicate _ '0' ++ Nat.toDigits 10 n) 0 = n
    rw [Nat.ofDigitChars_append, Nat.ofDigitChars_replicate_zero, Nat.mul_zero]
    exact hdigits.value

theorem length_paddedDecimal_two {n : Nat} (h : n < 100) :
    (Text.paddedDecimal 2 n).toList.length = 2 := by
  have hlength : (Nat.toDigits 10 n).length ≤ 2 :=
    (Nat.length_toDigits_le_iff (by decide) (by decide)).2 h
  unfold Text.paddedDecimal
  rw [String.toList_ofList, List.length_leftpad]
  omega

theorem isMonthDay_monthDayText {month day : Nat} (hmonth : month < 100) (hday : day < 100) :
    IsMonthDay (Rule.monthDayText month day) month day := by
  refine ⟨_, _, ?_, ⟨length_paddedDecimal_two hmonth, spells_paddedDecimal 2 month⟩,
    length_paddedDecimal_two hday, spells_paddedDecimal 2 day⟩
  simp [Rule.monthDayText]

theorem isNumber_toString (n : Int) : IsNumber (toString n) n := by
  cases n with
  | ofNat m =>
    refine .unsigned ?_
    show Spells m.repr.toList m
    rw [Nat.toList_repr]
    exact spells_toDigits m
  | negSucc m =>
    have hsign : (toString (Int.negSucc m)).toList = '-' :: Nat.toDigits 10 (m + 1) := by
      show ("-" ++ (m + 1).repr).toList = _
      rw [String.toList_append, Nat.toList_repr]
      rfl
    exact .minus hsign (spells_toDigits (m + 1))

end Word

/-! ## A rule and the words that write it -/

namespace Expression

variable {registry : Registry} {words : List String} {rule : Rule}

theorem Writes.unbroken (h : Writes registry words rule) : ∀ word ∈ words, Text.Unbroken word := by
  cases h with
  | fixed isDate hasDay => simpa using isDate.unbroken
  | onFeast isName known => simpa using isName.unbroken
  | fromFeast isName isNumber known least greatest =>
    simpa using ⟨isName.unbroken, isNumber.unbroken⟩
  | nearDate isWeekday isKeyword isDate hasDay =>
    simpa using ⟨(Weekday.isName isWeekday).unbroken, (Direction.isName isKeyword).unbroken,
      isDate.unbroken⟩
  | firstInMonth isWeekday isKeyword isMonth =>
    have hkeyword := Word.isName_of_sameLetters isKeyword (by decide) (by decide)
    simpa using ⟨(Weekday.isName isWeekday).unbroken, hkeyword.unbroken,
      (Month.isName isMonth).unbroken⟩

/-- **The rules that are read are well-formed**, and their feasts are named by a word. -/
theorem Writes.wellFormed (h : Writes registry words rule) :
    rule.WellFormed registry fun name =>
      ∃ token ∈ words, Word.IsName token ∧ Text.lowercase token = name := by
  cases h with
  | fixed isDate hasDay => exact hasDay_iff.2 hasDay
  | @onFeast name feast isName known =>
    refine ⟨⟨name, by simp, isName, rfl⟩, ?_⟩
    rw [registry.get?_lowercase, known]
  | @fromFeast name number feast offset isName isNumber known least greatest =>
    refine ⟨⟨⟨name, by simp, isName, rfl⟩, ?_⟩, least, greatest⟩
    rw [registry.get?_lowercase, known]
  | nearDate isWeekday isKeyword isDate hasDay => exact hasDay_iff.2 hasDay
  | firstInMonth isWeekday isKeyword isMonth => trivial

theorem isMonthDay_of_hasDay {month day : Nat} (h : Rule.HasDay month day) :
    Word.IsMonthDay (Rule.monthDayText month day) month day := by
  obtain ⟨hmonth, -, length, hlength, hle⟩ := h
  obtain ⟨-, hlength⟩ := daysOfMonth?_eq_some_iff.1 hlength
  have hshort := lengthOf_le (isLeap 2000) hmonth.2
  exact Word.isMonthDay_monthDayText (by omega) (by omega)

/-- **The words of the canonical text write the rule**, with its feast named in lower case. -/
theorem writes_pieces (h : rule.WellFormed registry Word.IsName) :
    Writes registry rule.pieces rule.lowered := by
  cases rule with
  | fixed month day => exact .fixed (isMonthDay_of_hasDay h) (hasDay_iff.1 h)
  | onFeast name feast => exact .onFeast h.1 h.2
  | fromFeast name feast offset =>
    exact .fromFeast h.1.1 (Word.isNumber_toString offset) h.1.2 h.2.1 h.2.2
  | nearDate weekday direction month day =>
    refine .nearDate ?_ ?_ (isMonthDay_of_hasDay h) (hasDay_iff.1 h)
    · rw [Text.sameLetters_iff]
    · rw [Text.sameLetters_iff]
  | firstInMonth weekday month =>
    refine .firstInMonth ?_ (by decide) ?_
    · rw [Text.sameLetters_iff]
    · cases month <;> decide

end Expression

namespace Rule

variable {registry : Registry} {rule : Rule}

theorem ofExpression_eq_ok_iff {expression : String} :
    ofExpression expression registry = .ok rule ↔
      Expression.Writes registry (Text.words expression) rule := by
  rw [← Expression.readWords_eq_ok_iff]
  unfold ofExpression
  cases Expression.readWords (Text.words expression) registry <;> simp

theorem ofExpression_of_faulty {expression : String} {fault : ExpressionFault}
    (h : Expression.Faulty registry (Text.words expression) fault) :
    ofExpression expression registry = .error ⟨expression, fault⟩ := by
  unfold ofExpression
  rw [Expression.readWords_of_faulty h]

/-- A canonical text is read as the rule, with its feast named in lower case. -/
theorem ofExpression_text (h : rule.WellFormed registry Word.IsName) :
    ofExpression rule.text registry = .ok rule.lowered := by
  have hwrites := Expression.writes_pieces h
  rw [ofExpression_eq_ok_iff]
  unfold text
  rw [Text.words_intercalate hwrites.unbroken]
  exact hwrites

/-- Where the name of the feast comes from a word, the rule can be written with that word. -/
theorem exists_spelled
    (h : rule.WellFormed registry fun name =>
      ∃ token, Word.IsName token ∧ Text.lowercase token = name) :
    ∃ spelled : Rule, spelled.WellFormed registry Word.IsName ∧ spelled.lowered = rule := by
  cases rule with
  | onFeast name feast =>
    obtain ⟨⟨token, hname, rfl⟩, hknown⟩ := h
    rw [registry.get?_lowercase] at hknown
    exact ⟨onFeast token feast, ⟨hname, hknown⟩, rfl⟩
  | fromFeast name feast offset =>
    obtain ⟨⟨⟨token, hname, rfl⟩, hknown⟩, hoffset⟩ := h
    rw [registry.get?_lowercase] at hknown
    exact ⟨fromFeast token feast offset, ⟨⟨hname, hknown⟩, hoffset⟩, rfl⟩
  | fixed month day => exact ⟨fixed month day, h, rfl⟩
  | nearDate weekday direction month day => exact ⟨nearDate weekday direction month day, h, rfl⟩
  | firstInMonth weekday month => exact ⟨firstInMonth weekday month, h, rfl⟩

/--
**The rules that can be read are the well-formed ones, and their canonical texts read back.**

What is read from an expression is well-formed, and its feast is named by a word of the expression
in lower case; every such rule can be read from some expression. Its canonical text is one, provided
that the name in lower case can itself be a name, and what is read from it is the rule itself.
-/
theorem ofExpression_image (registry : Registry) :
    (∀ expression rule, ofExpression expression registry = .ok rule →
      rule.WellFormed registry fun name =>
        ∃ token ∈ Text.words expression, Word.IsName token ∧ Text.lowercase token = name) ∧
    (∀ rule : Rule,
      (rule.WellFormed registry fun name =>
        ∃ token, Word.IsName token ∧ Text.lowercase token = name) →
      ∃ expression, ofExpression expression registry = .ok rule) ∧
    ∀ rule : Rule,
      (rule.WellFormed registry fun name => Word.IsName name ∧ Text.lowercase name = name) →
      ofExpression rule.text registry = .ok rule ∧ (rule == rule) = true := by
  refine ⟨?_, ?_, ?_⟩
  · intro expression rule h
    exact (ofExpression_eq_ok_iff.1 h).wellFormed
  · intro rule h
    obtain ⟨spelled, hspelled, rfl⟩ := exists_spelled h
    exact ⟨spelled.text, ofExpression_text hspelled⟩
  · intro rule h
    have hlowered : rule.lowered = rule := lowered_eq (h.imp fun name hname => hname.2)
    have hread := ofExpression_text (h.imp fun name hname => hname.1)
    rw [hlowered] at hread
    exact ⟨hread, beq_self rule⟩

/-- Good Friday, written carelessly and canonically, and the Friday before a date. -/
theorem ofExpression_image_easter :
    let friday : Rule := .fromFeast "easter" easterSunday (-2)
    ofExpression " EASTER\t-002" .standard = .ok friday ∧
      (friday.WellFormed .standard fun name =>
        ∃ token ∈ Text.words " EASTER\t-002",
          Word.IsName token ∧ Text.lowercase token = name) ∧
      (∃ expression, ofExpression expression .standard = .ok friday) ∧
      (friday.text = "easter -2" ∧
        ofExpression friday.text .standard = .ok friday ∧ (friday == friday) = true) ∧
      (nearDate .friday .before 4 7).text = "friday before 04-07" ∧
      ofExpression (nearDate .friday .before 4 7).text .standard =
        .ok (nearDate .friday .before 4 7) := by
  intro friday
  obtain ⟨hwellFormed, hreadable, htext⟩ := ofExpression_image .standard
  have hname : Word.IsName "easter" := Word.isIdentifier_iff.1 (by decide +kernel)
  have hlower : Text.lowercase "easter" = "easter" := by decide +kernel
  have hknown : Registry.standard.get? "easter" = some easterSunday := by rfl
  have hread : ofExpression " EASTER\t-002" .standard = .ok friday := by rfl
  have hday : HasDay 4 7 := ⟨by decide, by decide, 30, rfl, by decide⟩
  exact ⟨hread, hwellFormed _ _ hread,
    hreadable friday ⟨⟨⟨"easter", hname, hlower⟩, hknown⟩, by decide, by decide⟩,
    ⟨by decide +kernel, htext friday ⟨⟨⟨hname, hlower⟩, hknown⟩, by decide, by decide⟩⟩,
    by decide +kernel, (htext (nearDate .friday .before 4 7) hday).1⟩

end Rule

end Almanac
