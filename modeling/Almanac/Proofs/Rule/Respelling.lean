import Almanac.Proofs.Rule.Canonical

/-!
# Spellings of an expression

Expressions whose words differ in the case of ASCII letters at most mean the same. Dates and numbers
have no letters, so they are the same words. Names are the same names: those of weekdays and months
are matched up to the case of ASCII letters, and those of feasts in lower case, which is the same
for both spellings. So whatever words write a rule, the respelled ones write the same one, and
whatever is wrong with the words is wrong with the respelled ones (`Writes.respelled`,
`Faulty.respelled`).
-/

namespace Almanac

/-- The fault with the word that it names in small letters of ASCII. -/
def ExpressionFault.lowered : ExpressionFault → ExpressionFault
  | unknownWeekday name => unknownWeekday (Text.asciiLower name)
  | unknownMonth name => unknownMonth (Text.asciiLower name)
  | unknownFeast name => unknownFeast (Text.asciiLower name)
  | fault => fault

theorem Registry.get?_respelled {name spelling : String}
    (h : Text.sameLetters name spelling = true) (registry : Registry) :
    registry.get? spelling = registry.get? name := by
  unfold get?
  rw [Text.lowercase_of_sameLetters h]

/-! ## Single words -/

namespace Word

variable {word spelling : String}

theorem isIdentifier_asciiLower (word : String) :
    isIdentifier (Text.asciiLower word) = isIdentifier word := by
  have halphanumeric : ∀ c : Char, Text.isAlphanumeric c.toLower = Text.isAlphanumeric c :=
    Text.apply_toLower true fun _ hletter => Text.isAlphanumeric_of_isAlpha hletter
  have hunderscore : ∀ c : Char, (c.toLower == '_') = (c == '_') :=
    fun c => Text.toLower_beq c (by decide)
  unfold isIdentifier Text.asciiLower
  rw [String.toList_ofList, List.isEmpty_map, List.all_map]
  simp only [Function.comp_def, halphanumeric, hunderscore]

theorem IsName.respelled (h : IsName word) (hsame : Text.sameLetters word spelling = true) :
    IsName spelling := by
  rw [← isIdentifier_iff] at h ⊢
  rw [← isIdentifier_asciiLower, ← (Text.sameLetters_iff _ _).1 hsame, isIdentifier_asciiLower, h]

theorem Spells.letterless {digits : List Char} {n : Nat} (h : Spells digits n) :
    ∀ c ∈ digits, c.isAlpha = false := by
  intro c hc
  have hdigit := Char.isDigit_iff_toNat.1 (h.ascii c hc)
  rw [Bool.eq_false_iff]
  intro hletter
  have hbounds := Text.isAlpha_iff.1 hletter
  simp at hdigit
  omega

theorem IsMonthDay.respelled {month day : Nat} (h : IsMonthDay word month day)
    (hsame : Text.sameLetters word spelling = true) : IsMonthDay spelling month day := by
  obtain ⟨months, days, hword, ⟨-, hmonths⟩, -, hdays⟩ := id h
  have hletterless : ∀ c ∈ word.toList, c.isAlpha = false := by
    rw [hword, List.forall_mem_append, List.forall_mem_cons]
    exact ⟨hmonths.letterless, by decide, hdays.letterless⟩
  exact Text.eq_of_sameLetters hsame hletterless ▸ h

theorem IsNumber.respelled {n : Int} (h : IsNumber word n)
    (hsame : Text.sameLetters word spelling = true) : IsNumber spelling n := by
  have hletterless : ∀ c ∈ word.toList, c.isAlpha = false := by
    cases h with
    | unsigned digits => exact digits.letterless
    | plus sign digits =>
      rw [sign, List.forall_mem_cons]
      exact ⟨by decide, digits.letterless⟩
    | minus sign digits =>
      rw [sign, List.forall_mem_cons]
      exact ⟨by decide, digits.letterless⟩
  exact Text.eq_of_sameLetters hsame hletterless ▸ h

end Word

/-! ## Words in a row -/

namespace Expression

/-- The phrases differ in the case of ASCII letters at most. -/
inductive Phrase.Alike : Phrase → Phrase → Prop
  | fixed (month day : Nat) : Alike (.fixed month day) (.fixed month day)
  | onFeast {name spelling : String} (same : Text.sameLetters name spelling = true) :
      Alike (.onFeast name) (.onFeast spelling)
  | fromFeast {name spelling : String} (same : Text.sameLetters name spelling = true)
      (offset : Int) : Alike (.fromFeast name offset) (.fromFeast spelling offset)
  | nearDate {name spelling : String} (same : Text.sameLetters name spelling = true)
      (direction : Direction) (month day : Nat) :
      Alike (.nearDate name direction month day) (.nearDate spelling direction month day)
  | firstInMonth {name spelling month monthSpelling : String}
      (same : Text.sameLetters name spelling = true)
      (sameMonth : Text.sameLetters month monthSpelling = true) :
      Alike (.firstInMonth name month) (.firstInMonth spelling monthSpelling)

variable {registry : Registry} {words other : List String}

theorem Spelled.respelled {phrase : Phrase} (h : Spelled words phrase)
    (hsame : List.Forall₂ (fun a b => Text.sameLetters a b = true) words other) :
    ∃ phrase', Spelled other phrase' ∧ phrase.Alike phrase' := by
  -- the phrase says how many words there are, so the other words are as many
  cases h with
  | fixed isDate =>
    obtain _ | ⟨hdate, _ | _⟩ := hsame
    exact ⟨_, .fixed (isDate.respelled hdate), .fixed _ _⟩
  | onFeast isName =>
    obtain _ | ⟨hname, _ | _⟩ := hsame
    exact ⟨_, .onFeast (isName.respelled hname), .onFeast hname⟩
  | fromFeast isName isNumber =>
    obtain _ | ⟨hname, _ | ⟨hnumber, _ | _⟩⟩ := hsame
    exact ⟨_, .fromFeast (isName.respelled hname) (isNumber.respelled hnumber), .fromFeast hname _⟩
  | nearDate isName isKeyword isDate =>
    obtain _ | ⟨hname, _ | ⟨hkeyword, _ | ⟨hdate, _ | _⟩⟩⟩ := hsame
    rw [← Text.sameLetters_congr hkeyword] at isKeyword
    exact ⟨_, .nearDate (isName.respelled hname) isKeyword (isDate.respelled hdate),
      .nearDate hname _ _ _⟩
  | firstInMonth isName isKeyword isMonthName =>
    obtain _ | ⟨hname, _ | ⟨hkeyword, _ | ⟨hmonth, _ | _⟩⟩⟩ := hsame
    rw [← Text.sameLetters_congr hkeyword] at isKeyword
    exact ⟨_, .firstInMonth (isName.respelled hname) isKeyword (isMonthName.respelled hmonth),
      .firstInMonth hname hmonth⟩

/-- **Respelled words write the same rule.** -/
theorem Writes.respelled {rule : Rule} (h : Writes registry words rule)
    (hsame : List.Forall₂ (fun a b => Text.sameLetters a b = true) words other) :
    Writes registry other rule := by
  cases h with
  | fixed isDate hasDay =>
    obtain _ | ⟨hdate, _ | _⟩ := hsame
    exact .fixed (isDate.respelled hdate) hasDay
  | onFeast isName known =>
    obtain _ | ⟨hname, _ | _⟩ := hsame
    rw [← Registry.get?_respelled hname] at known
    -- the rule has the name of the feast in lower case, which both spellings share
    rw [Text.lowercase_of_sameLetters hname]
    exact .onFeast (isName.respelled hname) known
  | fromFeast isName isNumber known least greatest =>
    obtain _ | ⟨hname, _ | ⟨hnumber, _ | _⟩⟩ := hsame
    rw [← Registry.get?_respelled hname] at known
    rw [Text.lowercase_of_sameLetters hname]
    exact .fromFeast (isName.respelled hname) (isNumber.respelled hnumber) known least greatest
  -- names of weekdays and months and keywords are gone once they are understood
  | nearDate isWeekday isKeyword isDate hasDay =>
    obtain _ | ⟨hname, _ | ⟨hkeyword, _ | ⟨hdate, _ | _⟩⟩⟩ := hsame
    rw [← Text.sameLetters_congr hname] at isWeekday
    rw [← Text.sameLetters_congr hkeyword] at isKeyword
    exact .nearDate isWeekday isKeyword (isDate.respelled hdate) hasDay
  | firstInMonth isWeekday isKeyword isMonth =>
    obtain _ | ⟨hname, _ | ⟨hkeyword, _ | ⟨hmonth, _ | _⟩⟩⟩ := hsame
    rw [← Text.sameLetters_congr hname] at isWeekday
    rw [← Text.sameLetters_congr hkeyword] at isKeyword
    rw [← Text.sameLetters_congr hmonth] at isMonth
    exact .firstInMonth isWeekday isKeyword isMonth

/-- **The same is wrong with respelled words.** -/
theorem Faulty.respelled {fault : ExpressionFault} (h : Faulty registry words fault)
    (hsame : List.Forall₂ (fun a b => Text.sameLetters a b = true) words other) :
    ∃ fault', Faulty registry other fault' ∧ fault.lowered = fault'.lowered := by
  cases h with
  | unknownForm unspelled =>
    -- a phrase of the respelled words would be one of the words
    have hback : List.Forall₂ (fun a b => Text.sameLetters a b = true) other words :=
      hsame.flip.imp fun _ _ hword => Text.sameLetters_symm hword
    refine ⟨_, .unknownForm ?_, rfl⟩
    intro phrase' spelled'
    obtain ⟨phrase, spelled, -⟩ := spelled'.respelled hback
    exact unspelled phrase spelled
  -- in all other cases the phrase is respelled, and what fails for a word of it fails for its
  -- respelling
  | fixed spelled noDay =>
    obtain ⟨_, spelled', halike⟩ := spelled.respelled hsame
    cases halike
    exact ⟨_, .fixed spelled' noDay, rfl⟩
  | onFeast spelled unknown =>
    obtain ⟨_, spelled', halike⟩ := spelled.respelled hsame
    cases halike with
    | onFeast same =>
      exact ⟨_, .onFeast spelled' ((Registry.get?_respelled same registry).trans unknown),
        congrArg ExpressionFault.unknownFeast ((Text.sameLetters_iff _ _).1 same)⟩
  | fromFeast spelled unknown =>
    obtain ⟨_, spelled', halike⟩ := spelled.respelled hsame
    cases halike with
    | fromFeast same =>
      exact ⟨_, .fromFeast spelled' ((Registry.get?_respelled same registry).trans unknown),
        congrArg ExpressionFault.unknownFeast ((Text.sameLetters_iff _ _).1 same)⟩
  | tooLarge spelled known large =>
    obtain ⟨_, spelled', halike⟩ := spelled.respelled hsame
    cases halike with
    | fromFeast same =>
      exact ⟨_, .tooLarge spelled' ((Registry.get?_respelled same registry).trans known) large, rfl⟩
  | tooSmall spelled known small =>
    obtain ⟨_, spelled', halike⟩ := spelled.respelled hsame
    cases halike with
    | fromFeast same =>
      exact ⟨_, .tooSmall spelled' ((Registry.get?_respelled same registry).trans known) small, rfl⟩
  | nearDate spelled unknown =>
    obtain ⟨_, spelled', halike⟩ := spelled.respelled hsame
    cases halike with
    | nearDate same =>
      simp only [← Text.sameLetters_congr same] at unknown
      exact ⟨_, .nearDate spelled' unknown,
        congrArg ExpressionFault.unknownWeekday ((Text.sameLetters_iff _ _).1 same)⟩
  | nearNoDay spelled known noDay =>
    obtain ⟨_, spelled', halike⟩ := spelled.respelled hsame
    cases halike with
    | nearDate same =>
      rw [← Text.sameLetters_congr same] at known
      exact ⟨_, .nearNoDay spelled' known noDay, rfl⟩
  | firstInMonth spelled unknown =>
    obtain ⟨_, spelled', halike⟩ := spelled.respelled hsame
    cases halike with
    | firstInMonth same sameMonth =>
      simp only [← Text.sameLetters_congr same] at unknown
      exact ⟨_, .firstInMonth spelled' unknown,
        congrArg ExpressionFault.unknownWeekday ((Text.sameLetters_iff _ _).1 same)⟩
  | inNoMonth spelled known unknown =>
    obtain ⟨_, spelled', halike⟩ := spelled.respelled hsame
    cases halike with
    | firstInMonth same sameMonth =>
      rw [← Text.sameLetters_congr same] at known
      simp only [← Text.sameLetters_congr sameMonth] at unknown
      exact ⟨_, .inNoMonth spelled' known unknown,
        congrArg ExpressionFault.unknownMonth ((Text.sameLetters_iff _ _).1 sameMonth)⟩

end Expression

/--
**The spelling of an expression does not matter.**

Two expressions whose words differ in the case of ASCII letters at most are read as the same rule,
or the same is wrong with both: the faults are of one kind, have the same numbers and name words
that differ in the case of ASCII letters at most. How the words are parted does not matter either.
-/
theorem Rule.ofExpression_respelled {expression spelling : String}
    (hsame : List.Forall₂ (fun a b => Text.sameLetters a b = true) (Text.words expression)
      (Text.words spelling)) (registry : Registry) :
    (∃ rule, Rule.ofExpression expression registry = .ok rule ∧
      Rule.ofExpression spelling registry = .ok rule ∧ (rule == rule) = true) ∨
    ∃ fault fault', Rule.ofExpression expression registry = .error ⟨expression, fault⟩ ∧
      Rule.ofExpression spelling registry = .error ⟨spelling, fault'⟩ ∧
      fault.lowered = fault'.lowered := by
  rcases Expression.writes_or_faulty registry (Text.words expression) with
    ⟨rule, hwrites⟩ | ⟨fault, hfaulty⟩
  · refine Or.inl ⟨rule, Rule.ofExpression_eq_ok_iff.2 hwrites, ?_, Rule.beq_self rule⟩
    exact Rule.ofExpression_eq_ok_iff.2 (hwrites.respelled hsame)
  · obtain ⟨fault', hfaulty', hlowered⟩ := hfaulty.respelled hsame
    exact Or.inr ⟨fault, fault', Rule.ofExpression_of_faulty hfaulty,
      Rule.ofExpression_of_faulty hfaulty', hlowered⟩

/-- A feast whose name ends in a capital sigma, and an unknown weekday. -/
theorem Rule.ofExpression_respelled_sigma :
    let registry : Registry := ⟨[("aς", easterSunday)]⟩
    List.Forall₂ (fun a b => Text.sameLetters a b = true) (Text.words "AΣ +02")
        (Text.words " aΣ\u3000+02") ∧
      Rule.ofExpression " aΣ\u3000+02" registry = .ok (.fromFeast "aς" easterSunday 2) ∧
      List.Forall₂ (fun a b => Text.sameLetters a b = true) (Text.words "FUNDAY after 02-30")
        (Text.words "Funday AFTER 02-30") ∧
      ∃ fault, Rule.ofExpression "Funday AFTER 02-30" registry =
        .error ⟨"Funday AFTER 02-30", fault⟩ ∧ fault.lowered = .unknownWeekday "funday" := by
  intro registry
  have hsame : List.Forall₂ (fun a b => Text.sameLetters a b = true) (Text.words "AΣ +02")
      (Text.words " aΣ\u3000+02") := .cons (by decide) (.cons (by decide) .nil)
  have hsame' : List.Forall₂ (fun a b => Text.sameLetters a b = true)
      (Text.words "FUNDAY after 02-30") (Text.words "Funday AFTER 02-30") :=
    .cons (by decide) (.cons (by decide) (.cons (by decide) .nil))
  have hread : Rule.ofExpression "AΣ +02" registry = .ok (.fromFeast "aς" easterSunday 2) := by
    have hwords : Text.words "AΣ +02" = ["AΣ", "+02"] := by decide +kernel
    have hlower : Text.lowercase "AΣ" = "aς" := by decide +kernel
    have hname : Word.IsName "AΣ" := Word.isIdentifier_iff.1 (by decide +kernel)
    have hnumber : Word.IsNumber "+02" (2 : Nat) :=
      .plus (by decide +kernel) (Word.spells_paddedDecimal 2 2)
    have hknown : registry.get? "AΣ" = some easterSunday := by
      unfold Registry.get?
      rw [hlower]
      rfl
    rw [Rule.ofExpression_eq_ok_iff, hwords, ← hlower]
    exact .fromFeast hname hnumber hknown (by decide) (by decide)
  have hfault : Rule.ofExpression "FUNDAY after 02-30" registry =
      .error ⟨"FUNDAY after 02-30", .unknownWeekday "FUNDAY"⟩ := by rfl
  refine ⟨hsame, ?_, hsame', ?_⟩
  · rcases Rule.ofExpression_respelled hsame registry with
      ⟨rule, hrule, hrule', -⟩ | ⟨_, _, herror, -⟩
    · rw [hread] at hrule
      rw [hrule', hrule]
    · rw [hread] at herror
      cases herror
  · rcases Rule.ofExpression_respelled hsame' registry with
      ⟨rule, hrule, -⟩ | ⟨fault, fault', herror, herror', hlowered⟩
    · rw [hfault] at hrule
      cases hrule
    · rw [hfault] at herror
      cases herror
      refine ⟨fault', herror', ?_⟩
      rw [← hlowered]
      decide

end Almanac
