import Almanac.Proofs.Rule.Canonical

/-!
# Offsets as they are written

An offset in an expression is a word of digits after at most one sign, of any length. Its spelling
tells whether it is one, before its value is looked at, and the value then has to fit in 64 bits.

Numbers of 64 bits can also be read the other way round, from the first character on: a digit is
taken in by multiplying by ten and adding, and either may be too much. That reader has more to
complain about, since it is given any text. This file says that the two agree
(`readSigned_eq`): what has outgrown 64 bits never comes back, so it makes no difference whether
every step is checked or the value at the end. Of what passes for an offset by its spelling, nothing
is wrong for that reader but the size.
-/

namespace Almanac

namespace Word

/-! ## Numbers of 64 bits -/

/-- Why a text is no number of 64 bits. -/
inductive Int64Fault
  | empty | invalidDigit | tooLarge | tooSmall
  deriving DecidableEq, Repr

/-- The number in 64 bits, if it fits. -/
def int64? (n : Int) : Option Int64 :=
  if -2 ^ 63 ≤ n ∧ n < 2 ^ 63 then some (Int64.ofInt n) else none

/-- What is wrong with a number that has grown too far on its side of zero. -/
def overflow (negative : Bool) : Int64Fault := if negative then .tooSmall else .tooLarge

/-- The number in 64 bits; it is on the given side of zero. -/
def fitted (negative : Bool) (n : Int) : Except Int64Fault Int64 :=
  match int64? n with
  | some value => .ok value
  | none => .error (overflow negative)

/-- The number with or without a sign. -/
def signed (negative : Bool) (n : Nat) : Int := if negative then -n else n

/-- Takes in one more digit. The number must fit before the digit is added and after it. -/
def pushDigit (negative : Bool) (value : Int64) (digit : Char) : Except Int64Fault Int64 :=
  if digit.isDigit then do
    let tenfold ← fitted negative (10 * value.toInt)
    fitted negative (tenfold.toInt + signed negative (digit.toNat - '0'.toNat))
  else .error .invalidDigit

/-- Takes in the digits from left to right. -/
def readSigned (number : SignedDigits) : Except Int64Fault Int64 :=
  number.digits.foldlM (pushDigit number.negative) 0

/-- Reads what stands behind a sign. A sign alone is no number. -/
def readBehindSign (negative : Bool) (digits : List Char) : Except Int64Fault Int64 :=
  if digits.isEmpty then .error .invalidDigit else readSigned ⟨negative, digits⟩

/-- Reads a whole text as a number of 64 bits. -/
def readInt64 (text : String) : Except Int64Fault Int64 :=
  match text.toList with
  | [] => .error .empty
  | '-' :: digits => readBehindSign true digits
  | '+' :: digits => readBehindSign false digits
  | digits => readSigned ⟨false, digits⟩

theorem int64?_eq_some_iff {n : Int} {value : Int64} :
    int64? n = some value ↔ value.toInt = n := by
  have hleast := value.le_toInt
  have hgreatest := value.toInt_lt
  unfold int64?
  split
  · next hfits =>
    rw [Option.some.injEq, ← Int64.toInt_inj, Int64.toInt_ofInt_of_le hfits.1 hfits.2]
    exact eq_comm
  · next hfits =>
    refine ⟨nofun, ?_⟩
    rintro rfl
    exact absurd ⟨hleast, hgreatest⟩ hfits

theorem int64?_eq_none_iff {n : Int} : int64? n = none ↔ n < -2 ^ 63 ∨ 2 ^ 63 ≤ n := by
  unfold int64?
  split
  · next hfits =>
    refine ⟨nofun, ?_⟩
    intro hout
    omega
  · next hfits =>
    refine ⟨fun _ => ?_, fun _ => rfl⟩
    omega

theorem fitted_toInt (negative : Bool) (value : Int64) :
    fitted negative value.toInt = .ok value := by
  unfold fitted
  rw [int64?_eq_some_iff.2 rfl]

theorem fitted_of_none {n : Int} (h : int64? n = none) (negative : Bool) :
    fitted negative n = .error (overflow negative) := by
  unfold fitted
  rw [h]

/-! ## Digit by digit -/

variable {negative : Bool}

/-- What does not fit does not fit either when it is further from zero. -/
theorem int64?_signed_of_le {m n : Nat} (hle : m ≤ n) (h : int64? (signed negative m) = none) :
    int64? (signed negative n) = none := by
  rw [int64?_eq_none_iff] at h ⊢
  unfold signed at h ⊢
  cases negative with
  | false =>
      rw [if_neg Bool.false_ne_true] at h ⊢
      omega
  | true =>
      rw [if_pos rfl] at h ⊢
      omega

theorem signed_push (negative : Bool) (n digit : Nat) :
    10 * signed negative n + signed negative digit = signed negative (10 * n + digit) := by
  unfold signed
  cases negative with
  | false =>
      rw [if_neg Bool.false_ne_true, if_neg Bool.false_ne_true, if_neg Bool.false_ne_true]
      omega
  | true =>
      rw [if_pos rfl, if_pos rfl, if_pos rfl]
      omega

/-- One check, after the digit has been added, is enough. -/
theorem pushDigit_eq {value : Int64} {n : Nat} {digit : Char}
    (hvalue : value.toInt = signed negative n) (hdigit : digit.isDigit = true) :
    pushDigit negative value digit =
      fitted negative (signed negative (10 * n + (digit.toNat - '0'.toNat))) := by
  have hten : 10 * value.toInt = signed negative (10 * n) := by
    have hzero : signed negative 0 = 0 := by cases negative <;> rfl
    have hpush := signed_push negative n 0
    rwa [hzero, Int.add_zero, Nat.add_zero, ← hvalue] at hpush
  unfold pushDigit
  rw [if_pos hdigit, hten]
  cases hfits : int64? (signed negative (10 * n)) with
  | none =>
      have hout := int64?_signed_of_le (Nat.le_add_right _ (digit.toNat - '0'.toNat)) hfits
      rw [fitted_of_none hfits, fitted_of_none hout]
      rfl
  | some tenfold =>
      have htenfold := int64?_eq_some_iff.1 hfits
      rw [← signed_push, ← hvalue, hten, ← htenfold, fitted_toInt]
      rfl

theorem le_ofDigitChars (n : Nat) (digits : List Char) : n ≤ Nat.ofDigitChars 10 digits n := by
  induction digits generalizing n with
  | nil => exact Nat.le_refl n
  | cons digit rest ih =>
      have hrest := ih (10 * n + (digit.toNat - '0'.toNat))
      rw [Nat.ofDigitChars_cons]
      omega

/-- **One check at the end is enough.** Once the number so far is too far from zero, the digits that
follow lead it further away. -/
theorem foldlM_pushDigit {digits : List Char} (hdigits : ∀ digit ∈ digits, digit.isDigit = true)
    {value : Int64} {n : Nat} (hvalue : value.toInt = signed negative n) :
    digits.foldlM (pushDigit negative) value =
      fitted negative (signed negative (Nat.ofDigitChars 10 digits n)) := by
  induction digits generalizing value n with
  | nil =>
      rw [Nat.ofDigitChars_nil, ← hvalue, fitted_toInt]
      rfl
  | cons digit rest ih =>
      rw [List.forall_mem_cons] at hdigits
      rw [List.foldlM_cons, pushDigit_eq hvalue hdigits.1, Nat.ofDigitChars_cons]
      cases hnext : int64? (signed negative (10 * n + (digit.toNat - '0'.toNat))) with
      | none =>
          have hout := int64?_signed_of_le (le_ofDigitChars _ rest) hnext
          rw [fitted_of_none hnext, fitted_of_none hout]
          rfl
      | some next =>
          have hvalue' := int64?_eq_some_iff.1 hnext
          rw [← ih hdigits.2 hvalue', ← hvalue', fitted_toInt]
          rfl

/-- **Sign and digits are read as the number that they spell**, if it fits. -/
theorem readSigned_eq {number : SignedDigits}
    (hdigits : ∀ digit ∈ number.digits, digit.isDigit = true) :
    readSigned number = fitted number.negative number.value := by
  have hzero : (0 : Int64).toInt = signed number.negative 0 := by
    cases number.negative <;> rfl
  unfold readSigned
  rw [foldlM_pushDigit hdigits hzero]
  rfl

/-! ## Words that pass for an offset -/

theorem readSigned_of_spells {digits : List Char} {n : Nat} (h : Spells digits n) :
    readSigned ⟨negative, digits⟩ = fitted negative (signed negative n) := by
  rw [readSigned_eq h.ascii, ← h.value]
  rfl

theorem readBehindSign_of_spells {digits : List Char} {n : Nat} (h : Spells digits n) :
    readBehindSign negative digits = fitted negative (signed negative n) := by
  unfold readBehindSign
  rw [if_neg (by simpa using h.nonempty), readSigned_of_spells h]

/-- They are read as their sign and digits say. -/
theorem readInt64_of_isNumber {word : String} {value : Int} (h : IsNumber word value) :
    ∃ negative n, signed negative n = value ∧
      readInt64 word = fitted negative (signed negative n) := by
  unfold readInt64
  cases h with
  | @unsigned n digits =>
      refine ⟨false, n, rfl, ?_⟩
      -- the word is matched for a sign, and a digit is none
      split
      · next hempty => exact absurd hempty digits.nonempty
      · next rest hword =>
        rw [hword] at digits
        exact absurd rfl digits.head.1
      · next rest hword =>
        rw [hword] at digits
        exact absurd rfl digits.head.2
      · exact readSigned_of_spells digits
  | @plus rest n sign digits =>
      refine ⟨false, n, rfl, ?_⟩
      rw [sign]
      exact readBehindSign_of_spells digits
  | @minus rest n sign digits =>
      refine ⟨true, n, rfl, ?_⟩
      rw [sign]
      exact readBehindSign_of_spells digits

/-- Nothing but the size can be wrong, and the side of zero tells in which way. -/
theorem fitted_signed_iff (negative : Bool) (n : Nat) :
    (∀ offset, fitted negative (signed negative n) = .ok offset ↔
      offset.toInt = signed negative n) ∧
    ∀ fault, fitted negative (signed negative n) = .error fault ↔
      fault = .tooLarge ∧ 2 ^ 63 ≤ signed negative n ∨
        fault = .tooSmall ∧ signed negative n < -2 ^ 63 := by
  -- the sign that is written is the side of zero
  have hside : (negative = true ∧ signed negative n ≤ 0) ∨
      (negative = false ∧ 0 ≤ signed negative n) := by
    unfold signed
    cases negative with
    | false => exact Or.inr ⟨rfl, by rw [if_neg Bool.false_ne_true]; omega⟩
    | true => exact Or.inl ⟨rfl, by rw [if_pos rfl]; omega⟩
  refine eq_ok_and_eq_error_iff ?_ ?_ ?_
  · intro offset hoffset
    rw [← hoffset, fitted_toInt]
  · rintro fault (⟨rfl, hlarge⟩ | ⟨rfl, hsmall⟩)
    · rw [fitted_of_none (int64?_eq_none_iff.2 (Or.inr hlarge))]
      rcases hside with ⟨-, hside⟩ | ⟨rfl, -⟩
      · omega
      · rfl
    · rw [fitted_of_none (int64?_eq_none_iff.2 (Or.inl hsmall))]
      rcases hside with ⟨rfl, -⟩ | ⟨-, hside⟩
      · rfl
      · omega
  · -- what does not fit lies on one of the two sides
    cases hfits : int64? (signed negative n) with
    | some offset => exact Or.inl ⟨offset, int64?_eq_some_iff.1 hfits⟩
    | none =>
        rcases int64?_eq_none_iff.1 hfits with hsmall | hlarge
        · exact Or.inr ⟨.tooSmall, Or.inr ⟨rfl, hsmall⟩⟩
        · exact Or.inr ⟨.tooLarge, Or.inl ⟨rfl, hlarge⟩⟩

theorem readInt64_iff {word : String} {value : Int} (h : IsNumber word value) :
    (∀ offset, readInt64 word = .ok offset ↔ offset.toInt = value) ∧
    ∀ fault, readInt64 word = .error fault ↔
      fault = .tooLarge ∧ 2 ^ 63 ≤ value ∨ fault = .tooSmall ∧ value < -2 ^ 63 := by
  obtain ⟨negative, n, rfl, hread⟩ := readInt64_of_isNumber h
  rw [hread]
  exact fitted_signed_iff negative n

end Word

/-! ## Expressions with an offset -/

namespace Expression

variable {registry : Registry} {name token : String} {value : Int}

/-- Two words with a space between them are these words. -/
theorem words_pair (hname : Text.Unbroken name) (htoken : Text.Unbroken token) :
    Text.words (name ++ " " ++ token) = [name, token] := by
  have hpieces : ∀ piece ∈ [name, token], Text.Unbroken piece := by
    intro piece hpiece
    rcases List.mem_cons.1 hpiece with rfl | hlast
    · exact hname
    · rw [List.mem_singleton.1 hlast]
      exact htoken
  have hwords := Text.words_intercalate hpieces
  rwa [String.intercalate_cons_cons, String.intercalate_singleton] at hwords

/-- A word that is no name has no offset. -/
theorem faulty_of_not_isName (h : ¬ Word.IsName name) :
    Faulty registry [name, token] .unknownForm := by
  refine .unknownForm ?_
  intro phrase hspelled
  cases hspelled with
  | fromFeast isName isNumber => exact h isName

end Expression

/--
**Offsets are read exactly.**

Let a feast be registered under `name`, and let `token` be digits after at most one sign. If `name`
can be a name in an expression, the two with a space between them are read as that feast and an
offset of exactly the value of `token`, provided that this fits in 64 bits. Otherwise the offset is
the fault, too large above the greatest and too small below the least number of 64 bits. Reading
`token` digit by digit finds the same, and has nothing else to complain about. A registered name
that is one word but cannot be a name is not understood.
-/
theorem Rule.ofExpression_offset {registry : Registry} {name token : String} {feast : Feast}
    {value : Int} (known : registry.get? name = some feast) (isNumber : Word.IsNumber token value) :
    let expression := name ++ " " ++ token
    (Word.IsName name →
      (∀ rule, ofExpression expression registry = .ok rule ↔
        (-2 ^ 63 ≤ value ∧ value < 2 ^ 63) ∧
          rule = .fromFeast (Text.lowercase name) feast value) ∧
      ∀ error, ofExpression expression registry = .error error ↔
        error.expression = expression ∧
          (error.fault = .offsetTooLarge ∧ 2 ^ 63 ≤ value ∨
            error.fault = .offsetTooSmall ∧ value < -2 ^ 63)) ∧
    ((∀ offset, Word.readInt64 token = .ok offset ↔ offset.toInt = value) ∧
      ∀ fault, Word.readInt64 token = .error fault ↔
        fault = .tooLarge ∧ 2 ^ 63 ≤ value ∨ fault = .tooSmall ∧ value < -2 ^ 63) ∧
    (Text.Unbroken name → ¬ Word.IsName name →
      ofExpression expression registry = .error ⟨expression, .unknownForm⟩) := by
  intro expression
  refine ⟨?_, Word.readInt64_iff isNumber, ?_⟩
  · intro isName
    have hwords : Text.words expression = [name, token] :=
      Expression.words_pair isName.unbroken isNumber.unbroken
    have hspelled : Expression.Spelled (Text.words expression) (.fromFeast name value) := by
      rw [hwords]
      exact .fromFeast isName isNumber
    -- the value fits or is beyond one of the two ends, and each has its outcome
    refine eq_ok_and_eq_error_iff ?_ ?_ ?_
    · rintro rule ⟨⟨hleast, hgreatest⟩, rfl⟩
      rw [ofExpression_eq_ok_iff, hwords]
      exact .fromFeast isName isNumber known hleast hgreatest
    · rintro ⟨_, fault⟩ ⟨rfl, ⟨rfl, hlarge⟩ | ⟨rfl, hsmall⟩⟩
      · exact ofExpression_of_faulty (.tooLarge hspelled known hlarge)
      · exact ofExpression_of_faulty (.tooSmall hspelled known hsmall)
    · rcases Int.lt_or_le value (-2 ^ 63) with hsmall | hleast
      · exact Or.inr ⟨⟨expression, .offsetTooSmall⟩, rfl, Or.inr ⟨rfl, hsmall⟩⟩
      · rcases Int.lt_or_le value (2 ^ 63) with hgreatest | hlarge
        · exact Or.inl ⟨_, ⟨hleast, hgreatest⟩, rfl⟩
        · exact Or.inr ⟨⟨expression, .offsetTooLarge⟩, rfl, Or.inl ⟨rfl, hlarge⟩⟩
  · intro hunbroken hname
    -- the name is one word still, so there are two words and no phrase that they spell
    have hwords : Text.words expression = [name, token] :=
      Expression.words_pair hunbroken isNumber.unbroken
    apply ofExpression_of_faulty
    rw [hwords]
    exact Expression.faulty_of_not_isName hname

/-- The least offset, with zeros in front, and the first one that is too large. -/
theorem Rule.ofExpression_offset_extremes :
    let least := "Easter" ++ " " ++ "-0009223372036854775808"
    let large := "Easter" ++ " " ++ "+9223372036854775808"
    (Registry.standard.get? "Easter" = some easterSunday ∧ Word.IsName "Easter") ∧
      (Word.IsNumber "-0009223372036854775808" (-9223372036854775808) ∧
        ofExpression least .standard =
          .ok (.fromFeast (Text.lowercase "Easter") easterSunday (-9223372036854775808)) ∧
        Word.readInt64 "-0009223372036854775808" = .ok Int64.minValue) ∧
      Word.IsNumber "+9223372036854775808" 9223372036854775808 ∧
        ofExpression large .standard = .error ⟨large, .offsetTooLarge⟩ ∧
        Word.readInt64 "+9223372036854775808" = .error .tooLarge := by
  intro least large
  have hknown : Registry.standard.get? "Easter" = some easterSunday := by rfl
  have hname : Word.IsName "Easter" := Word.isIdentifier_iff.1 (by decide +kernel)
  have hleast : Word.IsNumber "-0009223372036854775808" (-9223372036854775808) :=
    Word.isNumber_iff.2 ⟨⟨true, "0009223372036854775808".toList⟩, by rfl, by decide +kernel⟩
  have hlarge : Word.IsNumber "+9223372036854775808" 9223372036854775808 :=
    Word.isNumber_iff.2 ⟨⟨false, "9223372036854775808".toList⟩, by rfl, by decide +kernel⟩
  obtain ⟨hread, ⟨hdigits, -⟩, -⟩ := ofExpression_offset hknown hleast
  obtain ⟨hread', ⟨-, hdigits'⟩, -⟩ := ofExpression_offset hknown hlarge
  refine ⟨⟨hknown, hname⟩, ⟨hleast, ?_, ?_⟩, hlarge, ?_, ?_⟩
  · exact ((hread hname).1 _).2 ⟨by omega, rfl⟩
  · exact (hdigits _).2 rfl
  · exact ((hread' hname).2 _).2 ⟨rfl, Or.inl ⟨rfl, by omega⟩⟩
  · exact (hdigits' _).2 (Or.inl ⟨rfl, by omega⟩)

/-- **Not every registered name can have an offset.** A feast may be registered under a name with a
hyphen, but no name in an expression has one. -/
theorem Rule.not_ofExpression_offset :
    let registry := (Registry.standard.register "12-25" easterSunday).2
    (registry.get? "12-25" = some easterSunday ∧ Word.IsNumber "+2" 2) ∧
      ofExpression "12-25 +2" registry ≠ .ok (.fromFeast "12-25" easterSunday 2) ∧
      ofExpression "12-25 +2" registry = .error ⟨"12-25 +2", .unknownForm⟩ := by
  intro registry
  have hunknown : ofExpression "12-25 +2" registry = .error ⟨"12-25 +2", .unknownForm⟩ := by rfl
  have hnumber : Word.IsNumber "+2" 2 := Word.isNumber_iff.2 ⟨⟨false, ['2']⟩, by rfl, by decide⟩
  refine ⟨⟨by rfl, hnumber⟩, ?_, hunknown⟩
  rw [hunknown]
  exact nofun

end Almanac
