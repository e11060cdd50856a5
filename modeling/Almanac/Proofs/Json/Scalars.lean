import Almanac.Json.Reader
import Almanac.Proofs.Json.Passing

/-!
# Texts and numbers end where they are passed over

A text or a number that is read is also passed over, to the same place, although the readers make
more of it: a text is decoded, with pairs of surrogates joined, and digits beyond 64 bits are told
from those before. What can only be passed over are texts that are no UTF-8, half surrogates, and
numbers beyond every bound.
-/

namespace Almanac.Json

variable {bytes rest measure : List UInt8}

/-! ## Texts -/

theorem readHex_eq_ok {unit : Nat} (h : readHex bytes = .ok (unit, rest)) :
    ∃ a b c d, bytes = a :: b :: c :: d :: rest ∧
      ([a, b, c, d].all fun byte => (Byte.hexDigit? byte).isSome) = true := by
  unfold readHex at h
  split at h
  · next a b c d behind =>
    split at h
    · next ha hb hc hd =>
      cases h
      refine ⟨a, b, c, d, rfl, ?_⟩
      simp [ha, hb, hc, hd]
    · cases h
  · cases h

/-- The digits of an escape are passed over in one step. -/
theorem skipTextFrom_of_readHex {byte : UInt8} {unit : Nat}
    (h : readHex bytes = .ok (unit, rest)) :
    skipTextFrom (byte :: measure) (Byte.backslash :: Byte.u :: bytes) =
      skipTextFrom measure rest := by
  obtain ⟨a, b, c, d, rfl, hdigits⟩ := readHex_eq_ok h
  exact if_pos hdigits

/-- Texts of every measure that suffices are passed over to the same end. -/
def TextEnds (bytes final : List UInt8) : Prop :=
  ∀ measure : List UInt8, bytes.length ≤ measure.length →
    skipTextFrom measure bytes = .ok final

theorem textEnds_of_step {bytes rest final : List UInt8} (hlength : rest.length < bytes.length)
    (hstep : ∀ (byte : UInt8) (measure : List UInt8),
      skipTextFrom (byte :: measure) bytes = skipTextFrom measure rest)
    (h : TextEnds rest final) : TextEnds bytes final := by
  intro measure hmeasure
  cases measure with
  | nil => exact absurd hlength (by simp at hmeasure; simp [hmeasure])
  | cons byte measure =>
    rw [hstep]
    simp only [List.length_cons] at hmeasure
    exact h measure (by omega)

theorem TextEnds.hex {unit : Nat} {final : List UInt8} (hread : readHex bytes = .ok (unit, rest))
    (h : TextEnds rest final) : TextEnds (Byte.backslash :: Byte.u :: bytes) final := by
  refine textEnds_of_step ?_ (fun _ _ => skipTextFrom_of_readHex hread) h
  obtain ⟨a, b, c, d, rfl, -⟩ := readHex_eq_ok hread
  simp only [List.length_cons]
  omega

/-- An escape of one letter is passed over in one step. -/
theorem TextEnds.letter {letter : UInt8} {final : List UInt8}
    (hstep : ∀ (byte : UInt8) (measure : List UInt8),
      skipTextFrom (byte :: measure) (Byte.backslash :: letter :: rest) = skipTextFrom measure rest)
    (h : TextEnds rest final) : TextEnds (Byte.backslash :: letter :: rest) final := by
  refine textEnds_of_step ?_ hstep h
  simp only [List.length_cons]
  omega

/-- The second half of a pair of surrogates is passed over as any other escape. -/
theorem TextEnds.trailing {leading : Nat} {c : Char} {final : List UInt8}
    (hread : readTrailing leading bytes = .ok (c, rest)) (h : TextEnds rest final) :
    TextEnds bytes final := by
  unfold readTrailing at hread
  split at hread
  · cases hread
  · cases hread
  · obtain ⟨⟨trailing, behind⟩, hhex, hpair⟩ := bind_eq_ok_iff.1 hread
    dsimp only at hpair
    split at hpair
    · obtain ⟨-, rfl⟩ := Prod.mk.inj (Except.ok.inj hpair)
      exact TextEnds.hex hhex h
    · cases hpair
  · cases hread

/-- An escape that is read is passed over, in two steps if it is a pair of surrogates. -/
theorem TextEnds.escape {c : Char} {final : List UInt8}
    (hread : readEscape bytes = .ok (c, rest)) (h : TextEnds rest final) :
    TextEnds (Byte.backslash :: bytes) final := by
  unfold readEscape at hread
  split at hread
  · cases hread
  · -- the eight escapes of one letter
    cases hread; exact TextEnds.letter (fun _ _ => rfl) h
  · cases hread; exact TextEnds.letter (fun _ _ => rfl) h
  · cases hread; exact TextEnds.letter (fun _ _ => rfl) h
  · cases hread; exact TextEnds.letter (fun _ _ => rfl) h
  · cases hread; exact TextEnds.letter (fun _ _ => rfl) h
  · cases hread; exact TextEnds.letter (fun _ _ => rfl) h
  · cases hread; exact TextEnds.letter (fun _ _ => rfl) h
  · cases hread; exact TextEnds.letter (fun _ _ => rfl) h
  · -- a unit of four digits, which a leading surrogate pairs with another
    obtain ⟨⟨unit, behind⟩, hhex, hunit⟩ := bind_eq_ok_iff.1 hread
    refine TextEnds.hex hhex ?_
    dsimp only at hunit
    split at hunit
    · cases hunit
    · split at hunit
      · exact TextEnds.trailing hunit h
      · cases hunit
        exact h
  · cases hread

theorem textEnds_of_readTextFrom {done measure : List UInt8} {text : String}
    (h : readTextFrom done measure bytes = .ok (text, rest)) : TextEnds bytes rest := by
  fun_induction readTextFrom done measure bytes with
  | case1 | case2 => cases h
  | case3 done _ _ behind =>
    obtain ⟨text, -, hrest⟩ := bind_eq_ok_iff.1 h
    cases hrest
    intro measure hmeasure
    cases measure with
    | nil => cases hmeasure
    | cons byte measure => rfl
  | case4 done _ measure behind ih =>
    obtain ⟨⟨c, behind⟩, hescape, hbehind⟩ := bind_eq_ok_iff.1 h
    exact TextEnds.escape hescape (ih c behind hbehind)
  | case5 => cases h
  | case6 done _ measure byte behind hquote hbackslash hcontrol ih =>
    refine textEnds_of_step (Nat.lt_succ_self _) (fun _ _ => ?_) (ih h)
    rw [skipTextFrom]
    · exact if_neg hcontrol
    · exact hquote
    · exact hbackslash

/-- **A text that is read is passed over.** -/
theorem skipText_of_readText {text : String} (h : readText bytes = .ok (text, rest)) :
    skipText bytes = .ok rest :=
  textEnds_of_readTextFrom h bytes (Nat.le_refl _)

/-! ## Numbers -/

/-- How many digits the text starts with. -/
def digitCount (bytes : List UInt8) : Nat :=
  (bytes.takeWhile fun byte => (Byte.digit? byte).isSome).length

section
variable {byte : UInt8} (bytes)

theorem digitCount_of_digit {digit : Nat} (h : Byte.digit? byte = some digit) :
    digitCount (byte :: bytes) = digitCount bytes + 1 := by
  simp [digitCount, h]

theorem skipDigits_of_digit {digit : Nat} (h : Byte.digit? byte = some digit) :
    skipDigits (byte :: bytes) = skipDigits bytes := by
  simp [skipDigits, h]

theorem digitCount_of_none (h : Byte.digit? byte = none) : digitCount (byte :: bytes) = 0 := by
  simp [digitCount, h]

theorem skipDigits_of_none (h : Byte.digit? byte = none) :
    skipDigits (byte :: bytes) = byte :: bytes := by
  simp [skipDigits, h]

end

theorem dropDigits_eq (dropped : Nat) (bytes : List UInt8) :
    dropDigits dropped bytes = (dropped + digitCount bytes, skipDigits bytes) := by
  induction bytes generalizing dropped with
  | nil => rfl
  | cons byte bytes ih =>
    cases hdigit : Byte.digit? byte with
    | some digit =>
      rw [digitCount_of_digit bytes hdigit, skipDigits_of_digit bytes hdigit, dropDigits, hdigit,
        Option.isSome_some, if_pos rfl, ih, Nat.add_assoc, Nat.add_comm 1]
    | none =>
      rw [digitCount_of_none bytes hdigit, skipDigits_of_none bytes hdigit, dropDigits, hdigit]
      rfl

theorem allDigits_snd (value : Nat) (bytes : List UInt8) :
    (allDigits value bytes).2 = skipDigits bytes := by
  induction bytes generalizing value with
  | nil => rfl
  | cons byte bytes ih =>
    rw [allDigits]
    cases hdigit : Byte.digit? byte with
    | some digit => rw [skipDigits_of_digit bytes hdigit, ← ih]
    | none => rw [skipDigits_of_none bytes hdigit]

/-- Digits that are taken and digits behind them are all the digits there are. -/
theorem takeDigits_spec (value taken : Nat) (bytes : List UInt8) :
    (takeDigits value taken bytes).2.1 + digitCount (takeDigits value taken bytes).2.2 =
        taken + digitCount bytes ∧
      skipDigits (takeDigits value taken bytes).2.2 = skipDigits bytes := by
  induction bytes generalizing value taken with
  | nil => exact ⟨rfl, rfl⟩
  | cons byte bytes ih =>
    rw [takeDigits]
    cases hdigit : Byte.digit? byte with
    | some digit =>
      dsimp only
      split
      · obtain ⟨hcount, hrest⟩ := ih (10 * value + digit) (taken + 1)
        rw [hcount, hrest, digitCount_of_digit bytes hdigit, skipDigits_of_digit bytes hdigit]
        exact ⟨by omega, rfl⟩
      · exact ⟨rfl, rfl⟩
    | none => exact ⟨rfl, rfl⟩

theorem skipSomeDigits_of_digitCount (h : digitCount bytes ≠ 0) :
    skipSomeDigits bytes = .ok (skipDigits bytes) := by
  cases bytes with
  | nil => exact absurd rfl h
  | cons byte bytes =>
    cases hdigit : Byte.digit? byte with
    | some digit =>
      rw [skipSomeDigits, hdigit, skipDigits_of_digit bytes hdigit]
      rfl
    | none => exact absurd (digitCount_of_none bytes hdigit) h

variable {negative : Bool} {significand : Nat} {exponent : Int} {number : Number}

theorem skipPower_of_readExponent
    (h : readExponent negative significand exponent bytes = .ok (number, rest)) :
    skipPower bytes = .ok rest := by
  unfold readExponent at h
  split at h
  next downward digits hsign =>
  -- a sign is taken off in both ways, and then there must be a digit
  have hpower : skipPower bytes = skipSomeDigits digits := by
    split at hsign
    · cases hsign; rfl
    · cases hsign; rfl
    · next hminus hplus =>
      cases hsign
      unfold skipPower
      split
      · exact absurd rfl (hplus _)
      · exact absurd rfl (hminus _)
      · rfl
  rw [hpower]
  split at h
  · cases h
  · next byte behind =>
    split at h
    · cases h
    · -- how large the exponent is makes no difference to where it ends
      next digit hdigit =>
      obtain ⟨number, -, hrest⟩ := bind_eq_ok_iff.1 h
      obtain ⟨-, rfl⟩ := Prod.mk.inj (Except.ok.inj hrest)
      rw [skipSomeDigits, hdigit, allDigits_snd]
      rfl

/-- Digits that are taken and dropped are passed over, and tell how many they are. -/
theorem digits_of_takeDigits {value taken dropped : Nat} {behind : List UInt8}
    (htake : takeDigits value 0 bytes = (significand, taken, behind))
    (hdrop : dropDigits 0 behind = (dropped, rest)) :
    taken + dropped = digitCount bytes ∧ rest = skipDigits bytes := by
  obtain ⟨hcount, hrest⟩ := takeDigits_spec value 0 bytes
  rw [htake] at hcount hrest
  rw [dropDigits_eq, Nat.zero_add] at hdrop
  obtain ⟨rfl, rfl⟩ := Prod.mk.inj hdrop
  exact ⟨by rw [hcount, Nat.zero_add], hrest⟩

theorem skipExponent_of_other (hsmall : ∀ rest, bytes ≠ Byte.e :: rest)
    (hcapital : ∀ rest, bytes ≠ Byte.capitalE :: rest) : skipExponent bytes = .ok bytes := by
  rw [skipExponent_eq]
  split
  · exact absurd rfl (hsmall _)
  · exact absurd rfl (hcapital _)
  · rfl

theorem skipTail_of_readFraction
    (h : readFraction negative significand exponent bytes = .ok (number, rest)) :
    skipTail (Byte.point :: bytes) = .ok rest := by
  unfold readFraction at h
  split at h
  next significand' taken behind htake =>
  split at h
  next dropped tail hdrop =>
  -- the digits that count and those that are dropped are one row of digits
  obtain ⟨hcount, rfl⟩ := digits_of_takeDigits htake hdrop
  dsimp only at h
  split at h
  · cases h
  · next hsome =>
    rw [hcount] at hsome
    show (skipSomeDigits bytes >>= skipExponent) = .ok rest
    rw [skipSomeDigits_of_digitCount hsome]
    show skipExponent (skipDigits bytes) = .ok rest
    -- behind the digits an exponent may stand
    split at h
    · next htail =>
      rw [htail]
      exact skipPower_of_readExponent h
    · next htail =>
      rw [htail]
      exact skipPower_of_readExponent h
    · next hsmall hcapital =>
      obtain ⟨number, -, hrest⟩ := bind_eq_ok_iff.1 h
      obtain ⟨-, rfl⟩ := Prod.mk.inj (Except.ok.inj hrest)
      exact skipExponent_of_other hsmall hcapital

theorem skipDigits_of_digitCount (h : digitCount bytes = 0) : skipDigits bytes = bytes := by
  cases bytes with
  | nil => rfl
  | cons byte bytes =>
    cases hdigit : Byte.digit? byte with
    | some digit =>
      rw [digitCount_of_digit bytes hdigit] at h
      cases h
    | none => exact skipDigits_of_none bytes hdigit

/-- The digits before the point are passed over, if zero is the only one when it is the first. -/
theorem skipWhole_of_digit {byte : UInt8} {first : Nat} (hfirst : Byte.digit? byte = some first)
    (hzero : first = 0 → digitCount bytes = 0) :
    skipWhole (byte :: bytes) = .ok (skipDigits bytes) := by
  by_cases hbyte : byte = Byte.zero
  · -- behind a zero no digit may come, and none comes
    subst hbyte
    have hnone : digitCount bytes = 0 := hzero (Option.some.inj hfirst).symm
    rw [skipDigits_of_digitCount hnone]
    cases bytes with
    | nil => rfl
    | cons next bytes =>
      cases hnext : Byte.digit? next with
      | some digit =>
        rw [digitCount_of_digit bytes hnext] at hnone
        cases hnone
      | none =>
        show (if (Byte.digit? next).isSome then _ else Except.ok (next :: bytes)) = _
        rw [hnext]
        rfl
  · have hwhole : skipWhole (byte :: bytes) = skipSomeDigits (byte :: bytes) := by
      unfold skipWhole
      split
      · next heq => exact absurd (List.cons.inj heq).1 hbyte
      · rfl
    rw [hwhole, skipSomeDigits, hfirst]
    rfl

theorem skipTail_of_other (hpoint : ∀ rest, bytes ≠ Byte.point :: rest)
    (hsmall : ∀ rest, bytes ≠ Byte.e :: rest)
    (hcapital : ∀ rest, bytes ≠ Byte.capitalE :: rest) : skipTail bytes = .ok bytes := by
  unfold skipTail
  split
  · exact absurd rfl (hpoint _)
  · exact skipExponent_of_other hsmall hcapital

/-- **A number that is read is passed over.** -/
theorem skipNumber_of_readNumber (h : readNumber negative bytes = .ok (number, rest)) :
    skipNumber bytes = .ok rest := by
  unfold readNumber at h
  split at h
  · cases h
  next byte digits =>
  split at h
  · cases h
  next first hfirst =>
  split at h
  next significand taken behind htake =>
  split at h
  next dropped tail hdrop =>
  -- the digits before the point, taken or dropped
  obtain ⟨hcount, rfl⟩ := digits_of_takeDigits htake hdrop
  split at h
  · cases h
  next hzeros =>
  have hwhole : skipWhole (byte :: digits) = .ok (skipDigits digits) := by
    refine skipWhole_of_digit hfirst fun hzero => ?_
    rw [hcount] at hzeros
    exact not_not.1 (not_and.1 hzeros hzero)
  rw [skipNumber_eq, hwhole]
  show skipTail (skipDigits digits) = .ok rest
  -- what comes behind them: a fraction, an exponent, or nothing of the number
  split at h
  · next htail =>
    rw [htail]
    exact skipTail_of_readFraction h
  · next htail =>
    rw [htail]
    exact skipPower_of_readExponent h
  · next htail =>
    rw [htail]
    exact skipPower_of_readExponent h
  · next hpoint hsmall hcapital =>
    rw [skipTail_of_other hpoint hsmall hcapital]
    dsimp only at h
    split at h
    · obtain ⟨number, -, hrest⟩ := bind_eq_ok_iff.1 h
      obtain ⟨-, rfl⟩ := Prod.mk.inj (Except.ok.inj hrest)
      rfl
    · obtain ⟨number, -, hrest⟩ := bind_eq_ok_iff.1 h
      obtain ⟨-, rfl⟩ := Prod.mk.inj (Except.ok.inj hrest)
      rfl

/-! ## Values without parts -/

/-- **A value that is neither an array nor an object ends where it is passed over.** -/
theorem passScalar_of_readScalar {value : Value} (h : readScalar bytes = .ok (value, rest)) :
    passScalar bytes = .ok rest := by
  unfold readScalar at h
  -- the first byte tells the kind of the value, in reading as in passing over
  split at h
  · cases h
  · obtain ⟨behind, hword, heq⟩ := bind_eq_ok_iff.1 h
    cases heq
    exact hword
  · obtain ⟨behind, hword, heq⟩ := bind_eq_ok_iff.1 h
    cases heq
    exact hword
  · obtain ⟨behind, hword, heq⟩ := bind_eq_ok_iff.1 h
    cases heq
    exact hword
  · obtain ⟨⟨text, behind⟩, htext, heq⟩ := bind_eq_ok_iff.1 h
    cases heq
    exact skipText_of_readText htext
  · obtain ⟨⟨number, behind⟩, hnumber, heq⟩ := bind_eq_ok_iff.1 h
    cases heq
    exact skipNumber_of_readNumber hnumber
  · split at h
    · next hdigit =>
      rw [passScalar_of_digit hdigit]
      obtain ⟨⟨number, behind⟩, hnumber, heq⟩ := bind_eq_ok_iff.1 h
      cases heq
      exact skipNumber_of_readNumber hnumber
    · cases h

end Almanac.Json
