import Almanac.Proofs.Date.Naming
import Almanac.Proofs.Text.Bytes
import Almanac.Proofs.Text.LetterCase
import Almanac.Rule.Expression

/-!
# How words are spelled

The kinds of word that an expression is made of, each said by its characters alone, and the readers
of words proved to tell them: `isIdentifier_iff`, `isNumber_iff` and `monthDay?_iff`. A date is read
byte by byte and is still five characters, since a digit and a hyphen are one byte each and nothing
else has their bytes.
-/

namespace Almanac

namespace Word

/-- A row of ASCII digits, one at least, that spells `n`. -/
structure Spells (digits : List Char) (n : Nat) : Prop where
  nonempty : digits ≠ []
  ascii : ∀ digit ∈ digits, digit.isDigit = true
  value : Text.decimalValue digits = n

/-- A word that can be a name: letters and numbers of any script, and underscores. -/
structure IsName (word : String) : Prop where
  nonempty : word.toList ≠ []
  letters : ∀ c ∈ word.toList, Text.isAlphanumeric c = true ∨ c = '_'

/-- A whole number: ASCII digits after at most one sign. -/
inductive IsNumber (word : String) : Int → Prop
  | unsigned {n : Nat} (digits : Spells word.toList n) : IsNumber word n
  | plus {digits : List Char} {n : Nat} (sign : word.toList = '+' :: digits)
      (digits : Spells digits n) : IsNumber word n
  | minus {digits : List Char} {n : Nat} (sign : word.toList = '-' :: digits)
      (digits : Spells digits n) : IsNumber word (-n)

/-- Two ASCII digits for a month, a hyphen, and two ASCII digits for a day. -/
def IsMonthDay (word : String) (month day : Nat) : Prop :=
  ∃ months days, word.toList = months ++ '-' :: days ∧
    (months.length = 2 ∧ Spells months month) ∧ days.length = 2 ∧ Spells days day

/-! ## Names -/

theorem isIdentifier_iff {word : String} : isIdentifier word = true ↔ IsName word := by
  unfold isIdentifier
  simp only [Bool.and_eq_true, Bool.not_eq_true', List.isEmpty_eq_false_iff, List.all_eq_true,
    Bool.or_eq_true, beq_iff_eq]
  exact ⟨fun h => ⟨h.1, h.2⟩, fun h => ⟨h.nonempty, h.letters⟩⟩

/-! ## Numbers -/

theorem allDigits?_eq_some_iff {digits found : List Char} :
    allDigits? digits = some found ↔ digits = found ∧ ∃ n, Spells digits n := by
  unfold allDigits?
  refine ⟨?_, ?_⟩
  · intro h
    split at h
    · next hdigits =>
      simp only [Bool.and_eq_true, Bool.not_eq_true', List.isEmpty_eq_false_iff,
        List.all_eq_true] at hdigits
      cases h
      exact ⟨rfl, _, hdigits.1, hdigits.2, rfl⟩
    · cases h
  · intro h
    obtain ⟨rfl, n, hnonempty, hascii, -⟩ := h
    rw [if_pos (by simp [hnonempty]; exact hascii)]

/-- The first of a row of digits is no sign. -/
theorem Spells.head {c : Char} {rest : List Char} {n : Nat} (h : Spells (c :: rest) n) :
    c ≠ '-' ∧ c ≠ '+' := by
  have hdigit := h.ascii c (by simp)
  refine ⟨?_, ?_⟩
  · intro hc; subst hc; exact absurd hdigit (by decide)
  · intro hc; subst hc; exact absurd hdigit (by decide)

theorem signedDigits?_of_spells {word : String} {n : Nat} (h : Spells word.toList n) :
    signedDigits? word = some ⟨false, word.toList⟩ := by
  unfold signedDigits?
  split
  · next digits heq => rw [heq] at h; exact absurd rfl h.head.1
  · next digits heq => rw [heq] at h; exact absurd rfl h.head.2
  · rw [allDigits?_eq_some_iff.2 ⟨rfl, n, h⟩]; rfl

theorem Spells.value_unsigned {digits : List Char} {n : Nat} (h : Spells digits n) :
    SignedDigits.value ⟨false, digits⟩ = n := by
  simp [SignedDigits.value, h.value]

theorem Spells.value_negative {digits : List Char} {n : Nat} (h : Spells digits n) :
    SignedDigits.value ⟨true, digits⟩ = -n := by
  simp [SignedDigits.value, h.value]

/-- Two digits spell no number beyond 99. -/
theorem Spells.lt_of_two {digits : List Char} {n : Nat} (h : Spells digits n)
    (hlength : digits.length = 2) : n < 100 := by
  obtain ⟨tens, units, rfl⟩ := List.length_eq_two.1 hlength
  have htens : 48 ≤ tens.toNat ∧ tens.toNat ≤ 57 :=
    Char.isDigit_iff_toNat.1 (h.ascii tens (by simp))
  have hunits : 48 ≤ units.toNat ∧ units.toNat ≤ 57 :=
    Char.isDigit_iff_toNat.1 (h.ascii units (by simp))
  have hvalue : 10 * (tens.toNat - 48) + (units.toNat - 48) = n := by
    rw [← h.value]
    simp [Text.decimalValue]
  omega

/-- The words that are read as sign and digits are the whole numbers, and they have the value that
is read. -/
theorem isNumber_iff {word : String} {n : Int} :
    IsNumber word n ↔ ∃ number, signedDigits? word = some number ∧ number.value = n := by
  refine ⟨?_, ?_⟩
  · intro h
    cases h with
    | unsigned hdigits => exact ⟨_, signedDigits?_of_spells hdigits, hdigits.value_unsigned⟩
    | plus hsign hdigits =>
      refine ⟨_, ?_, hdigits.value_unsigned⟩
      unfold signedDigits?
      rw [hsign]
      simp [allDigits?_eq_some_iff.2 ⟨rfl, _, hdigits⟩]
    | minus hsign hdigits =>
      refine ⟨_, ?_, hdigits.value_negative⟩
      unfold signedDigits?
      rw [hsign]
      simp [allDigits?_eq_some_iff.2 ⟨rfl, _, hdigits⟩]
  · intro h
    obtain ⟨number, hnumber, rfl⟩ := h
    -- the sign that was found says which kind of number it is
    unfold signedDigits? at hnumber
    split at hnumber
    · next digits hsign =>
      obtain ⟨found, hfound, rfl⟩ := Option.map_eq_some_iff.1 hnumber
      obtain ⟨rfl, m, hdigits⟩ := allDigits?_eq_some_iff.1 hfound
      rw [hdigits.value_negative]
      exact .minus hsign hdigits
    · next digits hsign =>
      obtain ⟨found, hfound, rfl⟩ := Option.map_eq_some_iff.1 hnumber
      obtain ⟨rfl, m, hdigits⟩ := allDigits?_eq_some_iff.1 hfound
      rw [hdigits.value_unsigned]
      exact .plus hsign hdigits
    · obtain ⟨found, hfound, rfl⟩ := Option.map_eq_some_iff.1 hnumber
      obtain ⟨rfl, m, hdigits⟩ := allDigits?_eq_some_iff.1 hfound
      rw [hdigits.value_unsigned]
      exact .unsigned hdigits

/-! ## Dates -/

theorem ascii_of_isDigit {c : Char} (h : c.isDigit = true) : c.toNat < 128 :=
  Nat.lt_of_le_of_lt (Char.isDigit_iff_toNat.1 h).2 (by decide)

/-- A byte is a digit if the ASCII character that it encodes is one. -/
theorem digitOfByte?_eq_some_iff {c : Char} (hc : c.toNat < 128) {n : Nat} :
    digitOfByte? c.toUInt8 = some n ↔ c.isDigit = true ∧ c.toNat - '0'.toNat = n := by
  have hrange : ('0'.toUInt8 ≤ c.toUInt8 ∧ c.toUInt8 ≤ '9'.toUInt8) ↔ c.isDigit = true := by
    rw [UInt8.le_iff_toNat_le, UInt8.le_iff_toNat_le, toNat_toUInt8_of_ascii hc,
      Char.isDigit_iff_toNat]
    exact Iff.rfl
  unfold digitOfByte?
  simp only [Bool.and_eq_true, decide_eq_true_eq, hrange, toNat_toUInt8_of_ascii hc]
  refine ⟨?_, ?_⟩
  · intro h
    split at h
    · next hdigit => exact ⟨hdigit, Option.some.inj h⟩
    · cases h
  · intro h
    rw [if_pos h.1, h.2]

theorem twoDigits?_eq_some_iff {tens units : Char} (ht : tens.toNat < 128) (hu : units.toNat < 128)
    {n : Nat} :
    twoDigits? [tens.toUInt8, units.toUInt8] = some n ↔ Spells [tens, units] n := by
  simp only [twoDigits?]
  refine ⟨?_, ?_⟩
  · intro h
    split at h
    · next t u hdt hdu =>
      obtain ⟨htens, rfl⟩ := (digitOfByte?_eq_some_iff ht).1 hdt
      obtain ⟨hunits, rfl⟩ := (digitOfByte?_eq_some_iff hu).1 hdu
      refine ⟨by simp, by simp [htens, hunits], ?_⟩
      rw [← Option.some.inj h]
      simp [Text.decimalValue]
    · cases h
  · intro h
    rw [(digitOfByte?_eq_some_iff ht).2 ⟨h.ascii tens (by simp), rfl⟩,
      (digitOfByte?_eq_some_iff hu).2 ⟨h.ascii units (by simp), rfl⟩]
    simp [← h.value, Text.decimalValue]

/-- The bytes that are digits are ASCII. -/
theorem ascii_of_digitOfByte? {byte : UInt8} {n : Nat} (h : digitOfByte? byte = some n) :
    byte.toNat < 128 := by
  unfold digitOfByte? at h
  split at h
  · next hdigit =>
    simp only [Bool.and_eq_true, decide_eq_true_eq, UInt8.le_iff_toNat_le] at hdigit
    exact Nat.lt_of_le_of_lt hdigit.2 (by decide)
  · cases h

theorem ascii_of_twoDigits? {bytes : List UInt8} {n : Nat} (h : twoDigits? bytes = some n) :
    ∀ byte ∈ bytes, byte.toNat < 128 := by
  unfold twoDigits? at h
  split at h
  · split at h
    · next ht hu => simp [ascii_of_digitOfByte? ht, ascii_of_digitOfByte? hu]
    · cases h
  · cases h

/-- The bytes of a date: two digits, a hyphen, two digits. -/
theorem monthDay?_eq_some_iff {word : String} {month day : Nat} :
    monthDay? word = some (month, day) ↔ ∃ a b c d, bytes word = [a, b, '-'.toUInt8, c, d] ∧
      twoDigits? [a, b] = some month ∧ twoDigits? [c, d] = some day := by
  unfold monthDay? hasHyphenInMiddle
  refine ⟨?_, ?_⟩
  · intro h
    split at h
    · next hhyphen =>
      simp only [Bool.and_eq_true, beq_iff_eq] at hhyphen
      -- only five bytes have the hyphen in their middle
      match hbytes : bytes word, hhyphen with
      | [a, b, x, c, d], hhyphen =>
        simp only [hbytes, List.take, List.drop] at h
        split at h
        · next hmonth hday =>
          cases h
          exact ⟨a, b, c, d, by rw [← Option.some.inj hhyphen.2], hmonth, hday⟩
        · cases h
    · cases h
  · intro h
    obtain ⟨a, b, c, d, hbytes, hmonth, hday⟩ := h
    simp [hbytes, hmonth, hday]

theorem IsMonthDay.ascii {word : String} {month day : Nat} (h : IsMonthDay word month day) :
    ∀ c ∈ word.toList, c.toNat < 128 := by
  obtain ⟨months, days, hword, ⟨-, hmonths⟩, -, hdays⟩ := h
  intro c hc
  rw [hword] at hc
  rcases List.mem_append.1 hc with hfront | hback
  · exact ascii_of_isDigit (hmonths.ascii c hfront)
  · rcases List.mem_cons.1 hback with rfl | hlast
    · decide
    · exact ascii_of_isDigit (hdays.ascii c hlast)

/-- **A date is read exactly where one is spelled.** -/
theorem monthDay?_iff {word : String} {month day : Nat} :
    monthDay? word = some (month, day) ↔ IsMonthDay word month day := by
  rw [monthDay?_eq_some_iff]
  refine ⟨?_, ?_⟩
  · intro h
    obtain ⟨a, b, c, d, hbytes, hmonth, hday⟩ := h
    have hascii : ∀ c ∈ word.toList, c.toNat < 128 := by
      apply ascii_of_bytes
      rw [hbytes]
      have hfront := ascii_of_twoDigits? hmonth
      have hback := ascii_of_twoDigits? hday
      simp only [List.forall_mem_cons] at hfront hback ⊢
      exact ⟨hfront.1, hfront.2.1, by decide, hback⟩
    rw [bytes_of_ascii hascii] at hbytes
    simp only [List.map_eq_cons_iff, List.map_eq_nil_iff] at hbytes
    obtain ⟨a, _, hword, rfl, b, _, rfl, rfl, x, _, rfl, hx, c, _, rfl, rfl, d, _, rfl, rfl, rfl⟩ :=
      hbytes
    rw [hword] at hascii
    -- the byte of a hyphen is the byte of no other ASCII character
    have hhyphen : x = '-' := by
      apply Char.toNat_inj.1
      rw [← toNat_toUInt8_of_ascii (hascii x (by simp)), hx]
      rfl
    subst hhyphen
    refine ⟨[a, b], [c, d], hword, ⟨rfl, ?_⟩, rfl, ?_⟩
    · exact (twoDigits?_eq_some_iff (hascii a (by simp)) (hascii b (by simp))).1 hmonth
    · exact (twoDigits?_eq_some_iff (hascii c (by simp)) (hascii d (by simp))).1 hday
  · intro h
    have hascii := h.ascii
    obtain ⟨months, days, hword, ⟨hm, hmonths⟩, hd, hdays⟩ := h
    obtain ⟨a, b, rfl⟩ := List.length_eq_two.1 hm
    obtain ⟨c, d, rfl⟩ := List.length_eq_two.1 hd
    refine ⟨a.toUInt8, b.toUInt8, c.toUInt8, d.toUInt8, ?_, ?_, ?_⟩
    · rw [bytes_of_ascii hascii, hword]; rfl
    · rw [hword] at hascii
      exact (twoDigits?_eq_some_iff (hascii a (by simp)) (hascii b (by simp))).2 hmonths
    · rw [hword] at hascii
      exact (twoDigits?_eq_some_iff (hascii c (by simp)) (hascii d (by simp))).2 hdays

end Word

/-! ## Keywords and names -/

/-- Texts of the same letters are alike to every other text. -/
theorem Text.sameLetters_congr {a b : String} (h : sameLetters a b = true) (c : String) :
    sameLetters c b = sameLetters c a := by
  rw [sameLetters_iff] at h
  unfold sameLetters
  rw [h]

/-- Looking up a name in a list finds what it names, if the list tells the names apart. -/
theorem Text.find?_sameLetters_iff {α : Type} {all : List α} {spelled : α → String} {x : α}
    (hall : (all.find? fun y => sameLetters (spelled y) (spelled x)) = some x) {name : String} :
    (all.find? fun y => sameLetters (spelled y) name) = some x ↔
      sameLetters (spelled x) name = true := by
  refine ⟨?_, ?_⟩
  · intro h
    have hx := List.find?_some h
    exact hx
  · intro h
    rw [← hall]
    congr
    funext y
    exact sameLetters_congr h (spelled y)

/-- Trying two names in turn finds what either names, if the names differ. -/
theorem Text.choice_eq_some_iff {α : Type} {first second name : String} {x y z : α}
    (hdiffer : sameLetters first second = false) :
    (if sameLetters first name then some x else if sameLetters second name then some y else none) =
        some z ↔
      sameLetters first name = true ∧ x = z ∨ sameLetters second name = true ∧ y = z := by
  by_cases hsecond : sameLetters second name = true
  · have hfirst : sameLetters first name = false := by
      rw [sameLetters_congr hsecond, hdiffer]
    simp [hfirst, hsecond]
  · by_cases hfirst : sameLetters first name = true
    · simp [hfirst, hsecond]
    · simp [hfirst, hsecond]

theorem Weekday.ofName?_eq_some_iff {name : String} {weekday : Weekday} :
    ofName? name = some weekday ↔ Text.sameLetters weekday.name name = true :=
  Text.find?_sameLetters_iff (by cases weekday <;> decide)

theorem Month.ofName?_eq_some_iff {name : String} {month : Month} :
    ofName? name = some month ↔ Text.sameLetters month.name name = true :=
  Text.find?_sameLetters_iff (by cases month <;> decide)

/-- How a direction is written. -/
def Direction.keyword : Direction → String
  | before => "before"
  | after => "after"

theorem Direction.ofName?_eq_some_iff {name : String} {direction : Direction} :
    ofName? name = some direction ↔ Text.sameLetters direction.keyword name = true := by
  unfold ofName?
  rw [Text.choice_eq_some_iff (by decide)]
  cases direction <;> simp [keyword]

/-- "in" is no direction. -/
theorem Direction.not_in {direction : Direction} {word : String}
    (h : Text.sameLetters direction.keyword word = true) : Text.sameLetters "in" word = false := by
  rw [Text.sameLetters_congr h]
  cases direction <;> decide

theorem Text.isAlphanumeric_of_isAlpha {c : Char} (h : c.isAlpha = true) :
    isAlphanumeric c = true := by
  have hascii : c.toNat < 0x80 := by
    have hbounds := isAlpha_iff.1 h
    omega
  unfold isAlphanumeric
  rw [if_pos hascii]
  simp [Char.isAlphanum, h]

/-- Whatever is spelled like a word of ASCII letters can be a name. -/
theorem Word.isName_of_sameLetters {spelled word : String}
    (h : Text.sameLetters spelled word = true) (hnonempty : spelled.toList ≠ [])
    (hletters : (spelled.toList.all fun c => c.toLower.isAlpha) = true) : IsName word := by
  have hlower : spelled.toList.map Char.toLower = word.toList.map Char.toLower :=
    String.ofList_injective ((Text.sameLetters_iff spelled word).1 h)
  refine ⟨?_, ?_⟩
  · intro hempty
    rw [hempty] at hlower
    exact hnonempty (List.map_eq_nil_iff.1 hlower)
  · intro c hc
    have hmem : c.toLower ∈ spelled.toList.map Char.toLower := by
      rw [hlower]; exact List.mem_map_of_mem hc
    obtain ⟨d, hd, hdc⟩ := List.mem_map.1 hmem
    refine Or.inl (Text.isAlphanumeric_of_isAlpha ?_)
    rw [← Text.isAlpha_toLower, ← hdc]
    exact List.all_eq_true.1 hletters d hd

theorem Weekday.isName {weekday : Weekday} {word : String}
    (h : Text.sameLetters weekday.name word = true) : Word.IsName word :=
  Word.isName_of_sameLetters h (by cases weekday <;> decide) (by cases weekday <;> decide)

theorem Month.isName {month : Month} {word : String}
    (h : Text.sameLetters month.name word = true) : Word.IsName word :=
  Word.isName_of_sameLetters h (by cases month <;> decide) (by cases month <;> decide)

/-! ## Days that exist -/

/-- **The days that a rule may have are those of the leap years.** -/
theorem Expression.isMonthDay_iff {month day : Nat} :
    isMonthDay month day = true ↔ InLeapYear month day := by
  rw [inLeapYear_iff]
  unfold isMonthDay maxDaysOfMonth?
  refine ⟨?_, ?_⟩
  · intro h
    split at h
    · next length hlength =>
      obtain ⟨hmonth, rfl⟩ := daysOfMonth?_eq_some_iff.1 hlength
      simp only [Bool.and_eq_true, decide_eq_true_eq] at h
      exact ⟨⟨h.1.1, hmonth⟩, h.1.2, h.2⟩
    · cases h
  · intro h
    obtain ⟨hmonth, hday⟩ := h
    rw [daysOfMonth?_eq_some_iff.2 ⟨hmonth.2, rfl⟩, show isLeap 2000 = true by decide]
    simp [hmonth.1, hday.1, hday.2]

end Almanac
