/-!
# ASCII letters and digits

Keywords, weekday and month names, and the codes of languages and regions are matched without
regard to the case of ASCII letters; letters beyond ASCII always keep theirs. Numbers are written in
ASCII digits only.
-/

namespace Almanac.Text

/-- The text with ASCII capitals in lower case. -/
def asciiLower (text : String) : String := String.ofList (text.toList.map Char.toLower)

/-- The text with ASCII letters in upper case. -/
def asciiUpper (text : String) : String := String.ofList (text.toList.map Char.toUpper)

/-- Whether two texts differ in the case of ASCII letters at most. -/
def sameLetters (a b : String) : Bool := asciiLower a == asciiLower b

theorem sameLetters_iff (a b : String) : sameLetters a b = true ↔ asciiLower a = asciiLower b := by
  simp [sameLetters]

/-- Nothing is left to lower. -/
theorem asciiLower_asciiLower (text : String) : asciiLower (asciiLower text) = asciiLower text := by
  have hletters : Char.toLower ∘ Char.toLower = Char.toLower := by
    funext c
    show c.toLower.toLower = c.toLower
    unfold Char.toLower
    grind
  unfold asciiLower
  rw [String.toList_ofList, List.map_map, hletters]

/-- Where the ASCII letters are. -/
theorem isAlpha_iff {c : Char} : c.isAlpha = true ↔
    (0x41 ≤ c.toNat ∧ c.toNat ≤ 0x5A) ∨ (0x61 ≤ c.toNat ∧ c.toNat ≤ 0x7A) := by
  unfold Char.isAlpha Char.isUpper Char.isLower
  simp [UInt32.le_iff_toNat_le]

/-- The number that a row of ASCII digits spells. -/
def decimalValue (digits : List Char) : Nat :=
  digits.foldl (fun value digit => 10 * value + (digit.toNat - '0'.toNat)) 0

/-- `n` in decimal, with zeros in front up to `width` digits. -/
def paddedDecimal (width n : Nat) : String :=
  String.ofList (List.leftpad width '0' (Nat.toDigits 10 n))

end Almanac.Text
