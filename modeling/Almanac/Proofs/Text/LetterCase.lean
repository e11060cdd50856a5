import Almanac.Proofs.Text.Lowercase
import Almanac.Proofs.Text.Words
import Almanac.Text.Ascii

/-!
# Capitals and small letters of ASCII

Words are matched in two ways: names and keywords up to the case of ASCII letters, names of feasts
in lower case of any script. The second is the coarser one. Putting the ASCII letters of a text in
lower case first does not change its lower case (`lowercase_asciiLower`), not even where a capital
sigma looks for its neighbours, since no ASCII letter is told from the other of its pair there.
-/

namespace Almanac.Text

/-! ## Characters

The letters of a pair are 32 apart, and what the two cases have to do with each other follows from
their numbers. The library's lemmas on the case of characters come with the whole of Mathlib only.
-/

theorem toNat_toLower (c : Char) : c.toLower.toNat =
    if 0x41 ≤ c.toNat ∧ c.toNat ≤ 0x5A then c.toNat + 32 else c.toNat := by
  rw [← Char.toNat_val, ← Char.toNat_val]
  unfold Char.toLower
  grind [UInt32.toNat_add, UInt32.le_iff_toNat_le]

theorem toNat_toUpper (c : Char) : c.toUpper.toNat =
    if 0x61 ≤ c.toNat ∧ c.toNat ≤ 0x7A then c.toNat - 32 else c.toNat := by
  rw [← Char.toNat_val, ← Char.toNat_val]
  unfold Char.toUpper
  grind [UInt32.toNat_add, UInt32.le_iff_toNat_le]

theorem toLower_toUpper (c : Char) : c.toUpper.toLower = c.toLower := by
  rw [← Char.toNat_inj]
  grind [toNat_toLower, toNat_toUpper]

theorem toUpper_toLower (c : Char) : c.toLower.toUpper = c.toUpper := by
  rw [← Char.toNat_inj]
  grind [toNat_toLower, toNat_toUpper]

/-- What is no capital stays as it is. -/
theorem toLower_eq_self {c : Char} (h : ¬(0x41 ≤ c.toNat ∧ c.toNat ≤ 0x5A)) : c.toLower = c := by
  rw [← Char.toNat_inj, toNat_toLower, if_neg h]

theorem isAlpha_toLower (c : Char) : c.toLower.isAlpha = c.isAlpha := by
  rw [Bool.eq_iff_iff, isAlpha_iff, isAlpha_iff, toNat_toLower]
  split <;> omega

/-- What all ASCII letters have in common does not tell a capital from its small letter. -/
theorem apply_toLower {α : Type} {f : Char → α} (x : α)
    (hletters : ∀ c : Char, c.isAlpha = true → f c = x) (c : Char) : f c.toLower = f c := by
  by_cases hcapital : 0x41 ≤ c.toNat ∧ c.toNat ≤ 0x5A
  · have halpha : c.isAlpha = true := isAlpha_iff.2 (.inl hcapital)
    rw [hletters c halpha, hletters c.toLower (by rwa [isAlpha_toLower])]
  · rw [toLower_eq_self hcapital]

/-- The ASCII letters as ranges. -/
def letterRanges : Ranges := [(0x41, 0x5A), (0x61, 0x7A)]

theorem letterRanges_has {c : Char} (h : c.isAlpha = true) : letterRanges.has c = true := by
  rw [Ranges.has_iff]
  rcases isAlpha_iff.1 h with hcapital | hsmall
  · exact ⟨(0x41, 0x5A), by decide, hcapital⟩
  · exact ⟨(0x61, 0x7A), by decide, hsmall⟩

theorem isCased_toLower (c : Char) : isCased c.toLower = isCased c := by
  refine apply_toLower true ?_ c
  intro letter hletter
  have hcased : ∀ range ∈ letterRanges, range ∈ casedRanges := by decide
  obtain ⟨range, hrange, hbounds⟩ := (Ranges.has_iff _ letter).1 (letterRanges_has hletter)
  exact (Ranges.has_iff _ letter).2 ⟨range, hcased range hrange, hbounds⟩

theorem isCaseIgnorable_toLower (c : Char) : isCaseIgnorable c.toLower = isCaseIgnorable c := by
  refine apply_toLower false ?_ c
  intro letter hletter
  exact Ranges.has_eq_false_of_apart (by decide +kernel) (letterRanges_has hletter)

/-- The other of the pair is told apart from no character that is no letter. -/
theorem toLower_beq (c : Char) {other : Char} (h : other.isAlpha = false) :
    (c.toLower == other) = (c == other) := by
  refine apply_toLower (f := (· == other)) false ?_ c
  intro letter hletter
  rw [beq_eq_false_iff_ne]
  intro heq
  rw [heq, h] at hletter
  cases hletter

theorem toLower_eq_iff (c : Char) {other : Char} (h : other.isAlpha = false) :
    c.toLower = other ↔ c = other := by
  rw [← beq_iff_eq, toLower_beq c h, beq_iff_eq]

/-- The capitals of ASCII are the first run of capitals. -/
theorem lowerLetter_of_capital {c : Char} (h : 0x41 ≤ c.toNat ∧ c.toNat ≤ 0x5A) :
    lowerLetter c = c.toLower := by
  have hholds : CaseRun.holds ⟨0x41, 0x5A, 1, 32⟩ c.toNat = true :=
    CaseRun.holds_iff.2 ⟨h, Nat.mod_one _⟩
  have hruns : caseRuns = ⟨0x41, 0x5A, 1, 32⟩ :: caseRuns.tail := rfl
  have hfind : caseRuns.find? (·.holds c.toNat) = some ⟨0x41, 0x5A, 1, 32⟩ := by
    rw [hruns]
    exact List.find?_cons_of_pos hholds
  unfold lowerLetter
  rw [hfind, ← Char.ofNat_toNat c.toLower, toNat_toLower, if_pos h]
  rfl

theorem lowerLetter_toLower (c : Char) : lowerLetter c.toLower = lowerLetter c := by
  by_cases hcapital : 0x41 ≤ c.toNat ∧ c.toNat ≤ 0x5A
  · have hdotted : c ≠ 'İ' := by
      intro hc
      rw [hc] at hcapital
      exact absurd hcapital (by decide)
    -- what a capital goes to stays where it is
    have hlowered := isLowered_lowerLetter hdotted
    rw [← lowerLetter_of_capital hcapital, lowerLetter_of_isLowered hlowered]
  · rw [toLower_eq_self hcapital]

/-! ## Texts -/

theorem meetsCased_map_toLower (neighbours : List Char) :
    meetsCased (neighbours.map Char.toLower) = meetsCased neighbours := by
  have hignorable : isCaseIgnorable ∘ Char.toLower = isCaseIgnorable :=
    funext isCaseIgnorable_toLower
  unfold meetsCased
  rw [List.dropWhile_map, hignorable]
  cases neighbours.dropWhile isCaseIgnorable with
  | nil => rfl
  | cons c rest => exact isCased_toLower c

theorem lowerBetween_toLower (before after : List Char) (c : Char) :
    lowerBetween (before.map Char.toLower) c.toLower (after.map Char.toLower) =
      lowerBetween before c after := by
  have hsigma : c.toLower = 'Σ' ↔ c = 'Σ' := toLower_eq_iff c (by decide)
  have hdotted : c.toLower = 'İ' ↔ c = 'İ' := toLower_eq_iff c (by decide)
  unfold lowerBetween
  simp only [hsigma, hdotted, meetsCased_map_toLower, lowerLetter_toLower]

theorem lowerAfter_map_toLower (before chars : List Char) :
    lowerAfter (before.map Char.toLower) (chars.map Char.toLower) = lowerAfter before chars := by
  induction chars generalizing before with
  | nil => rfl
  | cons c rest ih =>
    rw [List.map_cons, lowerAfter, lowerAfter, lowerBetween_toLower, ← ih (c :: before)]
    rfl

/-- **Lower case of any script sees no difference in the case of ASCII letters.** -/
theorem lowercase_asciiLower (text : String) : lowercase (asciiLower text) = lowercase text := by
  unfold lowercase asciiLower
  rw [String.toList_ofList]
  exact congrArg String.ofList (lowerAfter_map_toLower [] text.toList)

theorem asciiUpper_asciiLower (text : String) : asciiUpper (asciiLower text) = asciiUpper text := by
  unfold asciiUpper asciiLower
  rw [String.toList_ofList, List.map_map]
  exact congrArg String.ofList (List.map_congr_left fun c _ => toUpper_toLower c)

theorem asciiLower_asciiUpper (text : String) : asciiLower (asciiUpper text) = asciiLower text := by
  unfold asciiUpper asciiLower
  rw [String.toList_ofList, List.map_map]
  exact congrArg String.ofList (List.map_congr_left fun c _ => toLower_toUpper c)

/-- Texts of the same letters have the same lower case. -/
theorem lowercase_of_sameLetters {text other : String} (h : sameLetters text other = true) :
    lowercase text = lowercase other := by
  rw [← lowercase_asciiLower text, (sameLetters_iff text other).1 h, lowercase_asciiLower]

/-- Capitals tell texts apart as well as small letters do. -/
theorem sameLetters_iff_asciiUpper {text other : String} :
    sameLetters text other = true ↔ asciiUpper text = asciiUpper other := by
  rw [sameLetters_iff]
  refine ⟨fun h => ?_, fun h => ?_⟩
  · rw [← asciiUpper_asciiLower text, h, asciiUpper_asciiLower]
  · rw [← asciiLower_asciiUpper text, h, asciiLower_asciiUpper]

theorem sameLetters_symm {text other : String} (h : sameLetters text other = true) :
    sameLetters other text = true := by
  rw [sameLetters_iff] at h ⊢
  exact h.symm

theorem map_toLower_of_letterless {chars : List Char} (h : ∀ c ∈ chars, c.isAlpha = false) :
    chars.map Char.toLower = chars := by
  have hsame : chars.map Char.toLower = chars.map id := by
    refine List.map_congr_left fun c hc => toLower_eq_self ?_
    intro hcapital
    have hletter : c.isAlpha = true := isAlpha_iff.2 (.inl hcapital)
    rw [h c hc] at hletter
    cases hletter
  rw [hsame, List.map_id]

/-- A text without letters has no other spelling. -/
theorem eq_of_sameLetters {text other : String} (h : sameLetters text other = true)
    (hletterless : ∀ c ∈ text.toList, c.isAlpha = false) : text = other := by
  have hlists : text.toList.map Char.toLower = other.toList.map Char.toLower :=
    String.ofList_injective ((sameLetters_iff text other).1 h)
  rw [map_toLower_of_letterless hletterless] at hlists
  have hother : ∀ c ∈ other.toList, c.isAlpha = false := by
    intro c hc
    rw [← isAlpha_toLower]
    apply hletterless
    rw [hlists]
    exact List.mem_map_of_mem hc
  rw [map_toLower_of_letterless hother] at hlists
  exact String.toList_injective hlists

end Almanac.Text
