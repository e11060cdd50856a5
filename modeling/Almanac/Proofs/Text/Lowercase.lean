import Almanac.Text.Lowercase

/-!
# Lower case is final

A text in lower case stays as it is when it is put in lower case again (`lowercase_lowercase`). This
is a property of the table of capitals: where a run of capitals goes to, there are no capitals. Both
letters outside the table go to letters that have no capital in it either.
-/

namespace Almanac.Text

/-- The character is no capital. -/
structure IsLowered (c : Char) : Prop where
  dotted : c ≠ 'İ'
  unheld : caseRuns.any (·.holds c.toNat) = false

/-! ## Where the capitals go -/

/-- The least and the greatest code point that the capitals of the run go to. -/
def CaseRun.image (run : CaseRun) : Nat × Nat :=
  (((run.first : Int) + run.shift).toNat, ((run.last : Int) + run.shift).toNat)

/-- The capitals of `run` do not go to those of `other`: they all pass it by, or each goes to a gap
between two of them. -/
def CaseRun.avoids (run other : CaseRun) : Bool :=
  run.image.2.blt other.first || other.last.blt run.image.1 ||
    (run.step == 2 || run.first == run.last) && other.step == 2 &&
      (run.image.1 + other.first) % 2 == 1

/-- The capitals of the run go to characters. -/
def CaseRun.isSound (run : CaseRun) : Bool :=
  0 ≤ (run.first : Int) + run.shift &&
    (run.image.2 < 0xD800 || 0xDFFF < run.image.1 && run.image.2 < 0x110000)

/-- The dotted capital I as a run of its own. -/
def dottedRun : CaseRun := ⟨0x130, 0x130, 1, 0⟩

theorem caseRuns_sound : caseRuns.all CaseRun.isSound = true := by decide +kernel

theorem caseRuns_avoid :
    (caseRuns.all fun run => (dottedRun :: caseRuns).all run.avoids) = true := by
  decide +kernel

section
variable {run other : CaseRun} {n : Nat}

theorem CaseRun.avoids_of_mem (hrun : run ∈ caseRuns) (hother : other ∈ dottedRun :: caseRuns) :
    run.avoids other = true := by
  have hall := List.all_eq_true.1 caseRuns_avoid run hrun
  exact List.all_eq_true.1 hall other hother

theorem CaseRun.holds_iff :
    run.holds n = true ↔ (run.first ≤ n ∧ n ≤ run.last) ∧ (n - run.first) % run.step = 0 := by
  simp [CaseRun.holds]

theorem CaseRun.not_holds_of_avoids (hsound : run.isSound = true) (h : run.avoids other = true)
    (hn : run.holds n = true) : other.holds ((n : Int) + run.shift).toNat = false := by
  rw [Bool.eq_false_iff, Ne, holds_iff]
  intro hother
  obtain ⟨⟨hfirst, hlast⟩, hstep⟩ := holds_iff.1 hn
  obtain ⟨⟨hotherFirst, hotherLast⟩, hotherStep⟩ := hother
  simp only [isSound, avoids, Bool.or_eq_true, Bool.and_eq_true, decide_eq_true_eq,
    Nat.blt_eq, beq_iff_eq] at hsound h
  simp only [image] at hsound h
  rcases h with (hbelow | habove) | ⟨⟨hsteps, htwo⟩, hodd⟩
  · omega
  · omega
  · -- every second code point is a capital of the other run, and the image has the odd ones
    rw [htwo] at hotherStep
    rcases hsteps with hrun | hsingle
    · rw [hrun] at hstep
      omega
    · omega

theorem CaseRun.toNat_of_isSound (hsound : run.isSound = true) (hn : run.holds n = true) :
    (Char.ofNat ((n : Int) + run.shift).toNat).toNat = ((n : Int) + run.shift).toNat := by
  have hvalid : ((n : Int) + run.shift).toNat.isValidChar := by
    obtain ⟨⟨hfirst, hlast⟩, -⟩ := holds_iff.1 hn
    simp only [isSound, Bool.or_eq_true, Bool.and_eq_true, decide_eq_true_eq] at hsound
    simp only [image] at hsound
    unfold Nat.isValidChar
    omega
  unfold Char.ofNat
  rw [dif_pos hvalid]
  rfl

end

theorem isLowered_lowerLetter {c : Char} (hc : c ≠ 'İ') : IsLowered (lowerLetter c) := by
  unfold lowerLetter
  cases hfind : caseRuns.find? (·.holds c.toNat) with
  | none => exact ⟨hc, List.any_eq_false.2 (List.find?_eq_none.1 hfind)⟩
  | some run =>
    have hrun : run ∈ caseRuns := List.mem_of_find?_eq_some hfind
    have hholds := List.find?_some hfind
    have hsound : run.isSound = true := List.all_eq_true.1 caseRuns_sound run hrun
    have hvalue : (Char.ofNat ((c.toNat : Int) + run.shift).toNat).toNat =
        ((c.toNat : Int) + run.shift).toNat := CaseRun.toNat_of_isSound hsound hholds
    -- where the run goes to there is neither a capital nor the dotted I
    have hunheld : ∀ other ∈ dottedRun :: caseRuns,
        other.holds ((c.toNat : Int) + run.shift).toNat = false :=
      fun other hother =>
        CaseRun.not_holds_of_avoids hsound (CaseRun.avoids_of_mem hrun hother) hholds
    refine ⟨?_, ?_⟩
    · intro hdotted
      have hself : dottedRun.holds 'İ'.toNat = true := by decide
      rw [← hdotted, hvalue, hunheld dottedRun List.mem_cons_self] at hself
      cases hself
    · rw [hvalue, List.any_eq_false]
      intro other hother
      rw [hunheld other (List.mem_cons_of_mem _ hother)]
      decide

/-! ## Texts -/

theorem isLowered_of_mem_lowerBetween {before after : List Char} {c d : Char}
    (h : d ∈ lowerBetween before c after) : IsLowered d := by
  unfold lowerBetween at h
  split at h
  · rw [List.mem_singleton] at h
    split at h
    · rw [h]; exact ⟨by decide, by decide +kernel⟩
    · rw [h]; exact ⟨by decide, by decide +kernel⟩
  · split at h
    · simp only [List.mem_cons, List.not_mem_nil, or_false] at h
      rcases h with rfl | rfl
      · exact ⟨by decide, by decide +kernel⟩
      · exact ⟨by decide, by decide +kernel⟩
    · next hdotted =>
      rw [List.mem_singleton] at h
      rw [h]
      exact isLowered_lowerLetter hdotted

theorem isLowered_of_mem_lowerAfter {before chars : List Char} {c : Char}
    (h : c ∈ lowerAfter before chars) : IsLowered c := by
  induction chars generalizing before with
  | nil => cases h
  | cons first rest ih =>
    rw [lowerAfter, List.mem_append] at h
    rcases h with hfirst | hrest
    · exact isLowered_of_mem_lowerBetween hfirst
    · exact ih hrest

theorem lowerLetter_of_isLowered {c : Char} (h : IsLowered c) : lowerLetter c = c := by
  have hfind : caseRuns.find? (·.holds c.toNat) = none :=
    List.find?_eq_none.2 (List.any_eq_false.1 h.unheld)
  unfold lowerLetter
  rw [hfind]

theorem lowerBetween_of_isLowered {c : Char} (h : IsLowered c) (before after : List Char) :
    lowerBetween before c after = [c] := by
  have hsigma : c ≠ 'Σ' := by
    intro hc
    have hheld : caseRuns.any (·.holds 'Σ'.toNat) = true := by decide +kernel
    rw [← hc, h.unheld] at hheld
    cases hheld
  unfold lowerBetween
  rw [if_neg hsigma, if_neg h.dotted, lowerLetter_of_isLowered h]

theorem lowerAfter_of_isLowered {before chars : List Char} (h : ∀ c ∈ chars, IsLowered c) :
    lowerAfter before chars = chars := by
  induction chars generalizing before with
  | nil => rfl
  | cons first rest ih =>
    rw [List.forall_mem_cons] at h
    rw [lowerAfter, lowerBetween_of_isLowered h.1, ih h.2]
    rfl

/-- **A text in lower case has no capitals left.** -/
theorem lowercase_lowercase (text : String) : lowercase (lowercase text) = lowercase text := by
  unfold lowercase
  rw [String.toList_ofList, lowerAfter_of_isLowered fun c hc => isLowered_of_mem_lowerAfter hc]

end Almanac.Text
