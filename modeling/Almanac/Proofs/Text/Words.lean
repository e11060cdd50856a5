import Almanac.Text.Alphanumeric
import Almanac.Text.Blank

/-!
# Words are what blanks separate

Splitting a text at every blank leaves pieces, and the words are the pieces that are not empty. The
converse is `words_intercalate`: pieces without blanks, put together with spaces, are the words of
what they make. No letter or number is a blank, so names are such pieces.
-/

namespace Almanac.Text

theorem finishWord_eq (word : List Char) :
    finishWord word = [word.reverse].filter fun piece => !piece.isEmpty := by
  cases word <;> simp [finishWord]

theorem wordsFrom_eq (word chars : List Char) :
    wordsFrom word chars =
      (chars.splitOnPPrepend isBlank word).filter fun piece => !piece.isEmpty := by
  induction chars generalizing word with
  | nil => rw [wordsFrom, finishWord_eq, List.splitOnPPrepend_nil]
  | cons c rest ih =>
    rw [wordsFrom, List.splitOnPPrepend_cons_eq_if]
    split
    · rw [ih, finishWord_eq, List.splitOnPPrepend_nil_right, ← List.filter_append]
      rfl
    · exact ih (c :: word)

/-- **The words of a text are the pieces between its blanks**, the empty ones left out. -/
theorem words_eq (text : String) :
    words text = ((text.toList.splitOnP isBlank).filter fun piece => !piece.isEmpty).map
      String.ofList := by
  unfold words
  rw [wordsFrom_eq, List.splitOnPPrepend_nil_right]

/-- A blank parts the words before it from those behind it. -/
theorem words_append_blank {c : Char} (hc : isBlank c = true) (front back : List Char) :
    words (String.ofList (front ++ c :: back)) =
      words (String.ofList front) ++ words (String.ofList back) := by
  rw [words_eq, words_eq, words_eq]
  simp only [String.toList_ofList]
  rw [List.splitOnP_append_cons front back hc, List.filter_append, List.map_append]

/-! ## Putting words together -/

/-- A piece of text that is not empty and has no blanks. -/
structure Unbroken (piece : String) : Prop where
  nonempty : piece.toList ≠ []
  unblank : ∀ c ∈ piece.toList, isBlank c = false

theorem words_of_unbroken {piece : String} (h : Unbroken piece) : words piece = [piece] := by
  have hnonempty := h.nonempty
  rw [words_eq, List.splitOnP_eq_singleton h.unblank]
  simp [hnonempty]

/-- **The words of a text that is put together from pieces are the pieces.** -/
theorem words_intercalate {pieces : List String} (h : ∀ piece ∈ pieces, Unbroken piece) :
    words (" ".intercalate pieces) = pieces := by
  induction pieces with
  | nil => rfl
  | cons piece rest ih =>
    rw [List.forall_mem_cons] at h
    cases rest with
    | nil =>
      rw [String.intercalate_singleton]
      exact words_of_unbroken h.1
    | cons next rest =>
      have hsplit : " ".intercalate (piece :: next :: rest) =
          String.ofList (piece.toList ++ ' ' :: (" ".intercalate (next :: rest)).toList) := by
        rw [String.intercalate_cons_cons, String.append_assoc]
        apply String.toList_injective
        simp
      rw [hsplit, words_append_blank (by decide), String.ofList_toList, String.ofList_toList,
        words_of_unbroken h.1, ih h.2]
      rfl

/-! ## Letters and numbers are no blanks -/

/-- No range of the one list meets a range of the other. -/
def Ranges.apart (these those : Ranges) : Bool :=
  these.all fun a => those.all fun b => a.2 < b.1 || b.2 < a.1

theorem Ranges.has_eq_false_of_apart {these those : Ranges} (h : these.apart those = true)
    {c : Char} (hc : those.has c = true) : these.has c = false := by
  rw [Bool.eq_false_iff, Ne, has_iff]
  intro hthese
  obtain ⟨a, ha, hlow, hhigh⟩ := hthese
  obtain ⟨b, hb, hfirst, hlast⟩ := (has_iff those c).1 hc
  have hapart := List.all_eq_true.1 (List.all_eq_true.1 h a ha) b hb
  simp only [Bool.or_eq_true, decide_eq_true_eq] at hapart
  omega

theorem isBlank_of_isAlphanumeric {c : Char} (h : isAlphanumeric c = true) : isBlank c = false := by
  unfold isAlphanumeric at h
  split at h
  · next hascii =>
    -- the ASCII letters and digits are told one by one
    have hall : ∀ n < 0x80, (Char.ofNat n).isAlphanum = true → isBlank (Char.ofNat n) = false := by
      decide +kernel
    have hc := hall c.toNat hascii
    rw [Char.ofNat_toNat] at hc
    exact hc h
  · exact Ranges.has_eq_false_of_apart (by decide +kernel) h

end Almanac.Text
