import Almanac.Proofs.Directory.Remembrance
import Almanac.Proofs.Outcome
import Almanac.Proofs.Text.LetterCase

/-!
# Tags of locales

A tag is two codes with a hyphen or an underscore between them, and nothing else is read as a
locale. The first of the two separators decides where the language ends, and since no code contains
one there is no other choice.

The codes of a locale are in lower and in upper case, so a tag is not its own normal form but has
one: lower case throughout, with a hyphen (`plainTag`). A tag and its plain form are read as the
same locale (`ofTag_plainTag`), and the plain form can be told from the locale
(`plainTag_of_ofTag`). So the tags of a locale are the spellings of one plain tag, and a directory,
which looks up everything by locale, keeps these spellings under one key and all others apart.
-/

namespace Almanac

namespace Locale

/-- An ASCII letter or digit. -/
def IsLetterOrDigit (c : Char) : Prop :=
  ('0' ≤ c ∧ c ≤ '9') ∨ ('A' ≤ c ∧ c ≤ 'Z') ∨ ('a' ≤ c ∧ c ≤ 'z')

/-- One or more ASCII letters or digits. -/
structure IsCodeText (code : String) : Prop where
  nonempty : code.toList ≠ []
  characters : ∀ c ∈ code.toList, IsLetterOrDigit c

/-- The tag is made of these two codes and a hyphen or an underscore between them. -/
structure Joins (tag language region : String) : Prop where
  first : IsCodeText language
  second : IsCodeText region
  joined : tag = language ++ "-" ++ region ∨ tag = language ++ "_" ++ region

/-- The text is a tag. -/
def IsTag (tag : String) : Prop := ∃ language region, Joins tag language region

/-- The tag in lower case, with hyphens for underscores. -/
def plainTag (tag : String) : String :=
  String.ofList ((Text.asciiLower tag).toList.map fun c => if c = '_' then '-' else c)

/-! ## Codes and separators -/

theorem isAlphanum_iff {c : Char} : c.isAlphanum = true ↔ IsLetterOrDigit c := by
  unfold IsLetterOrDigit Char.isAlphanum Char.isAlpha Char.isUpper Char.isLower Char.isDigit
  simp only [Char.le_def, Bool.or_eq_true, Bool.and_eq_true, decide_eq_true_eq, ge_iff_le]
  rw [or_comm]

theorem isCode_iff {code : String} : isCode code.toList = true ↔ IsCodeText code := by
  unfold isCode
  simp only [Bool.and_eq_true, Bool.not_eq_true', List.isEmpty_eq_false_iff, List.all_eq_true,
    isAlphanum_iff]
  exact ⟨fun h => ⟨h.1, h.2⟩, fun h => ⟨h.nonempty, h.characters⟩⟩

theorem isSeparator_iff {c : Char} : isSeparator c = true ↔ c = '-' ∨ c = '_' := by
  unfold isSeparator
  rw [Bool.or_eq_true, beq_iff_eq, beq_iff_eq]

/-- No code contains a separator. -/
theorem not_isSeparator {c : Char} (h : IsLetterOrDigit c) : isSeparator c = false := by
  rw [Bool.eq_false_iff, Ne, isSeparator_iff]
  rw [← isAlphanum_iff] at h
  rintro (rfl | rfl)
  · exact absurd h (by decide)
  · exact absurd h (by decide)

variable {tag other language region : String} {locale : Locale}

theorem Joins.toList (h : Joins tag language region) :
    ∃ separator, isSeparator separator = true ∧
      tag.toList = language.toList ++ separator :: region.toList := by
  rcases h.joined with rfl | rfl
  · exact ⟨'-', rfl, by simp⟩
  · exact ⟨'_', rfl, by simp⟩

theorem joins_of_toList {separator : Char} (hfirst : IsCodeText language)
    (hsecond : IsCodeText region) (hseparator : isSeparator separator = true)
    (htag : tag.toList = language.toList ++ separator :: region.toList) :
    Joins tag language region := by
  refine ⟨hfirst, hsecond, ?_⟩
  rcases isSeparator_iff.1 hseparator with rfl | rfl
  · exact Or.inl (String.toList_injective (by simp [htag]))
  · exact Or.inr (String.toList_injective (by simp [htag]))

/-! ## Reading a tag -/

/-- The codes around the first separator are the ones that the tag is made of. -/
theorem ofTag_of_joins (h : Joins tag language region) :
    ofTag tag = .ok (ofCodes language region) := by
  obtain ⟨separator, hseparator, htag⟩ := h.toList
  -- no code has a separator in it, so the first separator is the one between the codes
  have hbefore : ∀ c ∈ language.toList, (!isSeparator c) = true := by
    intro c hc
    rw [not_isSeparator (h.first.characters c hc)]
    rfl
  have hstop : ¬ (!isSeparator separator) = true := by
    rw [hseparator]
    exact Bool.false_ne_true
  have htake : tag.toList.takeWhile (fun c => !isSeparator c) = language.toList := by
    rw [htag, List.takeWhile_append_of_pos hbefore, List.takeWhile_cons, if_neg hstop,
      List.append_nil]
  have hdrop : tag.toList.dropWhile (fun c => !isSeparator c) = separator :: region.toList := by
    rw [htag, List.dropWhile_append_of_pos hbefore, List.dropWhile_cons, if_neg hstop]
  unfold ofTag
  simp only [htake, hdrop]
  rw [isCode_iff.2 h.first, isCode_iff.2 h.second, String.ofList_toList, String.ofList_toList]
  rfl

theorem ofTag_of_not_isTag (h : ¬ IsTag tag) : ofTag tag = .error (.invalidLocale tag) := by
  unfold ofTag
  dsimp only
  split
  · next separator region hdrop =>
    refine if_neg fun hcodes => h ?_
    rw [Bool.and_eq_true] at hcodes
    -- what is behind the first code starts with the separator that ended it
    have hstop : isSeparator separator = true := by
      have hnonempty : tag.toList.dropWhile (fun c => !isSeparator c) ≠ [] := by
        rw [hdrop]
        exact List.cons_ne_nil separator region
      have hhead := List.head_dropWhile_not _ hnonempty
      simpa [hdrop] using hhead
    refine ⟨String.ofList (tag.toList.takeWhile fun c => !isSeparator c), String.ofList region,
      joins_of_toList ?_ ?_ hstop ?_⟩
    · rw [← isCode_iff, String.toList_ofList]
      exact hcodes.1
    · rw [← isCode_iff, String.toList_ofList]
      exact hcodes.2
    · rw [String.toList_ofList, String.toList_ofList, ← hdrop, List.takeWhile_append_dropWhile]
  · rfl

theorem ofTag_iff (tag : String) :
    (∀ locale, ofTag tag = .ok locale ↔
      ∃ language region, Joins tag language region ∧ ofCodes language region = locale) ∧
    ∀ error, ofTag tag = .error error ↔ ¬ IsTag tag ∧ error = .invalidLocale tag := by
  refine eq_ok_and_eq_error_iff ?_ ?_ ?_
  · rintro locale ⟨language, region, h, rfl⟩
    exact ofTag_of_joins h
  · rintro error ⟨h, rfl⟩
    exact ofTag_of_not_isTag h
  · by_cases h : IsTag tag
    · obtain ⟨language, region, hjoins⟩ := h
      exact Or.inl ⟨_, language, region, hjoins, rfl⟩
    · exact Or.inr ⟨_, h, rfl⟩

theorem ofTag_eq_ok_iff : ofTag tag = .ok locale ↔
    ∃ language region, Joins tag language region ∧ ofCodes language region = locale :=
  (ofTag_iff tag).1 locale

theorem exists_ofTag_iff : (∃ locale, ofTag tag = .ok locale) ↔ IsTag tag := by
  refine ⟨?_, ?_⟩
  · rintro ⟨locale, h⟩
    obtain ⟨language, region, hjoins, -⟩ := ofTag_eq_ok_iff.1 h
    exact ⟨language, region, hjoins⟩
  · rintro ⟨language, region, hjoins⟩
    exact ⟨_, ofTag_of_joins hjoins⟩

/-! ## The case of codes -/

theorem isLetterOrDigit_toLower {c : Char} :
    IsLetterOrDigit c.toLower ↔ IsLetterOrDigit c := by
  have hletters : ∀ letter : Char, letter.isAlpha = true → letter.isAlphanum = true := by
    intro letter hletter
    rw [Char.isAlphanum, hletter, Bool.true_or]
  rw [← isAlphanum_iff, ← isAlphanum_iff, Text.apply_toLower true hletters]

theorem isLetterOrDigit_toUpper {c : Char} :
    IsLetterOrDigit c.toUpper ↔ IsLetterOrDigit c := by
  rw [← isLetterOrDigit_toLower, Text.toLower_toUpper, isLetterOrDigit_toLower]

/-- Letters and digits make a code as they are and after a change that tells them from the rest. -/
theorem isCodeText_map_iff {chars : List Char} {f : Char → Char}
    (hf : ∀ c, IsLetterOrDigit (f c) ↔ IsLetterOrDigit c) :
    IsCodeText (String.ofList (chars.map f)) ↔ IsCodeText (String.ofList chars) := by
  refine ⟨?_, ?_⟩
  · rintro ⟨hnonempty, hcharacters⟩
    rw [String.toList_ofList] at hnonempty hcharacters
    refine ⟨?_, ?_⟩
    · rw [String.toList_ofList]
      exact fun hempty => hnonempty (List.map_eq_nil_iff.2 hempty)
    · rw [String.toList_ofList]
      exact fun c hc => (hf c).1 (hcharacters _ (List.mem_map_of_mem hc))
  · rintro ⟨hnonempty, hcharacters⟩
    rw [String.toList_ofList] at hnonempty hcharacters
    refine ⟨?_, ?_⟩
    · rw [String.toList_ofList]
      exact fun hempty => hnonempty (List.map_eq_nil_iff.1 hempty)
    · rw [String.toList_ofList]
      intro d hd
      obtain ⟨c, hc, rfl⟩ := List.mem_map.1 hd
      exact (hf c).2 (hcharacters c hc)

theorem isCodeText_asciiLower (h : IsCodeText language) :
    IsCodeText (Text.asciiLower language) := by
  rw [← String.ofList_toList (s := language)] at h
  exact (isCodeText_map_iff fun _ => isLetterOrDigit_toLower).2 h

theorem isCodeText_asciiUpper (h : IsCodeText region) :
    IsCodeText (Text.asciiUpper region) := by
  rw [← String.ofList_toList (s := region)] at h
  exact (isCodeText_map_iff fun _ => isLetterOrDigit_toUpper).2 h

/-- The case of the codes makes no difference to a locale. -/
theorem ofCodes_of_sameLetters {language' region' : String}
    (hlanguage : Text.asciiLower language = Text.asciiLower language')
    (hregion : Text.asciiLower region = Text.asciiLower region') :
    ofCodes language region = ofCodes language' region' := by
  unfold ofCodes
  rw [hlanguage, ← Text.asciiUpper_asciiLower region, hregion, Text.asciiUpper_asciiLower]

/-- The tag of a locale is made of its codes. -/
theorem Joins.own (h : Joins tag language region) :
    Joins (ofCodes language region).toTag (Text.asciiLower language) (Text.asciiUpper region) :=
  ⟨isCodeText_asciiLower h.first, isCodeText_asciiUpper h.second, Or.inl rfl⟩

/-- **Every locale that was read is read again from its own tag.** -/
theorem ofTag_toTag (h : ofTag tag = .ok locale) : ofTag locale.toTag = .ok locale := by
  obtain ⟨language, region, hjoins, rfl⟩ := ofTag_eq_ok_iff.1 h
  rw [ofTag_of_joins hjoins.own, ofCodes_of_sameLetters (Text.asciiLower_asciiLower language)
    (Text.asciiLower_asciiUpper region)]

/-! ## Spellings of a tag -/

/-- What stands in the plain tag for a character of a tag. -/
def plainChar (c : Char) : Char := if c = '_' then '-' else c.toLower

theorem plainTag_eq (tag : String) : plainTag tag = String.ofList (tag.toList.map plainChar) := by
  unfold plainTag Text.asciiLower
  rw [String.toList_ofList, List.map_map]
  refine congrArg String.ofList (List.map_congr_left fun c _ => ?_)
  have hunderscore : c.toLower = '_' ↔ c = '_' := Text.toLower_eq_iff c (by decide)
  show (if c.toLower = '_' then '-' else c.toLower) = plainChar c
  unfold plainChar
  simp only [hunderscore]

/-- Separators come from separators only. -/
theorem isSeparator_plainChar (c : Char) : isSeparator (plainChar c) = isSeparator c := by
  by_cases h : c = '_'
  · rw [h]
    rfl
  · unfold plainChar isSeparator
    rw [if_neg h, Text.toLower_beq c (by decide), Text.toLower_beq c (by decide)]

theorem plainChar_of_isSeparator {c : Char} (h : isSeparator c = true) : plainChar c = '-' := by
  rcases isSeparator_iff.1 h with rfl | rfl
  · rfl
  · rfl

theorem plainChar_of_letterOrDigit {c : Char} (h : IsLetterOrDigit c) :
    plainChar c = c.toLower := by
  refine if_neg ?_
  rintro rfl
  rw [← isAlphanum_iff] at h
  exact absurd h (by decide)

theorem isLetterOrDigit_plainChar {c : Char} :
    IsLetterOrDigit (plainChar c) ↔ IsLetterOrDigit c := by
  by_cases h : c = '_'
  · rw [h, ← isAlphanum_iff, ← isAlphanum_iff]
    decide
  · unfold plainChar
    rw [if_neg h, isLetterOrDigit_toLower]

/-- The plain tag is made of the codes in lower case. -/
theorem Joins.plain (h : Joins tag language region) :
    plainTag tag = Text.asciiLower language ++ "-" ++ Text.asciiLower region := by
  obtain ⟨separator, hseparator, htag⟩ := h.toList
  have hcode : ∀ {code : String}, IsCodeText code →
      code.toList.map plainChar = code.toList.map Char.toLower := fun hcode =>
    List.map_congr_left fun c hc => plainChar_of_letterOrDigit (hcode.characters c hc)
  rw [plainTag_eq, htag, List.map_append, List.map_cons, hcode h.first, hcode h.second,
    plainChar_of_isSeparator hseparator]
  apply String.toList_injective
  simp [Text.asciiLower]

/-- What is a tag in its plain form is one as it stands. -/
theorem isTag_of_plainTag (h : IsTag (plainTag tag)) : IsTag tag := by
  obtain ⟨language, region, hjoins⟩ := h
  obtain ⟨separator, hseparator, htag⟩ := hjoins.toList
  rw [plainTag_eq, String.toList_ofList, List.map_eq_append_iff] at htag
  obtain ⟨front, back, htag, hfront, hback⟩ := htag
  obtain ⟨c, rest, rfl, rfl, hrest⟩ := List.map_eq_cons_iff.1 hback
  have hfirst := hjoins.first
  have hsecond := hjoins.second
  rw [← String.ofList_toList (s := language), ← hfront,
    isCodeText_map_iff fun _ => isLetterOrDigit_plainChar] at hfirst
  rw [← String.ofList_toList (s := region), ← hrest,
    isCodeText_map_iff fun _ => isLetterOrDigit_plainChar] at hsecond
  rw [isSeparator_plainChar] at hseparator
  refine ⟨String.ofList front, String.ofList rest, joins_of_toList hfirst hsecond hseparator ?_⟩
  rw [String.toList_ofList, String.toList_ofList]
  exact htag

/-- A tag and its plain form are read as the same locale. -/
theorem ofTag_plainTag (h : IsTag tag) : ofTag (plainTag tag) = ofTag tag := by
  obtain ⟨language, region, hjoins⟩ := h
  have hplain : Joins (plainTag tag) (Text.asciiLower language) (Text.asciiLower region) :=
    ⟨isCodeText_asciiLower hjoins.first, isCodeText_asciiLower hjoins.second,
      Or.inl hjoins.plain⟩
  rw [ofTag_of_joins hplain, ofTag_of_joins hjoins,
    ofCodes_of_sameLetters (Text.asciiLower_asciiLower language)
      (Text.asciiLower_asciiLower region)]

/-- All tags of a locale have the plain form of its own tag. -/
theorem plainTag_of_ofTag (h : ofTag tag = .ok locale) :
    plainTag tag = plainTag locale.toTag := by
  obtain ⟨language, region, hjoins, rfl⟩ := ofTag_eq_ok_iff.1 h
  rw [hjoins.plain, hjoins.own.plain, Text.asciiLower_asciiLower, Text.asciiLower_asciiUpper]

/-- **The tags of a locale are the spellings of one plain tag.** -/
theorem ofTag_eq_ok_iff_plainTag (h : ofTag tag = .ok locale) :
    ofTag other = .ok locale ↔ plainTag other = plainTag tag := by
  refine ⟨?_, ?_⟩
  · intro hother
    rw [plainTag_of_ofTag hother, plainTag_of_ofTag h]
  · intro hplain
    have htag : IsTag tag := exists_ofTag_iff.1 ⟨locale, h⟩
    have hother : IsTag other := by
      apply isTag_of_plainTag
      rw [hplain, ← exists_ofTag_iff]
      exact ⟨locale, (ofTag_plainTag htag).trans h⟩
    rw [← ofTag_plainTag hother, hplain, ofTag_plainTag htag, h]

end Locale

/-! ## What a directory keeps under a tag -/

namespace Directory

variable {configuration : Configuration} {registry : Registry} {locale : Locale}
  {calendar : Calendar}

/-- The one question that a new directory was asked is all of its past. -/
theorem remembers_asked (configuration : Configuration) (capacity : Nat) (registry : Registry)
    (date : Date) (locale : Locale) :
    Remembers (fun locale => Calendar.ofConfiguration configuration locale registry) capacity
      ((start configuration capacity registry).isHoliday date locale).2
      [.isHoliday date locale] := by
  have hquestion : (Request.isHoliday date locale).isQuestion = true := rfl
  exact remembers_step (remembers_start configuration capacity registry) hquestion

/-- It has one calendar, under the locale that it was asked about. -/
theorem mem_volumes_asked_iff
    (hbuilt : Calendar.ofConfiguration configuration locale registry = .ok calendar)
    (capacity : Nat) (date : Date) (other : Locale) :
    other ∈ Assoc.keys ((start configuration capacity registry).isHoliday date locale).2.volumes ↔
      other = locale := by
  have hremembers := remembers_asked configuration capacity registry date locale
  rw [hremembers.volumes.locales]
  refine ⟨?_, ?_⟩
  · rintro ⟨hasked, -⟩
    exact List.mem_singleton.1 hasked
  · rintro rfl
    exact ⟨List.mem_singleton.2 rfl, calendar, hbuilt⟩

/-- Unless the date is off by its weekday, it has one list of holidays, under the locale and the
year of the date. -/
theorem contains_years_asked_iff
    (hbuilt : Calendar.ofConfiguration configuration locale registry = .ok calendar)
    (capacity : Nat) {date : Date} (hon : calendar.isDayOff date = false) (other : Locale)
    (year : Int) :
    ((start configuration capacity registry).isHoliday date locale).2.years.contains
        (other, year) = true ↔ other = locale ∧ year = date.year := by
  have hremembers := remembers_asked configuration capacity registry date locale
  have hneeded : [Request.isHoliday date locale].filterMap (Request.needed?
      fun locale => Calendar.ofConfiguration configuration locale registry) =
        [(locale, date.year)] := by
    simp [Request.needed?, hbuilt, hon]
  rw [hremembers.contains_iff, hneeded, List.mem_singleton, Prod.mk.injEq]
  refine ⟨And.left, ?_⟩
  rintro ⟨rfl, rfl⟩
  refine ⟨⟨rfl, rfl⟩, ?_⟩
  simp

end Directory

/--
**What is read from tags.**

The tags are the texts of two codes around a hyphen or an underscore; every other text is refused,
and the error has it as it was given. A locale that was read is read again from its own tag. Two
tags are read as one locale exactly if they are the same in lower case and with hyphens for
underscores. A directory that was asked about a date through one of them then has a calendar for the
other, and for a date that is not off by its weekday the holidays of the year; through all other
tags it has neither.
-/
theorem Locale.ofTag_spellings (tag : String) :
    ((∃ locale, ofTag tag = .ok locale) ↔ IsTag tag) ∧
    (∀ error, ofTag tag = .error error ↔ ¬ IsTag tag ∧ error = .invalidLocale tag) ∧
    ∀ locale, ofTag tag = .ok locale →
      ofTag locale.toTag = .ok locale ∧
      (∀ other, ofTag other = .ok locale ↔ plainTag other = plainTag tag) ∧
      ∀ other locale', ofTag other = .ok locale' →
        (locale' = locale ↔ plainTag other = plainTag tag) ∧
        ∀ configuration registry calendar,
          Calendar.ofConfiguration configuration locale registry = .ok calendar →
          ∀ capacity date,
            let asked := ((Directory.start configuration capacity registry).isHoliday date locale).2
            (locale' ∈ Assoc.keys asked.volumes ↔ plainTag other = plainTag tag) ∧
            (calendar.isDayOff date = false → ∀ year,
              asked.years.contains (locale', year) = true ↔
                plainTag other = plainTag tag ∧ year = date.year) := by
  refine ⟨exists_ofTag_iff, (ofTag_iff tag).2, ?_⟩
  intro locale h
  refine ⟨ofTag_toTag h, fun other => ofTag_eq_ok_iff_plainTag h, ?_⟩
  intro other locale' hother
  -- the locale is the key of both caches, so what tells the tags apart tells their entries apart
  have hsame : locale' = locale ↔ plainTag other = plainTag tag := by
    rw [← ofTag_eq_ok_iff_plainTag h, hother, Except.ok.injEq]
  refine ⟨hsame, ?_⟩
  intro configuration registry calendar hbuilt capacity date asked
  refine ⟨?_, ?_⟩
  · rw [← hsame]
    exact Directory.mem_volumes_asked_iff hbuilt capacity date locale'
  · intro hon year
    rw [← hsame]
    exact Directory.contains_years_asked_iff hbuilt capacity hon locale' year

/-- Three spellings of a tag, a text with a separator too many, and a directory that was asked about
a Tuesday of 2019 through one of the tags. -/
theorem Locale.ofTag_spellings_sweden :
    let sweden : Locale := ⟨"sv", "SE"⟩
    let configuration : Configuration := ⟨[("SE", ⟨[], "sunday", ["sv"],
      [("01-01", .object [("_name", .text "Nyårsdagen")])]⟩)], 20⟩
    let tuesday : Date := ⟨737425, by decide, by decide⟩
    let asked := ((Directory.start configuration 1 .standard).isHoliday tuesday sweden).2
    (ofTag "SV_se" = .ok sweden ∧ ofTag sweden.toTag = .ok sweden) ∧
      (plainTag "sV-Se" = plainTag "SV_se" ∧ ofTag "sV-Se" = .ok sweden) ∧
      ofTag "sv-SE_x" = .error (.invalidLocale "sv-SE_x") ∧
      ofTag "sv-FI" = .ok ⟨"sv", "FI"⟩ ∧
      (sweden ∈ Assoc.keys asked.volumes ∧ ⟨"sv", "FI"⟩ ∉ Assoc.keys asked.volumes) ∧
      asked.years.contains (sweden, 2019) = true ∧
      asked.years.contains (⟨"sv", "FI"⟩, 2019) = false := by
  intro sweden configuration tuesday asked
  have hread : ofTag "SV_se" = .ok sweden := by rfl
  have hfinland : ofTag "sv-FI" = .ok ⟨"sv", "FI"⟩ := by rfl
  have hplain : plainTag "sV-Se" = plainTag "SV_se" := by decide +kernel
  have hother : plainTag "sv-FI" ≠ plainTag "SV_se" := by decide +kernel
  have hlong : ofTag "sv-SE_x" = .error (.invalidLocale "sv-SE_x") := by rfl
  have hbuilt : Calendar.ofConfiguration configuration sweden .standard =
      .ok ⟨.sunday, ["sv"], [], [⟨"Nyårsdagen", .holiday, .fixed 1 1⟩]⟩ := by
    simp only [configuration, sweden]; rfl
  have hon : (⟨.sunday, ["sv"], [], [⟨"Nyårsdagen", .holiday, .fixed 1 1⟩]⟩ : Calendar).isDayOff
      tuesday = false := by decide
  obtain ⟨-, -, hlocale⟩ := ofTag_spellings "SV_se"
  obtain ⟨hown, hspellings, hkeys⟩ := hlocale sweden hread
  have hsame := (hspellings "sV-Se").2 hplain
  obtain ⟨-, hsweden⟩ := hkeys "sV-Se" sweden hsame
  obtain ⟨-, hfinnish⟩ := hkeys "sv-FI" ⟨"sv", "FI"⟩ hfinland
  obtain ⟨hvolumes, hyears⟩ := hsweden configuration .standard _ hbuilt 1 tuesday
  obtain ⟨hvolumes', hyears'⟩ := hfinnish configuration .standard _ hbuilt 1 tuesday
  refine ⟨⟨hread, hown⟩, ⟨hplain, hsame⟩, hlong, hfinland, ⟨hvolumes.2 hplain, ?_⟩, ?_, ?_⟩
  · exact fun h => hother (hvolumes'.1 h)
  · exact (hyears hon 2019).2 ⟨hplain, by decide⟩
  · rw [Bool.eq_false_iff]
    exact fun h => hother ((hyears' hon 2019).1 h).1

end Almanac
