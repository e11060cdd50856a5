import Almanac.Proofs.Calendar.Construction

/-!
# Languages of calendars that are put together by hand

A calendar is asked for a language in any spelling and looks for it in lower case among the
languages that it has stored. So it has the languages that it was given only if they are stored in
lower case, and that is up to whoever builds it. A calendar of a region has its languages in lower
case. One that is put together by hand has them as they were given, and a language that was given in
capitals alone is lost, in all of its spellings.
-/

namespace Almanac.Calendar

/-- The calendar has the given languages in every spelling, and no others. -/
def HasLanguages (calendar : Calendar) (given : List String) : Prop :=
  ∀ asked, calendar.supportsLanguage asked = true ↔
    ∃ known ∈ given, Text.sameLetters known asked = true

variable {calendar : Calendar} {given : List String}

theorem supportsLanguage_iff_mem {asked : String} :
    calendar.supportsLanguage asked = true ↔ Text.asciiLower asked ∈ calendar.languages := by
  unfold supportsLanguage
  rw [List.contains_iff_mem]

theorem mem_languages_ofEntries {dayOff : Weekday} {entries : List Entry} {language : String} :
    language ∈ (ofEntries dayOff given entries).languages ↔ language ∈ given :=
  List.mem_eraseDups

/-- **What is stored in lower case decides**, and what is stored in capitals does not count. -/
theorem hasLanguages_iff :
    calendar.HasLanguages given ↔ ∀ language, Text.asciiLower language = language →
      (language ∈ calendar.languages ↔ ∃ known ∈ given, Text.asciiLower known = language) := by
  unfold HasLanguages
  simp only [supportsLanguage_iff_mem, Text.sameLetters_iff]
  refine ⟨?_, ?_⟩
  · intro h language hlower
    have hasked := h language
    rwa [hlower] at hasked
  · intro h asked
    exact h (Text.asciiLower asked) (Text.asciiLower_asciiLower asked)

/-- A calendar of a region has the languages of the region. -/
theorem hasLanguages_ofRegion {code language : String} {region : Region} {registry : Registry}
    (h : ofRegion code language region registry = .ok calendar) :
    calendar.HasLanguages region.languages := by
  obtain ⟨-, -, -, hlanguages, -⟩ := ofRegion_eq_ok_iff.1 h
  intro asked
  rw [supportsLanguage_ofRegion hlanguages, supportsLanguage_iff]

/-- Languages in lower case are stored as a region has them stored. -/
theorem hasLanguages_lowered (dayOff : Weekday) (given : List String) (entries : List Entry) :
    (ofEntries dayOff (given.map Text.asciiLower) entries).HasLanguages given := by
  rw [hasLanguages_iff]
  intro language _
  rw [mem_languages_ofEntries, List.mem_map]

/--
**A calendar that is put together by hand has a language if the language was given in lower case.**

It is found to have exactly the languages whose lower case was given. So it has all that it was
given, in every spelling, exactly if each of them was given in lower case as well; nothing is missed
if all of them are put in lower case before. A calendar of a region always has all languages of the
region, however they are spelled there.
-/
theorem hasLanguages_ofEntries (dayOff : Weekday) (given : List String) (entries : List Entry) :
    (∀ asked, (ofEntries dayOff given entries).supportsLanguage asked = true ↔
      Text.asciiLower asked ∈ given) ∧
    ((ofEntries dayOff given entries).HasLanguages given ↔
      ∀ known ∈ given, Text.asciiLower known ∈ given) ∧
    (ofEntries dayOff (given.map Text.asciiLower) entries).HasLanguages given ∧
    ∀ code language region registry calendar,
      ofRegion code language region registry = .ok calendar →
      calendar.HasLanguages region.languages := by
  refine ⟨?_, ⟨?_, ?_⟩, hasLanguages_lowered dayOff given entries, ?_⟩
  · intro asked
    rw [supportsLanguage_iff_mem, mem_languages_ofEntries]
  · -- ask for it in lower case, which is another spelling of what was given
    intro h known hknown
    have hlower := hasLanguages_iff.1 h (Text.asciiLower known) (Text.asciiLower_asciiLower known)
    rw [mem_languages_ofEntries] at hlower
    exact hlower.2 ⟨known, hknown, rfl⟩
  · intro h
    rw [hasLanguages_iff]
    intro language hlower
    rw [mem_languages_ofEntries]
    refine ⟨?_, ?_⟩
    · intro hlanguage
      exact ⟨language, hlanguage, hlower⟩
    · rintro ⟨known, hknown, rfl⟩
      exact h known hknown
  · intro code language region registry calendar hbuilt
    exact hasLanguages_ofRegion hbuilt

/-- Swedish in two spellings, one of them in lower case, and a region that has it in capitals. -/
theorem hasLanguages_ofEntries_twice :
    let given := ["SV", "sv", "en"]
    let region : Region :=
      ⟨[], "sunday", ["SV"], [("12-25", .object [("_name", .text "Juldagen")])]⟩
    let calendar : Calendar := ⟨.sunday, ["sv"], [], [⟨"Juldagen", .holiday, .fixed 12 25⟩]⟩
    ((∀ known ∈ given, Text.asciiLower known ∈ given) ∧
      (ofEntries .sunday given []).HasLanguages given ∧
      (ofEntries .sunday given []).supportsLanguage "Sv" = true) ∧
    (ofEntries .sunday (["SV"].map Text.asciiLower) []).HasLanguages ["SV"] ∧
    ofRegion "SE" "sv" region .standard = .ok calendar ∧ calendar.HasLanguages ["SV"] := by
  intro given region calendar
  have hlower : ∀ known ∈ given, Text.asciiLower known ∈ given := by decide
  have hbuilt : ofRegion "SE" "sv" region .standard = .ok calendar := by
    simp only [region, calendar]; rfl
  obtain ⟨hfound, hall, -⟩ := hasLanguages_ofEntries .sunday given []
  obtain ⟨-, -, hlowered, hregion⟩ := hasLanguages_ofEntries .sunday ["SV"] []
  exact ⟨⟨hlower, hall.2 hlower, (hfound "Sv").2 (by decide)⟩, hlowered, hbuilt,
    hregion "SE" "sv" region .standard calendar hbuilt⟩

/-- **A language in capitals is lost.** A calendar that was given Swedish in capitals does not have
it, neither in small letters nor as it was given. -/
theorem not_hasLanguages_ofEntries :
    (∃ known ∈ ["SV"], Text.sameLetters known "sv" = true) ∧
      (ofEntries .sunday ["SV"] []).supportsLanguage "sv" = false ∧
      (ofEntries .sunday ["SV"] []).supportsLanguage "SV" = false ∧
      ¬ (ofEntries .sunday ["SV"] []).HasLanguages ["SV"] := by
  have hgiven : ∃ known ∈ ["SV"], Text.sameLetters known "sv" = true := by decide
  have hlost : (ofEntries .sunday ["SV"] []).supportsLanguage "sv" = false := by decide
  refine ⟨hgiven, hlost, by decide, ?_⟩
  intro h
  rw [(h "sv").2 hgiven] at hlost
  cases hlost

end Almanac.Calendar
