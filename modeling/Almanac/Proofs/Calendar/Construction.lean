import Almanac.Proofs.Calendar.Declarations

/-!
# When a calendar can be built

A region is good if it has the language, if its day off is a weekday and if every day that it
declares is good. From a good region the calendar is built with the entries in order, and of any
other region the first problem is reported, in the order of `FirstProblem`.
-/

namespace Almanac.Calendar

/-! ## What can be wrong with a region -/

/-- What is reported of a region that is not good. -/
inductive FirstProblem (code language : String) (region : Region) (registry : Registry) :
    CalendarError → Prop
  | language (unsupported : ∀ known ∈ region.languages, Text.sameLetters known language = false) :
      FirstProblem code language region registry
        (.configuration (.languageNotSupported code language))
  | dayOff (supported : ∃ known ∈ region.languages, Text.sameLetters known language = true)
      (unknown : ∀ weekday : Weekday, Text.sameLetters weekday.name region.dayOff = false) :
      FirstProblem code language region registry
        (.configuration (.unknownDayOff code region.dayOff))
  /-- The first day that fails. -/
  | day (supported : ∃ known ∈ region.languages, Text.sameLetters known language = true)
      (known : ∃ weekday : Weekday, Text.sameLetters weekday.name region.dayOff = true)
      {before after : List (String × Json.Value)} {day : String × Json.Value}
      {error : CalendarError} (declared : region.days = before ++ day :: after)
      (good : ∀ earlier ∈ before, Good language registry earlier)
      (fails : Fails language registry day error) :
      FirstProblem code language region registry error

variable {code language : String} {region : Region} {registry : Registry}
  {day : String × Json.Value}

theorem supportsLanguage_iff :
    region.supportsLanguage language = true ↔
      ∃ known ∈ region.languages, Text.sameLetters known language = true := by
  unfold Region.supportsLanguage
  rw [List.any_eq_true]

theorem not_supportsLanguage_iff :
    region.supportsLanguage language = false ↔
      ∀ known ∈ region.languages, Text.sameLetters known language = false := by
  unfold Region.supportsLanguage
  simp only [List.any_eq_false, Bool.not_eq_true]

theorem ofRegion_unsupported (h : region.supportsLanguage language = false) :
    ofRegion code language region registry =
      .error (.configuration (.languageNotSupported code language)) := by
  unfold ofRegion
  rw [h]
  rfl

theorem ofRegion_of_ofName?_none (hlanguage : region.supportsLanguage language = true)
    (hdayOff : Weekday.ofName? region.dayOff = none) :
    ofRegion code language region registry =
      .error (.configuration (.unknownDayOff code region.dayOff)) := by
  unfold ofRegion
  rw [hlanguage, hdayOff]
  rfl

/-- Once language and day off are known, only the days are left to look at. -/
theorem ofRegion_of_ofName? {dayOff : Weekday} (hlanguage : region.supportsLanguage language = true)
    (hdayOff : Weekday.ofName? region.dayOff = some dayOff) :
    ofRegion code language region registry =
      (region.days.mapM (entryOf language registry)).map fun entries =>
        ⟨dayOff, (region.languages.map Text.asciiLower).eraseDups, region.names, entries⟩ := by
  unfold ofRegion
  rw [hlanguage, hdayOff]
  cases region.days.mapM (entryOf language registry) <;> rfl

theorem mapM_entryOf_eq_ok_iff {days : List (String × Json.Value)} {entries : List Entry} :
    days.mapM (entryOf language registry) = .ok entries ↔
      List.Forall₂ (Declares language registry) days entries := by
  rw [mapM_eq_ok_iff]
  simp only [entryOf_eq_ok_iff]

theorem ofRegion_eq_ok_iff {calendar : Calendar} :
    ofRegion code language region registry = .ok calendar ↔
      (∃ known ∈ region.languages, Text.sameLetters known language = true) ∧
      Text.sameLetters calendar.dayOff.name region.dayOff = true ∧
      List.Forall₂ (Declares language registry) region.days calendar.entries ∧
      calendar.languages = (region.languages.map Text.asciiLower).eraseDups ∧
      calendar.regionNames = region.names := by
  rw [← supportsLanguage_iff, ← Weekday.ofName?_eq_some_iff]
  -- the checks in the order in which they are made
  cases hlanguage : region.supportsLanguage language with
  | false =>
      rw [ofRegion_unsupported hlanguage]
      simp
  | true =>
      cases hdayOff : Weekday.ofName? region.dayOff with
      | none =>
          rw [ofRegion_of_ofName?_none hlanguage hdayOff]
          simp
      | some dayOff =>
          rw [ofRegion_of_ofName? hlanguage hdayOff]
          rw [← mapM_entryOf_eq_ok_iff]
          cases region.days.mapM (entryOf language registry) with
          | error error => simp [Except.map]
          | ok entries =>
              obtain ⟨dayOff', languages, regionNames, entries'⟩ := calendar
              simp only [Except.map, Except.ok.injEq, Calendar.mk.injEq, Option.some.injEq,
                true_and]
              constructor
              · rintro ⟨rfl, rfl, rfl, rfl⟩
                exact ⟨rfl, rfl, rfl, rfl⟩
              · rintro ⟨rfl, rfl, rfl, rfl⟩
                exact ⟨rfl, rfl, rfl, rfl⟩

theorem ofRegion_eq_error_iff {error : CalendarError} :
    ofRegion code language region registry = .error error ↔
      FirstProblem code language region registry error := by
  refine ⟨?_, ?_⟩
  · -- the first check that fails gives the error
    intro h
    cases hlanguage : region.supportsLanguage language with
    | false =>
        rw [ofRegion_unsupported hlanguage] at h
        cases h
        exact .language (not_supportsLanguage_iff.1 hlanguage)
    | true =>
        have hsupported := supportsLanguage_iff.1 hlanguage
        cases hdayOff : Weekday.ofName? region.dayOff with
        | none =>
            rw [ofRegion_of_ofName?_none hlanguage hdayOff] at h
            cases h
            exact .dayOff hsupported (Weekday.ofName?_eq_none_iff.1 hdayOff)
        | some dayOff =>
            rw [ofRegion_of_ofName? hlanguage hdayOff] at h
            cases hentries : region.days.mapM (entryOf language registry) with
            | ok entries =>
                rw [hentries] at h
                cases h
            | error found =>
                rw [hentries] at h
                cases h
                -- the days before the first that fails are all good
                obtain ⟨before, day, after, hdays, hbefore, hday⟩ :=
                  mapM_eq_error_iff.1 hentries
                simp only [entryOf_eq_ok_iff, exists_declares_iff] at hbefore
                exact .day hsupported ⟨dayOff, Weekday.ofName?_eq_some_iff.1 hdayOff⟩ hdays hbefore
                  (entryOf_eq_error_iff.1 hday)
  · -- a problem is the first one, so all checks before its own pass
    intro h
    cases h with
    | language unsupported => exact ofRegion_unsupported (not_supportsLanguage_iff.2 unsupported)
    | dayOff supported unknown =>
        exact ofRegion_of_ofName?_none (supportsLanguage_iff.2 supported)
          (Weekday.ofName?_eq_none_iff.2 unknown)
    | @day supported known before after day error declared good fails =>
        obtain ⟨dayOff, hdayOff⟩ := known
        rw [ofRegion_of_ofName? (supportsLanguage_iff.2 supported)
          (Weekday.ofName?_eq_some_iff.2 hdayOff)]
        simp only [← exists_declares_iff, ← entryOf_eq_ok_iff] at good
        rw [declared, mapM_of_first_failure good (entryOf_eq_error_iff.2 fails)]
        rfl

/-- Two ways to look for a language come to the same. -/
theorem supportsLanguage_ofRegion {calendar : Calendar}
    (h : calendar.languages = (region.languages.map Text.asciiLower).eraseDups)
    (language : String) :
    calendar.supportsLanguage language = region.supportsLanguage language := by
  unfold supportsLanguage
  rw [Bool.eq_iff_iff, supportsLanguage_iff, h]
  simp [Text.sameLetters_iff]

/-- What stands behind a day that fails does not matter, whether the day is reported or something
before it. -/
theorem ofRegion_after_failing {before after : List (String × Json.Value)} {error : CalendarError}
    (hdays : region.days = before ++ day :: after) (hfails : Fails language registry day error)
    (after' : List (String × Json.Value)) :
    ofRegion code language { region with days := before ++ day :: after' } registry =
      ofRegion code language region registry := by
  have hsame := mapM_append_failing (entryOf_eq_error_iff.2 hfails) before after' after
  unfold ofRegion
  rw [hdays, hsame]
  rfl

/--
**A calendar is built exactly of a good region, and otherwise the first problem is reported.**

A calendar that is built has one entry for every day that the region declares, in the same order,
and has the languages that the region has. An entry is called what the value of its day calls it in
the language, is of the kind that the value says, and has the rule that the expression writes.
Nothing behind a day that fails changes the outcome.
-/
theorem ofRegion_outcome (code language : String) (region : Region) (registry : Registry) :
    ((∃ calendar, ofRegion code language region registry = .ok calendar) ↔
      (∃ known ∈ region.languages, Text.sameLetters known language = true) ∧
      (∃ weekday : Weekday, Text.sameLetters weekday.name region.dayOff = true) ∧
      ∀ day ∈ region.days, Good language registry day) ∧
    (∀ calendar, ofRegion code language region registry = .ok calendar →
      Text.sameLetters calendar.dayOff.name region.dayOff = true ∧
      List.Forall₂ (Declares language registry) region.days calendar.entries ∧
      ∀ asked, calendar.supportsLanguage asked = region.supportsLanguage asked) ∧
    (∀ expression value entry, Declares language registry (expression, value) entry ↔
      Properties.WellShaped value ∧ Properties.Calls language value entry.name ∧
        SaysType value entry.kind ∧ Rule.ofExpression expression registry = .ok entry.rule) ∧
    (∀ error, ofRegion code language region registry = .error error ↔
      FirstProblem code language region registry error) ∧
    ∀ before day after error, region.days = before ++ day :: after →
      Fails language registry day error → ∀ after',
        ofRegion code language { region with days := before ++ day :: after' } registry =
          ofRegion code language region registry := by
  refine ⟨?_, ?_, fun expression value entry => declares_iff, fun error => ofRegion_eq_error_iff,
    ?_⟩
  · -- a region without problems determines the entries, and with them the calendar
    simp only [ofRegion_eq_ok_iff, ← exists_declares_iff, ← entryOf_eq_ok_iff,
      ← exists_mapM_eq_ok_iff, mapM_entryOf_eq_ok_iff]
    refine ⟨?_, ?_⟩
    · intro h
      obtain ⟨calendar, hlanguage, hdayOff, hentries, -⟩ := h
      exact ⟨hlanguage, ⟨calendar.dayOff, hdayOff⟩, calendar.entries, hentries⟩
    · intro h
      obtain ⟨hlanguage, ⟨dayOff, hdayOff⟩, entries, hentries⟩ := h
      exact ⟨⟨dayOff, _, _, entries⟩, hlanguage, hdayOff, hentries, rfl, rfl⟩
  · intro calendar h
    obtain ⟨-, hdayOff, hentries, hlanguages, -⟩ := ofRegion_eq_ok_iff.1 h
    exact ⟨hdayOff, hentries, supportsLanguage_ofRegion hlanguages⟩
  · intro before day after error hdays hfails after'
    exact ofRegion_after_failing hdays hfails after'

/-- Of a region with a nameless day in between and a misshapen one behind it, the first is reported,
and without the two there is a calendar. Its second day is an observance with a name of its own for
the language, and the one for all languages does not count. -/
theorem ofRegion_outcome_sweden :
    let christmas : String × Json.Value := ("12-25", .object [("_name", .text "Juldagen")])
    let names : List (String × Json.Value) :=
      [("en", .text "Valentine"), ("sv", .text "Alla hjärtans dag")]
    let valentine : String × Json.Value := ("02-14",
      .object [("_name", .text "Valentin"), ("type", .text "Observance"), ("name", .object names)])
    let nameless : String × Json.Value := ("01-01", .object [("_name", .null)])
    let good : Region := ⟨[], "Sunday", ["SV"], [christmas, valentine]⟩
    let bad : Region := ⟨[], "Sunday", ["SV"], [christmas, nameless, ("02-14", .null)]⟩
    let first : Entry := ⟨"Juldagen", .holiday, .fixed 12 25⟩
    let second : Entry := ⟨"Alla hjärtans dag", .observance, .fixed 2 14⟩
    let calendar : Calendar := ⟨.sunday, ["sv"], [], [first, second]⟩
    let error : CalendarError := .configuration (.missingName "01-01" "sv")
    (ofRegion "SE" "sv" good .standard = .ok calendar ∧
      List.Forall₂ (Declares "sv" .standard) good.days calendar.entries ∧
      calendar.supportsLanguage "Sv" = good.supportsLanguage "Sv") ∧
    (Properties.Calls "sv" valentine.2 "Alla hjärtans dag" ∧ SaysType valentine.2 .observance) ∧
    bad.days = [christmas] ++ nameless :: [("02-14", .null)] ∧
      Fails "sv" .standard nameless error ∧
      ofRegion "SE" "sv" { bad with days := [christmas] ++ nameless :: [] } .standard =
        ofRegion "SE" "sv" bad .standard ∧
      ofRegion "SE" "sv" bad .standard = .error error := by
  intro christmas names valentine nameless good bad first second calendar error
  have hbuilt : ofRegion "SE" "sv" good .standard = .ok calendar := by
    simp only [good, christmas, valentine, names, calendar, first, second]; rfl
  obtain ⟨-, hgood, hmembers, -, -⟩ := ofRegion_outcome "SE" "sv" good .standard
  obtain ⟨-, -, -, hbad, hafter⟩ := ofRegion_outcome "SE" "sv" bad .standard
  obtain ⟨-, hentries, hlanguages⟩ := hgood calendar hbuilt
  obtain ⟨hfirst, hsecond⟩ : Declares "sv" .standard christmas first ∧
      Declares "sv" .standard valentine second := by
    cases hentries with
    | cons hfirst hrest =>
      cases hrest with
      | cons hsecond _ => exact ⟨hfirst, hsecond⟩
  obtain ⟨-, hcalls, hkind, -⟩ := (hmembers _ _ _).1 hsecond
  have hfails : Fails "sv" .standard nameless error := .unnamed (by rfl) (by rfl)
  have hchristmas : Good "sv" .standard christmas := exists_declares_iff.1 ⟨first, hfirst⟩
  have hproblem : FirstProblem "SE" "sv" bad .standard error :=
    .day ⟨"SV", by simp [bad], by decide⟩ ⟨.sunday, by decide⟩ rfl
      (List.forall_mem_singleton.2 hchristmas) hfails
  exact ⟨⟨hbuilt, hentries, hlanguages "Sv"⟩, ⟨hcalls, hkind⟩, rfl, hfails,
    hafter [christmas] nameless [("02-14", .null)] error rfl hfails [], (hbad error).2 hproblem⟩

end Almanac.Calendar
