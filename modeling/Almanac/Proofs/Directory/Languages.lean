import Almanac.Proofs.Calendar.Languages
import Almanac.Proofs.Directory.Transparency

/-!
# The language does not decide what is a holiday

Two locales of one region may call their days differently, and a directory keeps a calendar and
lists of holidays for each of them. Still it gives the same answers about dates in both.
-/

namespace Almanac.Directory

/-- What directories answer about a locale that has a calendar. -/
theorem answers_of_calendar {directory : Directory} (hfaithful : directory.Faithful)
    {locale : Locale} {calendar : Calendar} (h : (directory.calendar locale).1 = .ok calendar) :
    directory.build locale = .ok calendar ∧
      (∀ year, (directory.days locale year).1 = .ok (calendar.days year)) ∧
      ∀ date, (directory.isHoliday date locale).1 = .ok (calendar.isHoliday date) := by
  have hbuild : directory.build locale = .ok calendar := by
    rw [← calendar_eq hfaithful locale, h]
  refine ⟨hbuild, ?_, ?_⟩
  · intro year
    show (directory.calendar locale).1.map (·.days year) = .ok (calendar.days year)
    rw [h]
    rfl
  · intro date
    rw [(isHoliday_spec hfaithful date locale).1, hbuild]
    rfl

/--
**The language never decides which days are holidays.**

Two calendars of one region, in whatever languages, have the same day off and the same languages,
and entry by entry the same kinds and rules. So they list days of the same dates and kinds in every
year, in the same order, and have the same dates off. The same is true of what a directory answers
in two locales of one region, whatever it was asked before each of them, and of two directories that
have the same feasts.
-/
theorem sameAnswers_of_sameRegion :
    (∀ (code code' language language' : String) (region : Region) (registry : Registry)
      (calendar calendar' : Calendar),
      Calendar.ofRegion code language region registry = .ok calendar →
      Calendar.ofRegion code' language' region registry = .ok calendar' →
      calendar.Alike calendar' ∧
      (∀ year, (calendar.days year).map Day.unnamed = (calendar'.days year).map Day.unnamed) ∧
      ∀ date, calendar.isHoliday date = calendar'.isHoliday date) ∧
    ∀ (configuration : Configuration) (locale locale' : Locale),
      Text.asciiUpper locale.region = Text.asciiUpper locale'.region →
      ∀ (capacity capacity' : Nat) (first first' : Registry) (requests requests' : List Request),
        lastFeasts first requests = lastFeasts first' requests' →
        let directory := ((start configuration capacity first).run requests).2
        let directory' := ((start configuration capacity' first').run requests').2
        ∀ calendar calendar' : Calendar, (directory.calendar locale).1 = .ok calendar →
          (directory'.calendar locale').1 = .ok calendar' →
          calendar.Alike calendar' ∧
          (∀ year, ∃ days days', (directory.days locale year).1 = .ok days ∧
            (directory'.days locale' year).1 = .ok days' ∧
            days.map Day.unnamed = days'.map Day.unnamed) ∧
          ∀ date, ∃ off, (directory.isHoliday date locale).1 = .ok off ∧
            (directory'.isHoliday date locale').1 = .ok off := by
  refine ⟨?_, ?_⟩
  · intro code code' language language' region registry calendar calendar' h h'
    have halike := Calendar.alike_of_ofRegion h h'
    exact ⟨halike, halike.days, halike.isHoliday⟩
  · intro configuration locale locale' hregion capacity capacity' first first' requests requests'
      hlast directory directory' calendar calendar' h h'
    -- whatever was asked before, each directory answers from the calendar that is built of the
    -- region with its last feasts
    obtain ⟨hfaithful, hbuild⟩ := build_of_run configuration capacity first requests locale
    obtain ⟨hfaithful', hbuild'⟩ := build_of_run configuration capacity' first' requests' locale'
    obtain ⟨hcalendar, hdays, hoff⟩ := answers_of_calendar hfaithful h
    obtain ⟨hcalendar', hdays', hoff'⟩ := answers_of_calendar hfaithful' h'
    rw [hcalendar] at hbuild
    rw [hcalendar', ← hlast] at hbuild'
    -- the last feasts are the same, so both calendars are built of one region with them
    have halike := Calendar.alike_of_ofConfiguration hregion hbuild.symm hbuild'.symm
    refine ⟨halike, ?_, ?_⟩
    · intro year
      exact ⟨_, _, hdays year, hdays' year, halike.days year⟩
    · intro date
      refine ⟨_, hoff date, ?_⟩
      rw [hoff' date, halike.isHoliday date]

/-- Sweden in two languages, one of which leaves a day to its shared name. A directory that was
asked about the first and one that was not agree. -/
theorem sameAnswers_of_sameRegion_sweden :
    let region : Region := ⟨[], "Sunday", ["sv", "en"],
      [("easter -2", .object [("name", .object [("sv", .text "Långfredagen"),
          ("en", .text "Good Friday")])]),
        ("02-14", .object [("_name", .text "Alla hjärtans dag"), ("type", .text "observance")])]⟩
    let configuration : Configuration := ⟨[("SE", region)], 20⟩
    let swedish : Locale := ⟨"sv", "SE"⟩
    let english : Locale := ⟨"en", "SE"⟩
    let friday : Rule := .fromFeast "easter" easterSunday (-2)
    let heart : Entry := ⟨"Alla hjärtans dag", .observance, .fixed 2 14⟩
    let calendar : Calendar :=
      ⟨.sunday, ["sv", "en"], [], [⟨"Långfredagen", .holiday, friday⟩, heart]⟩
    let calendar' : Calendar :=
      ⟨.sunday, ["sv", "en"], [], [⟨"Good Friday", .holiday, friday⟩, heart]⟩
    let goodFriday : Date := ⟨736798, by decide, by decide⟩
    let directory := ((start configuration 1 .standard).run [.isHoliday goodFriday english]).2
    let directory' := ((start configuration 0 .empty).run [.withFeasts .standard]).2
    (Calendar.ofRegion "SE" "sv" region .standard = .ok calendar ∧
      Calendar.ofRegion "SE" "en" region .standard = .ok calendar' ∧ calendar.Alike calendar') ∧
    (directory.calendar swedish).1 = .ok calendar ∧
      (directory'.calendar english).1 = .ok calendar' ∧
      ∃ off, (directory.isHoliday goodFriday swedish).1 = .ok off ∧
        (directory'.isHoliday goodFriday english).1 = .ok off := by
  intro region configuration swedish english friday heart calendar calendar' goodFriday directory
    directory'
  have hswedish : Calendar.ofRegion "SE" "sv" region .standard = .ok calendar := by
    simp only [region, calendar, friday, heart]; rfl
  have henglish : Calendar.ofRegion "SE" "en" region .standard = .ok calendar' := by
    simp only [region, calendar', friday, heart]; rfl
  have hregion : configuration.region "SE" = .ok region := by
    simp only [configuration]; rfl
  obtain ⟨hcalendars, hdirectories⟩ := sameAnswers_of_sameRegion
  -- the first directory was asked in English only, and the second has its feasts from a request
  have hasked : (directory.calendar swedish).1 = .ok calendar := by
    obtain ⟨hfaithful, hbuild⟩ := build_of_run configuration 1 .standard
      [.isHoliday goodFriday english] swedish
    rw [calendar_eq hfaithful swedish, hbuild]
    exact Calendar.ofConfiguration_eq_ok_iff.2 ⟨region, hregion, hswedish⟩
  have hasked' : (directory'.calendar english).1 = .ok calendar' := by
    obtain ⟨hfaithful, hbuild⟩ := build_of_run configuration 0 .empty [.withFeasts .standard]
      english
    rw [calendar_eq hfaithful english, hbuild]
    exact Calendar.ofConfiguration_eq_ok_iff.2 ⟨region, hregion, henglish⟩
  obtain ⟨-, -, hoff⟩ := hdirectories configuration swedish english rfl 1 0 .standard .empty
    [.isHoliday goodFriday english] [.withFeasts .standard] rfl calendar calendar' hasked hasked'
  exact ⟨⟨hswedish, henglish,
    (hcalendars "SE" "SE" "sv" "en" region .standard calendar calendar' hswedish henglish).1⟩,
    hasked, hasked', hoff goodFriday⟩

end Almanac.Directory
