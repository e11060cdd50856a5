import Almanac.Proofs.Cache.Contents
import Almanac.Proofs.Calendar.Holidays
import Almanac.Proofs.Directory.Requests

/-!
# Remembering changes no answer

A directory is `Faithful` if every calendar that it remembers is the one that would be built now,
and every list of holidays is that of such a calendar. A new directory is faithful, every request
keeps it so, and a faithful directory answers as if it remembered nothing. So how much it remembers,
and what it was asked before, cannot be told from its answers.
-/

namespace Almanac.Directory

/-- The calendar that is built for a locale now. -/
abbrev build (directory : Directory) (locale : Locale) : Except CalendarError Calendar :=
  Calendar.ofConfiguration directory.configuration locale directory.registry

/-- Everything that the directory remembers is what it would find out now. -/
structure Faithful (directory : Directory) : Prop where
  volumes : ∀ locale volume, Assoc.get? locale directory.volumes = some volume →
    directory.build locale = .ok volume.calendar
  years : directory.years.Holds fun key holidays =>
    ∃ calendar, directory.build key.1 = .ok calendar ∧ holidays = calendar.holidays key.2

theorem faithful_withFeasts (directory : Directory) (registry : Registry) :
    (directory.withFeasts registry).Faithful :=
  ⟨fun _ _ h => by simp [withFeasts, Assoc.get?] at h, Cache.holds_clear _⟩

/-! ## Calendars -/

/-- Looking for a calendar touches nothing but the remembered calendars. -/
theorem volume_frame (directory : Directory) (locale : Locale) :
    ∃ volumes built,
      (directory.volume locale).2 = { directory with volumes := volumes, built := built } := by
  unfold volume
  split
  · exact ⟨_, _, rfl⟩
  · split
    · exact ⟨_, _, rfl⟩
    · exact ⟨_, _, rfl⟩

/-- A faithful directory finds the calendar that would be built. -/
theorem volume_eq {directory : Directory} (h : directory.Faithful) (locale : Locale) :
    (directory.volume locale).1.map Volume.calendar = directory.build locale := by
  unfold volume
  split
  · next volume hv => exact (h.volumes locale volume hv).symm
  · split
    · next error he => exact he.symm
    · next calendar hc => exact hc.symm

theorem faithful_volume {directory : Directory} (h : directory.Faithful) (locale : Locale) :
    (directory.volume locale).2.Faithful := by
  unfold volume
  split
  · exact h
  · split
    · exact h
    · next calendar hc =>
      refine ⟨fun other volume hv => ?_, h.years⟩
      dsimp only at hv
      rw [Assoc.get?_insert] at hv
      split at hv
      · next heq => subst heq; rw [← Option.some.inj hv]; exact hc
      · exact h.volumes other volume hv

theorem calendar_eq {directory : Directory} (h : directory.Faithful) (locale : Locale) :
    (directory.calendar locale).1 = directory.build locale := volume_eq h locale

theorem faithful_calendar {directory : Directory} (h : directory.Faithful) (locale : Locale) :
    (directory.calendar locale).2.Faithful := faithful_volume h locale

/-- Looking for a calendar keeps configuration, feasts and years. -/
theorem calendar_frame (directory : Directory) (locale : Locale) :
    ∃ volumes built,
      (directory.calendar locale).2 = { directory with volumes := volumes, built := built } :=
  volume_frame directory locale

/-! ## Dates -/

/-- The holidays that a date is looked up in are those of the calendar's year, remembered or not. -/
theorem holidays_eq {directory : Directory} (h : directory.Faithful) {locale : Locale}
    {calendar : Calendar} (hc : directory.build locale = .ok calendar) (year : Int) :
    let asked := directory.years.getOrInsertWith (locale, year) fun years =>
      (calendar.holidays year, years)
    asked.1 = calendar.holidays year ∧ { directory with years := asked.2 }.Faithful := by
  intro asked
  obtain ⟨⟨built, hbuilt, hvalue⟩, hyears⟩ := Cache.holds_getOrInsertWith h.years (locale, year)
    (fun years => (calendar.holidays year, years)) fun years hold => ⟨⟨calendar, hc, rfl⟩, hold⟩
  -- whatever was remembered came from a calendar, and only one can be built
  have hsame : built = calendar := Except.ok.inj (hbuilt.symm.trans hc)
  exact ⟨hsame ▸ hvalue, h.volumes, hyears⟩

/-- Asking for a date keeps configuration and feasts. -/
theorem isHoliday_frame (directory : Directory) (date : Date) (locale : Locale) :
    ∃ volumes built years, (directory.isHoliday date locale).2 =
      { directory with volumes := volumes, built := built, years := years } := by
  obtain ⟨volumes, built, hframe⟩ := calendar_frame directory locale
  unfold isHoliday
  split
  · next error after hc =>
    rw [hc] at hframe
    exact ⟨volumes, built, directory.years, hframe⟩
  · next calendar after hc =>
    rw [hc] at hframe
    dsimp only at hframe ⊢
    split
    · exact ⟨volumes, built, directory.years, hframe⟩
    · exact ⟨volumes, built, _, by rw [hframe]⟩

theorem isHoliday_spec {directory : Directory} (h : directory.Faithful) (date : Date)
    (locale : Locale) :
    (directory.isHoliday date locale).1 = (directory.build locale).map (·.isHoliday date) ∧
      (directory.isHoliday date locale).2.Faithful := by
  have heq := calendar_eq h locale
  have hfaithful := faithful_calendar h locale
  obtain ⟨volumes, built, hframe⟩ := calendar_frame directory locale
  unfold isHoliday
  split
  · next error after hc =>
    rw [hc] at heq hfaithful
    exact ⟨by rw [← heq]; rfl, hfaithful⟩
  · next calendar after hc =>
    rw [hc] at heq hfaithful hframe
    dsimp only at heq hfaithful hframe
    -- configuration and feasts are untouched, so the calendar is still the one to build
    have hbuild : after.build locale = .ok calendar := by rw [hframe]; exact heq.symm
    rw [← heq]
    split
    · next hoff => exact ⟨by simp [Except.map, Calendar.isHoliday, hoff], hfaithful⟩
    · next hoff =>
      obtain ⟨hvalue, hyears⟩ := holidays_eq hfaithful hbuild date.year
      refine ⟨?_, hyears⟩
      dsimp only
      rw [hvalue]
      simp [Except.map, Calendar.isHoliday_eq, hoff]

/-! ## Runs -/

/-- No request changes the configuration, and only new feasts change the feasts. -/
theorem step_frame (directory : Directory) (request : Request) :
    (directory.step request).2.configuration = directory.configuration ∧
      (directory.step request).2.registry = request.feasts directory.registry := by
  -- a question touches nothing but the two caches
  cases request with
  | calendar locale =>
      obtain ⟨volumes, built, hframe⟩ := calendar_frame directory locale
      show (directory.calendar locale).2.configuration = _ ∧
        (directory.calendar locale).2.registry = directory.registry
      rw [hframe]
      exact ⟨rfl, rfl⟩
  | days locale year =>
      obtain ⟨volumes, built, hframe⟩ := calendar_frame directory locale
      show (directory.calendar locale).2.configuration = _ ∧
        (directory.calendar locale).2.registry = directory.registry
      rw [hframe]
      exact ⟨rfl, rfl⟩
  | isHoliday date locale =>
      obtain ⟨volumes, built, years, hframe⟩ := isHoliday_frame directory date locale
      show (directory.isHoliday date locale).2.configuration = _ ∧
        (directory.isHoliday date locale).2.registry = directory.registry
      rw [hframe]
      exact ⟨rfl, rfl⟩
  | withFeasts registry => exact ⟨rfl, rfl⟩
  | years look => exact ⟨rfl, rfl⟩

/-- **Every request keeps a directory faithful.** -/
theorem faithful_step {directory : Directory} (h : directory.Faithful) (request : Request) :
    (directory.step request).2.Faithful := by
  cases request with
  | calendar locale => exact faithful_calendar h locale
  | days locale year => exact faithful_calendar h locale
  | isHoliday date locale => exact (isHoliday_spec h date locale).2
  | withFeasts registry => exact faithful_withFeasts directory registry
  | years look =>
      refine ⟨h.volumes, ?_⟩
      cases look with
      | get locale year => exact Cache.holds_get h.years (locale, year)
      | contains => exact h.years
      | size => exact h.years
      | isEmpty => exact h.years
      | capacity => exact h.years
      | clear => exact Cache.holds_clear directory.years

/-- **A faithful directory answers as if it remembered nothing.** -/
theorem reply_eq_uncached {directory : Directory} (h : directory.Faithful) (request : Request) :
    (directory.step request).1.aboutCalendars =
      request.uncached directory.configuration directory.registry := by
  cases request with
  | calendar locale =>
      have heq := calendar_eq h locale
      exact congrArg (fun outcome => some (Reply.calendar outcome)) heq
  | days locale year =>
      have heq := calendar_eq h locale
      exact congrArg (fun outcome => some (Reply.days (outcome.map (·.days year)))) heq
  | isHoliday date locale =>
      have heq := (isHoliday_spec h date locale).1
      exact congrArg (fun outcome => some (Reply.isHoliday outcome)) heq
  | withFeasts registry => rfl
  | years look => rfl

theorem run_cons (directory : Directory) (request : Request) (rest : List Request) :
    directory.run (request :: rest) =
      ((directory.step request).1 :: ((directory.step request).2.run rest).1,
        ((directory.step request).2.run rest).2) := rfl

/-- What a run leaves behind is faithful, and has the feasts that were installed last. -/
theorem run_faithful {directory : Directory} (h : directory.Faithful) (requests : List Request) :
    (directory.run requests).2.Faithful ∧
      (directory.run requests).2.configuration = directory.configuration ∧
      (directory.run requests).2.registry = lastFeasts directory.registry requests := by
  induction requests generalizing directory with
  | nil => exact ⟨h, rfl, rfl⟩
  | cons request rest ih =>
      obtain ⟨hconfiguration, hregistry⟩ := step_frame directory request
      obtain ⟨hfaithful, hc, hr⟩ := ih (faithful_step h request)
      rw [run_cons]
      refine ⟨hfaithful, hc.trans hconfiguration, ?_⟩
      rw [hr, hregistry]
      rfl

theorem run_eq_uncachedReplies {directory : Directory} (h : directory.Faithful)
    (requests : List Request) :
    (directory.run requests).1.map Reply.aboutCalendars =
      uncachedReplies directory.configuration directory.registry requests := by
  induction requests generalizing directory with
  | nil => rfl
  | cons request rest ih =>
      obtain ⟨hconfiguration, hregistry⟩ := step_frame directory request
      have hrest := ih (faithful_step h request)
      rw [hconfiguration, hregistry] at hrest
      rw [run_cons, List.map_cons, hrest, reply_eq_uncached h]
      rfl

theorem faithful_start (configuration : Configuration) (capacity : Nat) (registry : Registry) :
    (start configuration capacity registry).Faithful := faithful_withFeasts _ registry

/-- Whatever was asked before, calendars are built with the feasts that were installed last. -/
theorem build_of_run (configuration : Configuration) (capacity : Nat) (first : Registry)
    (requests : List Request) (locale : Locale) :
    ((start configuration capacity first).run requests).2.Faithful ∧
      ((start configuration capacity first).run requests).2.build locale =
        Calendar.ofConfiguration configuration locale (lastFeasts first requests) := by
  obtain ⟨hfaithful, hconfiguration, hregistry⟩ :=
    run_faithful (faithful_start configuration capacity first) requests
  refine ⟨hfaithful, ?_⟩
  unfold build
  rw [hconfiguration, hregistry]
  rfl

/--
**What a directory remembers never shows in its answers.**

Whatever is asked of a new directory, and in whatever order, every answer about a calendar is the
one that would be given without remembering anything, with the feasts that were installed last. For
a date that is the calendar's own answer, which is the same whether the date is asked for or looked
up among the holidays of its year. So two directories of one configuration that have the same feasts
answer every request alike, however much they remember and whatever they were asked before.
-/
theorem run_transparent (configuration : Configuration) (capacity : Nat) (registry : Registry)
    (requests : List Request) :
    ((start configuration capacity registry).run requests).1.map Reply.aboutCalendars =
      uncachedReplies configuration registry requests ∧
    (∀ (calendar : Calendar) (date : Date), calendar.isHoliday date =
      (calendar.isDayOff date || (calendar.holidays date.year).any (·.date == date))) ∧
    ∀ (capacity' : Nat) (registry' : Registry) (requests' : List Request),
      lastFeasts registry' requests' = lastFeasts registry requests →
      ∀ more : List Request,
        (((start configuration capacity' registry').run requests').2.run more).1.map
            Reply.aboutCalendars =
          (((start configuration capacity registry).run requests).2.run more).1.map
            Reply.aboutCalendars := by
  have hstart := faithful_start configuration capacity registry
  refine ⟨run_eq_uncachedReplies hstart requests, Calendar.isHoliday_eq, ?_⟩
  intro capacity' registry' requests' hsame more
  obtain ⟨h, hc, hr⟩ := run_faithful hstart requests
  obtain ⟨h', hc', hr'⟩ := run_faithful (faithful_start configuration capacity' registry') requests'
  rw [run_eq_uncachedReplies h, run_eq_uncachedReplies h', hc, hc', hr, hr']
  show uncachedReplies configuration (lastFeasts registry' requests') more =
    uncachedReplies configuration (lastFeasts registry requests) more
  rw [hsame]

/-- A directory that remembers little, and was asked under other feasts before, answers like a new
one. -/
theorem run_transparent_sweden :
    let configuration : Configuration := ⟨[("SE", ⟨[], "sunday", ["sv"],
      [("easter -2", .object [("_name", .text "Långfredagen")])]⟩)], 20⟩
    let sweden : Locale := ⟨"sv", "SE"⟩
    let goodFriday : Date := ⟨736798, by decide, by decide⟩
    let before : List Request :=
      [.isHoliday goodFriday sweden, .withFeasts .standard, .isHoliday goodFriday sweden,
        .years .clear]
    let more : List Request := [.isHoliday goodFriday sweden, .calendar sweden]
    lastFeasts .empty before = lastFeasts .standard [] ∧
      (((start configuration 0 .empty).run before).2.run more).1.map Reply.aboutCalendars =
        (((start configuration 7 .standard).run []).2.run more).1.map Reply.aboutCalendars := by
  intro configuration sweden goodFriday before more
  have hsame : lastFeasts .empty before = lastFeasts .standard [] := rfl
  exact ⟨hsame, (run_transparent configuration 7 .standard []).2.2 0 .empty before hsame more⟩

end Almanac.Directory
