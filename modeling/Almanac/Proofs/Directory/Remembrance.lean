import Almanac.Proofs.Cache.Recency
import Almanac.Proofs.Directory.Transparency

/-!
# What a directory remembers

What a directory remembers can be told from what it was asked. The calendars are those of the
locales that were asked about and that have one. The lists of holidays are those that were needed
last: a question about a date needs the list of its locale and year unless the date is off by its
weekday, and no other question needs any list.

`Remembers` says so of a directory and its past. A new directory has no past, and every question
adds itself to it.
-/

namespace Almanac

/-! ## Caches that are asked for one value -/

/-- Asking for a value is a use of its key, and as good as storing the value if nothing else can
stand under the key. -/
theorem Cache.mirrors_getOrInsertWith {κ ν : Type} [DecidableEq κ] {cache : Cache κ ν}
    {past : List (Event κ ν)} (h : cache.Mirrors past) {key : κ} {value : ν}
    (honly : ∀ found, cache.peek? key = some found → found = value) :
    (cache.getOrInsertWith key fun cache => (value, cache)).2.Mirrors
      (.stored key value :: past) := by
  unfold getOrInsertWith
  cases hv : cache.peek? key with
  | none =>
      rw [get_of_missing hv]
      exact mirrors_put h key value
  | some found =>
      rw [get_of_found hv, honly found hv]
      exact mirrors_use h rfl (if_pos rfl) ((peek?_isSome_iff cache key).1 (by simp [hv]))

theorem Cache.capacity_getOrInsertWith {κ ν : Type} [DecidableEq κ] (cache : Cache κ ν) (key : κ)
    (value : ν) :
    (cache.getOrInsertWith key fun cache => (value, cache)).2.capacity = cache.capacity := by
  have hstep := getOrInsertWith_eq_step cache key value []
  simp only [run] at hstep
  rw [hstep]
  exact capacity_step cache _

/-! ## The last of a kind -/

section Last

variable {α κ : Type} [DecidableEq κ] {f : α → Option κ} {key : κ}

theorem exists_last {l : List α} (h : key ∈ l.filterMap f) :
    ∃ before a after, l = before ++ a :: after ∧ f a = some key ∧
      ∀ later ∈ after, f later ≠ some key := by
  induction l with
  | nil => cases h
  | cons first rest ih =>
      by_cases hrest : key ∈ rest.filterMap f
      · obtain ⟨before, a, after, rfl, ha, hafter⟩ := ih hrest
        exact ⟨first :: before, a, after, rfl, ha, hafter⟩
      · have hnone : ∀ later ∈ rest, f later ≠ some key := fun later hlater hkey =>
          hrest (List.mem_filterMap.2 ⟨later, hlater, hkey⟩)
        obtain ⟨a, ha, hkey⟩ := List.mem_filterMap.1 h
        rcases List.mem_cons.1 ha with rfl | hmem
        · exact ⟨[], a, rest, rfl, hkey, hnone⟩
        · exact absurd hkey (hnone a hmem)

/-- What stands in front of the key, seen from the end, is what came after its last use. -/
theorem takeWhile_reverse {before after : List α} {a : α} (ha : f a = some key)
    (hafter : ∀ later ∈ after, f later ≠ some key) :
    ((before ++ a :: after).reverse.filterMap f).takeWhile (· ≠ key) =
      (after.filterMap f).reverse := by
  have hfront : ∀ k ∈ (after.filterMap f).reverse, decide (k ≠ key) = true := by
    intro k hk
    rw [List.mem_reverse] at hk
    obtain ⟨later, hlater, hkey⟩ := List.mem_filterMap.1 hk
    rw [decide_eq_true_eq]
    rintro rfl
    exact hafter later hlater hkey
  rw [List.reverse_append, List.reverse_cons, List.append_assoc, List.filterMap_append,
    List.filterMap_reverse, List.takeWhile_append_of_pos hfront, List.singleton_append,
    List.filterMap_cons_some ha, List.takeWhile_cons_of_neg (by simp), List.append_nil]

theorem mem_and_card_lt_iff (l : List α) (n : Nat) :
    (key ∈ l.reverse.filterMap f ∧
        ((l.reverse.filterMap f).takeWhile (· ≠ key)).toFinset.card < n) ↔
      ∃ before a after, l = before ++ a :: after ∧ f a = some key ∧
        (∀ later ∈ after, f later ≠ some key) ∧ (after.filterMap f).toFinset.card < n := by
  have hmem : key ∈ l.reverse.filterMap f ↔ key ∈ l.filterMap f := by
    rw [List.filterMap_reverse, List.mem_reverse]
  rw [hmem]
  refine ⟨?_, ?_⟩
  · intro h
    obtain ⟨hkey, hcard⟩ := h
    obtain ⟨before, a, after, rfl, ha, hafter⟩ := exists_last hkey
    rw [takeWhile_reverse ha hafter, List.toFinset_reverse] at hcard
    exact ⟨before, a, after, rfl, ha, hafter, hcard⟩
  · intro h
    obtain ⟨before, a, after, rfl, ha, hafter, hcard⟩ := h
    refine ⟨List.mem_filterMap.2 ⟨a, by simp, ha⟩, ?_⟩
    rw [takeWhile_reverse ha hafter, List.toFinset_reverse]
    exact hcard

end Last

namespace Directory

/-! ## Questions -/

/-- The request asks something and changes nothing on purpose. -/
def Request.isQuestion : Request → Bool
  | .withFeasts _ => false
  | .years (.get _ _) => false
  | .years .clear => false
  | _ => true

/-- The locale that is asked about. -/
def Request.locale? : Request → Option Locale
  | .calendar locale => some locale
  | .days locale _ => some locale
  | .isHoliday _ locale => some locale
  | _ => none

/-- Locale and year of the holidays that are needed for the answer. -/
def Request.needed? (build : Locale → Except CalendarError Calendar) :
    Request → Option (Locale × Int)
  | .isHoliday date locale =>
    match build locale with
    | .ok found => if found.isDayOff date then none else some (locale, date.year)
    | .error _ => none
  | _ => none

/-- The answer is an error. -/
def Reply.Fails : Reply → Prop
  | .calendar outcome => ∃ error, outcome = .error error
  | .days outcome => ∃ error, outcome = .error error
  | .isHoliday outcome => ∃ error, outcome = .error error
  | _ => False

/-- The holidays of a locale in a year; none if the locale has no calendar. -/
def holidaysOf (build : Locale → Except CalendarError Calendar) (key : Locale × Int) : List Day :=
  match build key.1 with
  | .ok calendar => calendar.holidays key.2
  | .error _ => []

/-! ## What one question does -/

variable {directory : Directory}

/-- Only the calendar of its locale can be new to the remembered calendars. -/
theorem step_volumes {request : Request} (h : request.isQuestion = true) :
    (directory.step request).2.volumes =
      match request.locale? with
      | some locale => (directory.volume locale).2.volumes
      | none => directory.volumes := by
  cases request with
  | calendar locale => rfl
  | days locale year => rfl
  | isHoliday date locale =>
      show (directory.isHoliday date locale).2.volumes = (directory.calendar locale).2.volumes
      unfold isHoliday
      split
      · next error after hc => rw [hc]
      · next calendar after hc =>
        rw [hc]
        split
        · rfl
        · rfl
  | withFeasts registry => cases h
  | years look => rfl

/-- Only the list that is needed is used. -/
theorem step_years (hfaithful : directory.Faithful) {request : Request}
    (h : request.isQuestion = true) :
    (directory.step request).2.years =
      match request.needed? directory.build with
      | some key =>
        (directory.years.getOrInsertWith key fun years =>
          (holidaysOf directory.build key, years)).2
      | none => directory.years := by
  -- getting a calendar reads and writes no list
  have hcalendar : ∀ locale, (directory.calendar locale).2.years = directory.years := by
    intro locale
    obtain ⟨volumes, built, hframe⟩ := calendar_frame directory locale
    rw [hframe]
  cases request with
  | calendar locale => exact hcalendar locale
  | days locale year => exact hcalendar locale
  | isHoliday date locale =>
      -- the calendar that answers is the one that is built anew, so it says the same about the day
      -- off
      have heq := calendar_eq hfaithful locale
      have hyears := hcalendar locale
      show (directory.isHoliday date locale).2.years = _
      unfold isHoliday Request.needed?
      dsimp only
      split
      · next error after hc =>
        rw [hc] at heq hyears
        rw [← heq]
        exact hyears
      · next calendar after hc =>
        rw [hc] at heq hyears
        rw [← heq]
        dsimp only at heq hyears ⊢
        split
        · -- a day off needs no list
          exact hyears
        · unfold holidaysOf
          dsimp only
          rw [← heq, hyears]
  | withFeasts registry => cases h
  | years look =>
      -- what is left to ask of the lists only looks at them
      cases look with
      | get locale year => cases h
      | clear => cases h
      | contains locale year => rfl
      | size => rfl
      | isEmpty => rfl
      | capacity => rfl

theorem volume_of_error {locale : Locale} {error : CalendarError}
    (h : (directory.volume locale).1 = .error error) : (directory.volume locale).2 = directory := by
  unfold volume at h ⊢
  cases hget : Assoc.get? locale directory.volumes with
  | some volume => rfl
  | none =>
      rw [hget] at h
      dsimp only at h
      cases hbuild : Calendar.ofConfiguration directory.configuration locale directory.registry with
      | error found => rfl
      | ok calendar =>
          rw [hbuild] at h
          cases h

theorem map_eq_error_iff {α β ε : Type} {f : α → β} {outcome : Except ε α} {error : ε} :
    outcome.map f = .error error ↔ outcome = .error error := by
  cases outcome <;> simp [Except.map]

theorem calendar_of_error {locale : Locale} {error : CalendarError}
    (h : (directory.calendar locale).1 = .error error) :
    (directory.calendar locale).2 = directory :=
  volume_of_error (map_eq_error_iff.1 h)

theorem fails_isHoliday {date : Date} {locale : Locale} {error : CalendarError}
    (h : (directory.isHoliday date locale).1 = .error error) :
    (directory.step (.isHoliday date locale)).1.Fails :=
  ⟨error, h⟩

/-- **A question that fails leaves the directory as it is.** -/
theorem step_of_fails {request : Request} (h : (directory.step request).1.Fails) :
    (directory.step request).2 = directory := by
  cases request with
  | calendar locale =>
      obtain ⟨error, h⟩ := h
      exact calendar_of_error h
  | days locale year =>
      obtain ⟨error, h⟩ := h
      have hcalendar : (directory.calendar locale).1 = .error error := map_eq_error_iff.1 h
      exact calendar_of_error hcalendar
  | isHoliday date locale =>
      obtain ⟨error, h⟩ := h
      replace h : (directory.isHoliday date locale).1 = .error error := h
      show (directory.isHoliday date locale).2 = directory
      unfold isHoliday at h ⊢
      cases hc : directory.calendar locale with
      | mk outcome after =>
          rw [hc] at h
          cases outcome with
          | error found =>
              have hsame : (directory.calendar locale).2 = directory :=
                calendar_of_error (by rw [hc])
              rw [hc] at hsame
              exact hsame
          | ok calendar =>
              -- once there is a calendar there is an answer
              dsimp only at h
              split at h
              · cases h
              · cases h
  | withFeasts registry => exact absurd h id
  | years look => exact absurd h id

/-! ## The past of a directory -/

variable {build : Locale → Except CalendarError Calendar}

/-- The calendars that are remembered are those of the locales asked about that have one. -/
structure Knows (build : Locale → Except CalendarError Calendar) (volumes : List (Locale × Volume))
    (asked : List Locale) : Prop where
  nodup : (Assoc.keys volumes).Nodup
  locales : ∀ locale, locale ∈ Assoc.keys volumes ↔
    locale ∈ asked ∧ ∃ calendar, build locale = .ok calendar

/-- A locale that adds no calendar had one already or has none. -/
theorem Knows.again {volumes : List (Locale × Volume)} {asked : List Locale}
    (h : Knows build volumes asked) {locale : Locale}
    (hknown : ∀ calendar, build locale = .ok calendar → locale ∈ Assoc.keys volumes) :
    Knows build volumes (locale :: asked) := by
  refine ⟨h.nodup, ?_⟩
  intro other
  refine ⟨?_, ?_⟩
  · intro hmem
    obtain ⟨hasked, hbuild⟩ := (h.locales other).1 hmem
    exact ⟨List.mem_cons_of_mem locale hasked, hbuild⟩
  · intro hother
    obtain ⟨hasked, calendar, hbuild⟩ := hother
    rcases List.mem_cons.1 hasked with rfl | hbefore
    · exact hknown calendar hbuild
    · exact (h.locales other).2 ⟨hbefore, calendar, hbuild⟩

theorem knows_volume {asked : List Locale} (h : Knows directory.build directory.volumes asked)
    (locale : Locale) :
    Knows directory.build (directory.volume locale).2.volumes (locale :: asked) := by
  unfold volume
  split
  · next volume hget =>
    -- it was remembered before
    refine h.again fun _ _ => ?_
    rw [← Assoc.get?_isSome_iff, hget]
    rfl
  · split
    · next error hbuild =>
      -- no calendar is built, so none is remembered
      refine h.again fun calendar hbuilt => ?_
      rw [show directory.build locale = .error error from hbuild] at hbuilt
      cases hbuilt
    · next calendar hbuild =>
      -- the new calendar is remembered beside the others
      refine ⟨Assoc.nodup_keys_insert locale _ h.nodup, ?_⟩
      intro other
      rw [Assoc.mem_keys_insert, h.locales, List.mem_cons]
      constructor
      · rintro (rfl | hother)
        · exact ⟨Or.inl rfl, calendar, hbuild⟩
        · exact ⟨Or.inr hother.1, hother.2⟩
      · rintro ⟨rfl | hasked, hbuilt⟩
        · exact Or.inl rfl
        · exact Or.inr ⟨hasked, hbuilt⟩

/-- What the cache of years saw when lists were needed, the latest first. -/
def uses (build : Locale → Except CalendarError Calendar) (needed : List (Locale × Int)) :
    List (Cache.Event (Locale × Int) (List Day)) :=
  needed.map fun key => .stored key (holidaysOf build key)

theorem usedKeys_uses (needed : List (Locale × Int)) :
    Cache.usedKeys (uses build needed) = needed := by
  unfold Cache.usedKeys uses
  rw [List.filterMap_map]
  exact List.filterMap_some

theorem sinceClearing_uses (needed : List (Locale × Int)) :
    Cache.sinceClearing (uses build needed) = uses build needed := by
  unfold Cache.sinceClearing uses
  induction needed with
  | nil => rfl
  | cons key rest ih => exact congrArg _ ih

/-- What the directory remembers is told by its past, the latest request first. -/
structure Remembers (build : Locale → Except CalendarError Calendar) (capacity : Nat)
    (directory : Directory) (past : List Request) : Prop where
  faithful : directory.Faithful
  builds : directory.build = build
  volumes : Knows build directory.volumes (past.filterMap Request.locale?)
  years : directory.years.Mirrors (uses build (past.filterMap (Request.needed? build)))
  capacity : directory.years.capacity = max capacity 1

theorem remembers_start (configuration : Configuration) (capacity : Nat) (registry : Registry) :
    Remembers (fun locale => Calendar.ofConfiguration configuration locale registry) capacity
      (start configuration capacity registry) [] :=
  ⟨faithful_start configuration capacity registry, rfl,
    ⟨List.nodup_nil, by simp [start, withFeasts]⟩,
    Cache.mirrors_empty capacity, rfl⟩

theorem build_step {request : Request} (h : request.isQuestion = true) :
    (directory.step request).2.build = directory.build := by
  obtain ⟨hconfiguration, hregistry⟩ := step_frame directory request
  have hfeasts : request.feasts directory.registry = directory.registry := by
    cases request with
    | withFeasts registry => cases h
    | calendar | days | isHoliday | years => rfl
  unfold Directory.build
  rw [hconfiguration, hregistry, hfeasts]

/-- **Every question adds itself to the past.** -/
theorem remembers_step {capacity : Nat} {past : List Request}
    (h : Remembers build capacity directory past) {request : Request}
    (hquestion : request.isQuestion = true) :
    Remembers build capacity (directory.step request).2 (request :: past) := by
  have hbuilds : (directory.step request).2.build = build :=
    (build_step hquestion).trans h.builds
  have hvolumes : (directory.step request).2.volumes = _ := step_volumes hquestion
  have hyears := step_years h.faithful hquestion
  rw [h.builds] at hyears
  refine ⟨faithful_step h.faithful request, hbuilds, ?_, ?_, ?_⟩
  · rw [hvolumes]
    cases hlocale : request.locale? with
    | none =>
        rw [List.filterMap_cons_none hlocale]
        exact h.volumes
    | some locale =>
        rw [List.filterMap_cons_some hlocale, ← h.builds]
        exact knows_volume (by rw [h.builds]; exact h.volumes) locale
  · rw [hyears]
    cases hneeded : request.needed? build with
    | none =>
        rw [List.filterMap_cons_none hneeded]
        exact h.years
    | some key =>
        rw [List.filterMap_cons_some hneeded]
        refine Cache.mirrors_getOrInsertWith h.years ?_
        -- whatever is remembered for this locale and year is the list that is needed
        intro found hfound
        obtain ⟨calendar, hbuild, hvalue⟩ := h.faithful.years.peek? hfound
        rw [h.builds] at hbuild
        unfold holidaysOf
        rw [hbuild, hvalue]
  · rw [hyears]
    cases hneeded : request.needed? build with
    | none => exact h.capacity
    | some key => rw [← h.capacity]; exact Cache.capacity_getOrInsertWith _ _ _

theorem remembers_run {capacity : Nat} {past : List Request}
    (h : Remembers build capacity directory past) {requests : List Request}
    (hquestions : ∀ request ∈ requests, request.isQuestion = true) :
    Remembers build capacity (directory.run requests).2 (requests.reverse ++ past) := by
  induction requests generalizing directory past with
  | nil => exact h
  | cons request rest ih =>
      rw [List.forall_mem_cons] at hquestions
      rw [run_cons, List.reverse_cons, List.append_assoc]
      exact ih (remembers_step h hquestions.1) hquestions.2

/-! ## What the past says -/

theorem Remembers.calendarCount_eq {capacity : Nat} {past : List Request}
    (h : Remembers build capacity directory past) :
    directory.calendarCount =
      ((past.filterMap Request.locale?).filter fun locale =>
        (build locale).isOk).toFinset.card := by
  have hlength : directory.calendarCount = (Assoc.keys directory.volumes).length := by
    simp [calendarCount, Assoc.keys]
  rw [hlength, ← List.toFinset_card_of_nodup h.volumes.nodup]
  congr 1
  ext locale
  rw [List.mem_toFinset, List.mem_toFinset, h.volumes.locales, List.mem_filter]
  cases build locale <;> simp [Except.isOk, Except.toBool]

theorem Remembers.contains_iff {capacity : Nat} {past : List Request}
    (h : Remembers build capacity directory past) (key : Locale × Int) :
    directory.years.contains key = true ↔
      key ∈ past.filterMap (Request.needed? build) ∧
        ((past.filterMap (Request.needed? build)).takeWhile (· ≠ key)).toFinset.card <
          max capacity 1 := by
  unfold Cache.contains
  rw [Cache.peek?_isSome_iff, h.years.order, h.capacity]
  unfold Cache.recentKeys
  rw [sinceClearing_uses, usedKeys_uses, Cache.mem_take_eraseDups]

/--
**What a directory remembers is told by what it was asked.**

However a new directory is asked about locales, dates and years, it remembers one calendar for every
locale that it was asked about and that has one. A list of holidays is remembered exactly if a
question about a date has needed it and fewer lists than there is room for were needed after the
last such question, and it is the list of its calendar. So at any time a question that needs no list
leaves the lists and their order as they are, and a question that fails leaves everything as it is.
-/
theorem remembered_of_run (configuration : Configuration) (capacity : Nat) (registry : Registry)
    {requests : List Request} (hquestions : ∀ request ∈ requests, request.isQuestion = true) :
    let build := fun locale => Calendar.ofConfiguration configuration locale registry
    let directory := ((start configuration capacity registry).run requests).2
    directory.calendarCount =
      ((requests.filterMap Request.locale?).filter fun locale =>
        (build locale).isOk).toFinset.card ∧
    (∀ locale year, directory.years.contains (locale, year) = true ↔
      ∃ before request after, requests = before ++ request :: after ∧
        request.needed? build = some (locale, year) ∧
        (∀ later ∈ after, later.needed? build ≠ some (locale, year)) ∧
        (after.filterMap (Request.needed? build)).toFinset.card < max capacity 1) ∧
    (∀ locale year holidays, directory.years.peek? (locale, year) = some holidays →
      ∃ calendar, build locale = .ok calendar ∧ holidays = calendar.holidays year) ∧
    (∀ request, request.isQuestion = true → request.needed? build = none →
      (directory.step request).2.years = directory.years) ∧
    ∀ request, (directory.step request).1.Fails → (directory.step request).2 = directory := by
  intro build directory
  -- the invariant, with the latest request first
  have hremembers : Remembers build capacity directory requests.reverse := by
    have h := remembers_run (remembers_start configuration capacity registry) hquestions
    rwa [List.append_nil] at h
  refine ⟨?_, ?_, ?_, ?_, fun request => step_of_fails⟩
  · -- counting does not mind the order of the requests
    rw [hremembers.calendarCount_eq, List.filterMap_reverse, List.filter_reverse,
      List.toFinset_reverse]
  · intro locale year
    rw [hremembers.contains_iff, mem_and_card_lt_iff]
  · intro locale year holidays hholidays
    obtain ⟨calendar, hbuild, hvalue⟩ := hremembers.faithful.years.peek? hholidays
    rw [hremembers.builds] at hbuild
    exact ⟨calendar, hbuild, hvalue⟩
  · intro request hquestion hneeded
    have hyears := step_years hremembers.faithful hquestion
    rw [hremembers.builds, hneeded] at hyears
    exact hyears

/-- With room for one list, the Tuesday of 2019 has driven out the Monday of 2018. The Sunday needed
no list, and Norway has no calendar. -/
theorem remembered_of_run_sweden :
    let configuration : Configuration := ⟨[("SE", ⟨[], "sunday", ["sv"],
      [("01-01", .object [("_name", .text "Nyårsdagen")])]⟩)], 20⟩
    let sweden : Locale := ⟨"sv", "SE"⟩
    let norway : Locale := ⟨"nb", "NO"⟩
    let monday : Date := ⟨737060, by decide, by decide⟩
    let sunday : Date := ⟨737066, by decide, by decide⟩
    let tuesday : Date := ⟨737425, by decide, by decide⟩
    let requests : List Request := [.isHoliday monday sweden, .days sweden 2020, .calendar norway,
      .isHoliday tuesday sweden, .isHoliday sunday sweden, .years .size]
    let directory := ((start configuration 1 .standard).run requests).2
    (∀ request ∈ requests, request.isQuestion = true) ∧ directory.calendarCount = 1 ∧
      directory.years.contains (sweden, 2018) = false ∧
      directory.years.contains (sweden, 2019) = true ∧
      (directory.step (.isHoliday sunday sweden)).2.years = directory.years ∧
      (directory.step (.isHoliday monday norway)).2 = directory := by
  intro configuration sweden norway monday sunday tuesday requests directory
  have hquestions : ∀ request ∈ requests, request.isQuestion = true := by
    simp [requests, Request.isQuestion]
  obtain ⟨hcount, hcontains, -, hyears, hfails⟩ :=
    remembered_of_run configuration 1 .standard hquestions
  have hnorway : (directory.isHoliday monday norway).1 =
      .error (.configuration (.regionNotFound "NO")) := by decide +kernel
  refine ⟨hquestions, ?_, ?_, ?_, ?_, ?_⟩
  · rw [hcount]
    decide +kernel
  · decide +kernel
  · -- the fourth request has needed the list, and none did after it
    exact (hcontains sweden 2019).2 ⟨requests.take 3, .isHoliday tuesday sweden,
      [.isHoliday sunday sweden, .years .size], rfl, by decide +kernel, by decide +kernel,
      by decide +kernel⟩
  · have hoff : Request.needed?
        (fun locale => Calendar.ofConfiguration configuration locale .standard)
        (.isHoliday sunday sweden) = none := by decide +kernel
    have h := hyears (.isHoliday sunday sweden) rfl hoff
    simpa only [directory] using h
  · simp only [directory] at hnorway ⊢
    generalize ((start configuration 1 Registry.standard).run requests).2 = asked
      at hfails hnorway ⊢
    exact hfails (.isHoliday monday norway) (fails_isHoliday hnorway)

end Directory

end Almanac
