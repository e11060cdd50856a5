import Almanac.Feast.Registry
import Almanac.Proofs.Text.Lowercase

/-!
# A registry reflects its past

What a registry knows is told by what has been registered in it, from the first registration to the
last, and by nothing else. Two spellings are the same name if their lower cases are the same text,
and of all registrations under a name the last one counts. `Reflects` says so. The registries that
there are to begin with have it, one more registration keeps it, and so does a run of any length.
-/

namespace Almanac

namespace Registry

/-- A feast that is put under a name. -/
structure Registration where
  name : String
  feast : Feast

/-- Puts one feast after the other under its name. The answers are what each one replaces. -/
def registerAll (registry : Registry) : List Registration → List (Option Feast) × Registry
  | [] => ([], registry)
  | first :: rest =>
    let (old, registry) := registry.register first.name first.feast
    let (answers, registry) := registry.registerAll rest
    (old :: answers, registry)

/-- The registries that there are to begin with, and what has been registered in them. -/
inductive Initial : Registry → List Registration → Prop
  | empty : Initial .empty []
  | standard : Initial .standard [⟨"easter", easterSunday⟩]

/-- The feast that was last put under some spelling of `name`. -/
def lastFeast? (name : String) (past : List Registration) : Option Feast :=
  (past.reverse.find? fun registration =>
    Text.lowercase registration.name = Text.lowercase name).map Registration.feast

/-- What the registry knows is what has been registered. -/
structure Reflects (registry : Registry) (past : List Registration) : Prop where
  feasts : ∀ name, registry.get? name = lastFeast? name past
  nodup : registry.names.Nodup
  names : ∀ name, name ∈ registry.names ↔
    ∃ registration ∈ past, Text.lowercase registration.name = name

variable {registry : Registry} {past : List Registration} {name : String} {feast : Feast}

/-! ## The last of many registrations -/

theorem lastFeast?_append (name : String) (past : List Registration)
    (registration : Registration) :
    lastFeast? name (past ++ [registration]) =
      if Text.lowercase registration.name = Text.lowercase name then some registration.feast
      else lastFeast? name past := by
  unfold lastFeast?
  rw [List.reverse_append, List.reverse_singleton, List.singleton_append, List.find?_cons]
  by_cases hname : Text.lowercase registration.name = Text.lowercase name
  · simp [hname]
  · simp [hname]

theorem lastFeast?_eq_some_iff :
    lastFeast? name past = some feast ↔
      ∃ before spelled after, past = before ++ ⟨spelled, feast⟩ :: after ∧
        Text.lowercase spelled = Text.lowercase name ∧
        ∀ later ∈ after, Text.lowercase later.name ≠ Text.lowercase name := by
  unfold lastFeast?
  rw [Option.map_eq_some_iff]
  refine ⟨?_, ?_⟩
  · rintro ⟨⟨spelled, last⟩, hfind, rfl⟩
    obtain ⟨hname, after, before, hpast, hafter⟩ := List.find?_eq_some_iff_append.1 hfind
    refine ⟨before.reverse, spelled, after.reverse, ?_, by simpa using hname, ?_⟩
    · rw [← List.reverse_reverse past, hpast]
      simp
    · intro later hlater
      simpa using hafter later (List.mem_reverse.1 hlater)
  · rintro ⟨before, spelled, after, rfl, hname, hafter⟩
    refine ⟨⟨spelled, feast⟩, List.find?_eq_some_iff_append.2 ⟨by simpa using hname, ?_⟩, rfl⟩
    refine ⟨after.reverse, before.reverse, by simp, ?_⟩
    intro later hlater
    simpa using hafter later (List.mem_reverse.1 hlater)

theorem lastFeast?_eq_none_iff :
    lastFeast? name past = none ↔
      ∀ registration ∈ past, Text.lowercase registration.name ≠ Text.lowercase name := by
  simp [lastFeast?]

/-! ## One registration -/

theorem register_fst (registry : Registry) (name : String) (feast : Feast) :
    (registry.register name feast).1 = registry.get? name := by
  unfold register
  rw [Assoc.exchange_eq]
  rfl

theorem register_snd (registry : Registry) (name : String) (feast : Feast) :
    (registry.register name feast).2 =
      ⟨Assoc.insert (Text.lowercase name) feast registry.feasts⟩ := by
  unfold register
  rw [Assoc.exchange_eq]

theorem get?_register (registry : Registry) (name other : String) (feast : Feast) :
    (registry.register name feast).2.get? other =
      if Text.lowercase name = Text.lowercase other then some feast else registry.get? other := by
  rw [register_snd]
  exact Assoc.get?_insert _ _ _ _

theorem mem_names_register (registry : Registry) (name other : String) (feast : Feast) :
    other ∈ (registry.register name feast).2.names ↔
      other = Text.lowercase name ∨ other ∈ registry.names := by
  rw [register_snd]
  exact Assoc.mem_keys_insert _ _ _ _

theorem nodup_names_register (name : String) (feast : Feast) (h : registry.names.Nodup) :
    (registry.register name feast).2.names.Nodup := by
  rw [register_snd]
  exact Assoc.nodup_keys_insert _ _ h

/-- There is a feast under a name if its lower case is on the list. -/
theorem get?_isSome_iff_mem_names (registry : Registry) (name : String) :
    (registry.get? name).isSome = true ↔ Text.lowercase name ∈ registry.names :=
  Assoc.get?_isSome_iff _ _

theorem names_register_of_mem (feast : Feast) (h : Text.lowercase name ∈ registry.names) :
    (registry.register name feast).2.names = registry.names := by
  rw [register_snd]
  exact Assoc.keys_insert_of_mem feast h

/-! ## What registrations keep -/

theorem reflects_empty : empty.Reflects [] where
  feasts _ := rfl
  nodup := List.nodup_nil
  names _ := by simp [empty, Registry.names]

/-- **One more registration** is one more thing to reflect. -/
theorem Reflects.register (h : registry.Reflects past) (registration : Registration) :
    (registry.register registration.name registration.feast).2.Reflects
      (past ++ [registration]) where
  feasts name := by
    rw [get?_register, lastFeast?_append, h.feasts]
  nodup := nodup_names_register _ _ h.nodup
  names name := by
    rw [mem_names_register, h.names]
    refine ⟨?_, ?_⟩
    · rintro (rfl | ⟨earlier, hearlier, hname⟩)
      · exact ⟨registration, by simp, rfl⟩
      · exact ⟨earlier, List.mem_append_left _ hearlier, hname⟩
    · rintro ⟨known, hknown, hname⟩
      rcases List.mem_append.1 hknown with hearlier | hlatest
      · exact .inr ⟨known, hearlier, hname⟩
      · rw [List.mem_singleton] at hlatest
        rw [hlatest] at hname
        exact .inl hname.symm

/-- **A run of registrations** is reflected as a whole. -/
theorem Reflects.registerAll (h : registry.Reflects past) (registrations : List Registration) :
    (registry.registerAll registrations).2.Reflects (past ++ registrations) := by
  -- what is registered first belongs to the past of the rest
  induction registrations generalizing registry past with
  | nil =>
    rw [List.append_nil]
    exact h
  | cons first rest ih =>
    have hrest := ih (h.register first)
    rw [List.append_assoc] at hrest
    exact hrest

theorem Initial.reflects (h : Initial registry past) : registry.Reflects past := by
  cases h with
  | empty => exact reflects_empty
  | standard => exact reflects_empty.register ⟨"easter", easterSunday⟩

/-- Every registration answers what is found under the name just before. -/
theorem registerAll_answer (registry : Registry) (before after : List Registration)
    (registration : Registration) :
    (registry.registerAll (before ++ registration :: after)).1[before.length]? =
      some ((registry.registerAll before).2.get? registration.name) := by
  induction before generalizing registry with
  | nil =>
    show some (registry.register registration.name registration.feast).1 = _
    rw [register_fst]
    rfl
  | cons first rest ih => exact ih (registry.register first.name first.feast).2

/-! ## Names on the list -/

/-- What is on the list is in lower case. -/
theorem Reflects.lowercase_of_mem (h : registry.Reflects past) (hname : name ∈ registry.names) :
    Text.lowercase name = name := by
  obtain ⟨registration, -, rfl⟩ := (h.names name).1 hname
  exact Text.lowercase_lowercase registration.name

theorem Reflects.exists_get? (h : registry.Reflects past) (hname : name ∈ registry.names) :
    ∃ feast, registry.get? name = some feast := by
  rw [← Option.isSome_iff_exists, get?_isSome_iff_mem_names, h.lowercase_of_mem hname]
  exact hname

/--
**A registry finds the last registration under a name in every spelling, and lists names once.**

After any registrations in a registry to begin with, what is found under a name is the feast of the
last registration whose name has the same lower case, and nothing is found where there is none.
Every registration has answered what was found under its name just before. The list has the lower
case of every registered name, once. What is on the list is found under the name as it is listed,
and a feast that is put under that name replaces the one that is there and leaves the list as it is.
-/
theorem registerAll_lastWins {start : Registry} {earlier : List Registration}
    (hstart : Initial start earlier) (registrations : List Registration) :
    let past := earlier ++ registrations
    let registry := (start.registerAll registrations).2
    (∀ name feast, registry.get? name = some feast ↔
      ∃ before spelled after, past = before ++ ⟨spelled, feast⟩ :: after ∧
        Text.lowercase spelled = Text.lowercase name ∧
        ∀ later ∈ after, Text.lowercase later.name ≠ Text.lowercase name) ∧
    (∀ name, registry.get? name = none ↔
      ∀ registration ∈ past, Text.lowercase registration.name ≠ Text.lowercase name) ∧
    (∀ name, registry.contains name = true ↔ ∃ feast, registry.get? name = some feast) ∧
    (∀ before registration after, registrations = before ++ registration :: after →
      (start.registerAll registrations).1[before.length]? =
        some ((start.registerAll before).2.get? registration.name)) ∧
    (registry.names.Nodup ∧ ∀ name, name ∈ registry.names ↔
      ∃ registration ∈ past, Text.lowercase registration.name = name) ∧
    ∀ name ∈ registry.names, ∃ old, registry.get? name = some old ∧
      ∀ feast, (registry.register name feast).1 = some old ∧
        (registry.register name feast).2.get? name = some feast ∧
        (registry.register name feast).2.names = registry.names := by
  intro past registry
  -- all that was registered, to begin with and in the run, is what the registry reflects
  have h : registry.Reflects past := hstart.reflects.registerAll registrations
  refine ⟨?_, ?_, ?_, ?_, ⟨h.nodup, h.names⟩, ?_⟩
  · intro name feast
    rw [h.feasts, lastFeast?_eq_some_iff]
  · intro name
    rw [h.feasts, lastFeast?_eq_none_iff]
  · intro name
    exact Option.isSome_iff_exists
  · rintro before registration after rfl
    exact registerAll_answer start before after registration
  · intro name hname
    obtain ⟨old, hold⟩ := h.exists_get? hname
    refine ⟨old, hold, ?_⟩
    intro feast
    refine ⟨?_, ?_, ?_⟩
    · rw [register_fst, hold]
    · rw [get?_register, if_pos rfl]
    · -- a name on the list is in lower case, so registering it again adds none
      apply names_register_of_mem
      rw [h.lowercase_of_mem hname]
      exact hname

/-- A capital sigma is a final one at the end of a word, so the small sigma there makes another
name. -/
theorem registerAll_lastWins_sigma :
    let first : Feast := fun year => Date.ofYearMonthDay? year 5 1
    let second : Feast := fun year => Date.ofYearMonthDay? year 5 2
    let run := standard.registerAll [⟨"ΛΑΟΣ", first⟩, ⟨"λαος", second⟩, ⟨"λαοσ", first⟩]
    run.2.names = ["easter", "λαος", "λαοσ"] ∧
      run.2.get? "Λαος" = some second ∧ run.2.contains "Λαος" = true ∧
      run.1[1]? = some ((standard.registerAll [⟨"ΛΑΟΣ", first⟩]).2.get? "λαος") ∧
      (∃ old, run.2.get? "λαοσ" = some old ∧ (run.2.register "λαοσ" second).1 = some old ∧
        (run.2.register "λαοσ" second).2.names = run.2.names) ∧
      (empty.registerAll [⟨"ΛΑΟΣ", first⟩]).2.get? "easter" = none := by
  intro first second run
  obtain ⟨hlast, -, hcontains, hanswer, -, hlisted⟩ := registerAll_lastWins .standard
    [⟨"ΛΑΟΣ", first⟩, ⟨"λαος", second⟩, ⟨"λαοσ", first⟩]
  obtain ⟨-, hnone, -⟩ := registerAll_lastWins .empty [⟨"ΛΑΟΣ", first⟩]
  have hnames : run.2.names = ["easter", "λαος", "λαοσ"] := by decide +kernel
  have hfound : run.2.get? "Λαος" = some second :=
    (hlast _ _).2 ⟨[⟨"easter", easterSunday⟩, ⟨"ΛΑΟΣ", first⟩], "λαος", [⟨"λαοσ", first⟩], rfl,
      by decide +kernel, List.forall_mem_singleton.2 (by decide +kernel)⟩
  obtain ⟨old, hold, hreplaced⟩ := hlisted "λαοσ" (by rw [hnames]; decide)
  obtain ⟨hanswered, -, hsame⟩ := hreplaced second
  exact ⟨hnames, hfound, (hcontains _).2 ⟨second, hfound⟩,
    hanswer [⟨"ΛΑΟΣ", first⟩] ⟨"λαος", second⟩ [⟨"λαοσ", first⟩] rfl,
    ⟨old, hold, hanswered, hsame⟩,
    (hnone "easter").2 (List.forall_mem_singleton.2 (by decide +kernel))⟩

end Registry

end Almanac
