import Almanac.Proofs.Cache.Recency
import Mathlib.Data.List.TakeWhile

/-!
# The moments of a run

Asking for a value is not one step. The key is looked up; if it is missing, the computation is
carried out, operation by operation, on the same cache; and only then the value is stored. This file
takes a run apart into such steps. A `Moment` is the cache at some point of the run and the tasks
that are still to be done, and `Leads` says what a moment leads to and which events happen on the
way. `leads_run` shows that the steps make up the run.

A step keeps `Mirrors`, so the cache is described by its past at every moment, in the middle of a
computation too. `Mirrors.contains_of_use` and `Mirrors.contains_iff_of_use` say what becomes of a
key that was used at an earlier moment.
-/

namespace Almanac.Cache

variable {κ ν : Type}

/-- Something still to be done. -/
inductive Task (κ ν : Type)
  | perform (operation : Operation κ ν)
  /-- The value has been computed and is to be stored. -/
  | store (key : κ) (value : ν)

/-- A point of a run: the cache, and the tasks that remain. -/
structure Moment (κ ν : Type) where
  cache : Cache κ ν
  tasks : List (Task κ ν)

variable [DecidableEq κ]

/-- One step: the events, latest first, and the cache with the tasks that come before all others.
Looking up a key that is missing is no event, since it uses nothing. -/
def advance (cache : Cache κ ν) : Task κ ν → List (Event κ ν) × Moment κ ν
  | .store key value => ([.stored key value], ⟨(cache.put key value).2, []⟩)
  | .perform (.getOrInsert key value computation) =>
    match cache.get key with
    | (some _, cache) => ([.used key], ⟨cache, []⟩)
    | (none, cache) => ([], ⟨cache, computation.map .perform ++ [.store key value]⟩)
  | .perform operation =>
    (eventsOf operation (cache.step operation).1, ⟨(cache.step operation).2, []⟩)

/-- `Leads moment events after`: step by step the run comes from `moment` to `after`, with `events`
on the way, latest first. -/
inductive Leads : Moment κ ν → List (Event κ ν) → Moment κ ν → Prop
  | here {moment : Moment κ ν} : Leads moment [] moment
  | later {cache : Cache κ ν} {task : Task κ ν} {rest : List (Task κ ν)}
      {events : List (Event κ ν)} {moment : Moment κ ν} :
      Leads ⟨(advance cache task).2.cache, (advance cache task).2.tasks ++ rest⟩ events moment →
      Leads ⟨cache, task :: rest⟩ (events ++ (advance cache task).1) moment

theorem Leads.trans {first second third : Moment κ ν} {events more : List (Event κ ν)}
    (h : Leads first events second) (hmore : Leads second more third) :
    Leads first (more ++ events) third := by
  induction h with
  | here => rwa [List.append_nil]
  | later _ ih =>
    rw [← List.append_assoc]
    exact .later (ih hmore)

/-! ## The steps make up the run -/

theorem advance_getOrInsert_found {cache : Cache κ ν} {key : κ} {found : ν}
    (h : cache.peek? key = some found) (value : ν) (computation : List (Operation κ ν)) :
    advance cache (.perform (.getOrInsert key value computation)) =
      ([.used key], ⟨cache.use key found, []⟩) := by
  rw [advance, get_of_found h]

theorem advance_getOrInsert_missing {cache : Cache κ ν} {key : κ} (h : cache.peek? key = none)
    (value : ν) (computation : List (Operation κ ν)) :
    advance cache (.perform (.getOrInsert key value computation)) =
      ([], ⟨cache, computation.map .perform ++ [.store key value]⟩) := by
  rw [advance, get_of_missing h]

/-- An operation that is a single step. -/
theorem leads_of_advance {cache : Cache κ ν} {operation : Operation κ ν}
    (h : advance cache (.perform operation) =
      (eventsOf operation (cache.step operation).1, ⟨(cache.step operation).2, []⟩))
    (rest : List (Task κ ν)) :
    ∃ events, Leads ⟨cache, .perform operation :: rest⟩ events
      ⟨(cache.step operation).2, rest⟩ := by
  have hlater : Leads ⟨cache, .perform operation :: rest⟩ ([] ++ (advance cache _).1)
      ⟨(advance cache _).2.cache, (advance cache _).2.tasks ++ rest⟩ := .later .here
  rw [h] at hlater
  exact ⟨_, hlater⟩

/-- Asking for a value ends with a use of its key, if the computation comes to an end. -/
theorem leads_getOrInsert {cache : Cache κ ν} {key : κ} {value : ν}
    {computation : List (Operation κ ν)} {rest : List (Task κ ν)}
    (hrun : ∃ events, Leads ⟨cache, computation.map .perform ++ .store key value :: rest⟩ events
      ⟨(cache.run computation).2, .store key value :: rest⟩) :
    ∃ event events, Event.key? event = some key ∧
      Leads ⟨cache, .perform (.getOrInsert key value computation) :: rest⟩ (event :: events)
        ⟨(cache.step (.getOrInsert key value computation)).2, rest⟩ := by
  cases hv : cache.peek? key with
  | some found =>
    refine ⟨.used key, [], rfl, ?_⟩
    have hstep : Leads ⟨cache, .perform (.getOrInsert key value computation) :: rest⟩
        ([] ++ (advance cache _).1) _ := .later .here
    rw [advance_getOrInsert_found hv] at hstep
    rw [step_getOrInsert_found hv]
    exact hstep
  | none =>
    obtain ⟨events, hevents⟩ := hrun
    refine ⟨.stored key value, events, rfl, ?_⟩
    -- first the look-up, which changes nothing, then the computation, then the storing
    have hstore : Leads ⟨(cache.run computation).2, .store key value :: rest⟩
        ([] ++ [.stored key value]) ⟨((cache.run computation).2.put key value).2, [] ++ rest⟩ :=
      .later .here
    have hstep : Leads ⟨cache, .perform (.getOrInsert key value computation) :: rest⟩
        (.stored key value :: events ++
          (advance cache (.perform (.getOrInsert key value computation))).1)
        ⟨((cache.run computation).2.put key value).2, rest⟩ := by
      refine .later ?_
      rw [advance_getOrInsert_missing hv, List.append_assoc]
      exact hevents.trans hstore
    rw [advance_getOrInsert_missing hv, List.append_nil] at hstep
    rw [step_getOrInsert_missing hv]
    exact hstep

mutual

theorem leads_step (cache : Cache κ ν) (rest : List (Task κ ν)) :
    (operation : Operation κ ν) → ∃ events,
      Leads ⟨cache, .perform operation :: rest⟩ events ⟨(cache.step operation).2, rest⟩
  | .get key => leads_of_advance (by rw [advance]; simp) rest
  | .put key value => leads_of_advance (by rw [advance]; simp) rest
  | .contains key => leads_of_advance (by rw [advance]; simp) rest
  | .size => leads_of_advance (by rw [advance]; simp) rest
  | .isEmpty => leads_of_advance (by rw [advance]; simp) rest
  | .capacity => leads_of_advance (by rw [advance]; simp) rest
  | .clear => leads_of_advance (by rw [advance]; simp) rest
  | .getOrInsert key value computation => by
    obtain ⟨event, events, -, h⟩ :=
      leads_getOrInsert (leads_run cache (.store key value :: rest) computation)
    exact ⟨event :: events, h⟩

/-- **The steps make up the run**, whatever is to be done after it. -/
theorem leads_run (cache : Cache κ ν) (rest : List (Task κ ν)) :
    (operations : List (Operation κ ν)) → ∃ events,
      Leads ⟨cache, operations.map .perform ++ rest⟩ events ⟨(cache.run operations).2, rest⟩
  | [] => ⟨[], by simpa [run] using Leads.here⟩
  | operation :: others => by
    obtain ⟨first, hfirst⟩ := leads_step cache (others.map .perform ++ rest) operation
    obtain ⟨more, hmore⟩ := leads_run (cache.step operation).2 rest others
    rw [run_cons]
    exact ⟨more ++ first, hfirst.trans hmore⟩

end

/-! ## What every moment keeps -/

/-- **Every step keeps the cache as its past says.** -/
theorem mirrors_advance {cache : Cache κ ν} {past : List (Event κ ν)} (h : cache.Mirrors past)
    (task : Task κ ν) :
    (advance cache task).2.cache.Mirrors ((advance cache task).1 ++ past) := by
  unfold advance
  split
  · exact mirrors_put h _ _
  · next key value computation =>
    cases hv : cache.peek? key with
    | some found => rw [get_of_found hv]; exact mirrors_get h hv
    | none => rw [get_of_missing hv]; exact h
  · exact mirrors_step h _

theorem mirrors_leads {moment after : Moment κ ν} {past events : List (Event κ ν)}
    (h : moment.cache.Mirrors past) (hleads : Leads moment events after) :
    after.cache.Mirrors (events ++ past) := by
  induction hleads generalizing past with
  | here => exact h
  | later _ ih =>
    rw [List.append_assoc]
    exact ih (mirrors_advance h _)

theorem capacity_advance (cache : Cache κ ν) (task : Task κ ν) :
    (advance cache task).2.cache.capacity = cache.capacity := by
  unfold advance
  split
  · exact capacity_put _ _ _
  · next key value computation =>
    cases hv : cache.peek? key with
    | some found => rw [get_of_found hv]; rfl
    | none => rw [get_of_missing hv]
  · exact capacity_step _ _

theorem capacity_leads {moment after : Moment κ ν} {events : List (Event κ ν)}
    (h : Leads moment events after) : after.cache.capacity = moment.cache.capacity := by
  induction h with
  | here => rfl
  | later _ ih => exact ih.trans (capacity_advance _ _)

/-! ## What becomes of a key -/

/-- What is used after the last use of a key is used after every use of it, and is another key. -/
theorem mem_usedKeys_afterUse {event : Event κ ν} {key k : κ} (he : event.key? = some key)
    {later past : List (Event κ ν)} (h : k ∈ usedKeys (afterUse key (later ++ event :: past))) :
    k ∈ usedKeys later ∧ k ≠ key := by
  unfold usedKeys afterUse at h
  obtain ⟨other, hother, hk⟩ := List.mem_filterMap.1 h
  have hne : k ≠ key := fun heq => by
    have hafter := List.mem_takeWhile_imp hother
    simp [hk, heq] at hafter
  refine ⟨List.mem_filterMap.2 ⟨other, ?_, hk⟩, hne⟩
  rw [List.takeWhile_append] at hother
  split at hother
  · rw [List.takeWhile_cons_of_neg (by simpa using he), List.append_nil] at hother
    exact hother
  · exact (List.takeWhile_prefix _).subset hother

omit [DecidableEq κ] in
theorem isClearing_iff (event : Event κ ν) : event.isClearing = true ↔ event = .cleared := by
  cases event <;> simp [Event.isClearing]

omit [DecidableEq κ] in
/-- Without a clearing in between, what was used before counts as used since the last one. -/
theorem mem_usedKeys_sinceClearing {event : Event κ ν} {key : κ} (he : event.key? = some key)
    {later : List (Event κ ν)} (hclear : .cleared ∉ later) (past : List (Event κ ν)) :
    key ∈ usedKeys (sinceClearing (later ++ event :: past)) := by
  have hkept : ∀ other ∈ later, (!other.isClearing) = true := by
    intro other hother
    rw [Bool.not_eq_true', ← Bool.not_eq_true, isClearing_iff]
    exact fun heq => hclear (heq ▸ hother)
  have hsince : sinceClearing (later ++ event :: past) = later ++ sinceClearing (event :: past) :=
    List.takeWhile_append_of_pos hkept
  have hmem : event ∈ sinceClearing (later ++ event :: past) := by
    rw [hsince, sinceClearing_use he]
    exact List.mem_append_right _ List.mem_cons_self
  exact List.mem_filterMap.2 ⟨event, hmem, he⟩

omit [DecidableEq κ] in
/-- A clearing forgets what was used before. -/
theorem usedKeys_sinceClearing_of_cleared {later : List (Event κ ν)} (hclear : .cleared ∈ later)
    {key : κ} {past : List (Event κ ν)} (h : key ∈ usedKeys (sinceClearing (later ++ past))) :
    key ∈ usedKeys later := by
  obtain ⟨event, hevent, hkey⟩ := List.mem_filterMap.1 h
  refine List.mem_filterMap.2 ⟨event, ?_, hkey⟩
  unfold sinceClearing at hevent
  rw [List.takeWhile_append] at hevent
  split at hevent
  · next hall =>
    -- the clearing itself would not be counted
    have heq := List.IsPrefix.eq_of_length (List.takeWhile_prefix _) hall
    rw [← heq] at hclear
    have := List.mem_takeWhile_imp hclear
    simp [Event.isClearing] at this
  · exact (List.takeWhile_prefix _).subset hevent

section Keys

variable {cache : Cache κ ν} {later past : List (Event κ ν)} {event : Event κ ν} {key : κ}

/-- **A key that is used stays** until the cache is cleared or as many other keys are used as there
is room for. -/
theorem Mirrors.contains_of_use (h : cache.Mirrors (later ++ event :: past))
    (he : event.key? = some key) (hclear : .cleared ∉ later)
    (hfew : ((usedKeys later).toFinset.erase key).card < cache.capacity) :
    cache.contains key = true := by
  refine (h.contains_iff key).2 ⟨mem_usedKeys_sinceClearing he hclear past, ?_⟩
  refine lt_of_le_of_lt (Finset.card_le_card fun k hk => ?_) hfew
  obtain ⟨hlater, hne⟩ := mem_usedKeys_afterUse he (List.mem_toFinset.1 hk)
  exact Finset.mem_erase.2 ⟨hne, List.mem_toFinset.2 hlater⟩

/-- A key that is not used again goes exactly then. -/
theorem Mirrors.contains_iff_of_use (h : cache.Mirrors (later ++ event :: past))
    (he : event.key? = some key) (hunused : key ∉ usedKeys later) :
    cache.contains key = true ↔
      .cleared ∉ later ∧ (usedKeys later).toFinset.card < cache.capacity := by
  have herase : (usedKeys later).toFinset.erase key = (usedKeys later).toFinset :=
    Finset.erase_eq_of_notMem fun hmem => hunused (List.mem_toFinset.1 hmem)
  refine ⟨fun hthere => ?_, fun hstays => ?_⟩
  · obtain ⟨hsince, hcard⟩ := (h.contains_iff key).1 hthere
    refine ⟨fun hcleared => hunused (usedKeys_sinceClearing_of_cleared hcleared hsince), ?_⟩
    have hafter : afterUse key (later ++ event :: past) = later := by
      show (later ++ event :: past).takeWhile _ = later
      rw [List.takeWhile_append_of_pos, List.takeWhile_cons_of_neg (by simpa using he),
        List.append_nil]
      intro other hother
      simpa using fun hkey : other.key? = some key =>
        hunused (List.mem_filterMap.2 ⟨other, hother, hkey⟩)
    rwa [hafter] at hcard
  · exact h.contains_of_use he hstays.1 (by rw [herase]; exact hstays.2)

end Keys

end Almanac.Cache
