import Almanac.Proofs.Cache.Moments

/-!
# Computing on the cache that asked

A computation may do anything to the cache that waits for its value: store the very key, drive it
out, clear the cache, or ask for further values. If every value that is stored or computed is the
one of a function, the cache stays coherent all the same. `Coherent` says what holds at every moment
of such a run; one step keeps it, and `coherent_of_truthful` draws the conclusions.
-/

namespace Almanac.Cache

variable {κ ν : Type}

/-- What is stored or computed for a key, in computations too, is its value under `f`. -/
inductive Operation.Truthful (f : κ → ν) : Operation κ ν → Prop
  | get (key : κ) : Truthful f (.get key)
  | put {key : κ} {value : ν} : value = f key → Truthful f (.put key value)
  | contains (key : κ) : Truthful f (.contains key)
  | size : Truthful f .size
  | isEmpty : Truthful f .isEmpty
  | capacity : Truthful f .capacity
  | clear : Truthful f .clear
  | getOrInsert {key : κ} {value : ν} {computation : List (Operation κ ν)} :
      value = f key → (∀ operation ∈ computation, Truthful f operation) →
      Truthful f (.getOrInsert key value computation)

/-- The task stores nothing but values of `f`. -/
def Task.Truthful (f : κ → ν) : Task κ ν → Prop
  | .perform operation => operation.Truthful f
  | .store key value => value = f key

variable [DecidableEq κ] {f : κ → ν}

/-- What holds at a moment: the cache is as its past says, every value in it is the right one, and
so will be every value that is stored. -/
structure Coherent (f : κ → ν) (past : List (Event κ ν)) (moment : Moment κ ν) : Prop where
  mirrors : moment.cache.Mirrors past
  values : moment.cache.Holds fun key value => value = f key
  tasks : ∀ task ∈ moment.tasks, task.Truthful f

theorem coherent_start (capacity : Nat) {operations : List (Operation κ ν)}
    (h : ∀ operation ∈ operations, operation.Truthful f) :
    Coherent f [] ⟨empty capacity, operations.map .perform⟩ :=
  ⟨mirrors_empty capacity, holds_empty capacity, List.forall_mem_map.2 h⟩

/-! ## One step -/

/-- A step keeps the values right. -/
theorem holds_advance {cache : Cache κ ν} (h : cache.Holds fun key value => value = f key)
    {task : Task κ ν} (htask : task.Truthful f) :
    (advance cache task).2.cache.Holds fun key value => value = f key := by
  cases task with
  | store key value => exact holds_put h htask
  | perform operation =>
    cases htask with
    | get key => simpa [advance, step] using holds_get h key
    | put hvalue => simpa [advance, step] using holds_put h hvalue
    | contains key => simpa [advance, step] using h
    | size => simpa [advance, step] using h
    | isEmpty => simpa [advance, step] using h
    | capacity => simpa [advance, step] using h
    | clear => simpa [advance, step] using holds_clear cache
    | @getOrInsert key value computation hvalue hcomputation =>
      cases hv : cache.peek? key with
      | some found => rw [advance_getOrInsert_found hv]; exact holds_use h (h.peek? hv)
      | none => rw [advance_getOrInsert_missing hv]; exact h

/-- The tasks that a step leaves are those of the computation, and the storing of its value. -/
theorem truthful_advance (cache : Cache κ ν) {task : Task κ ν} (htask : task.Truthful f) :
    ∀ next ∈ (advance cache task).2.tasks, next.Truthful f := by
  cases task with
  | store => simp [advance]
  | perform operation =>
    cases htask with
    | @getOrInsert key value computation hvalue hcomputation =>
      cases hv : cache.peek? key with
      | some found => simp [advance_getOrInsert_found hv]
      | none =>
        rw [advance_getOrInsert_missing hv]
        exact List.forall_mem_append.2
          ⟨List.forall_mem_map.2 hcomputation, List.forall_mem_singleton.2 hvalue⟩
    | _ => simp [advance]

/-- **Every step keeps the cache coherent.** -/
theorem coherent_advance {cache : Cache κ ν} {task : Task κ ν} {rest : List (Task κ ν)}
    {past : List (Event κ ν)} (h : Coherent f past ⟨cache, task :: rest⟩) :
    Coherent f ((advance cache task).1 ++ past)
      ⟨(advance cache task).2.cache, (advance cache task).2.tasks ++ rest⟩ := by
  obtain ⟨hfirst, hrest⟩ := List.forall_mem_cons.1 h.tasks
  exact ⟨mirrors_advance h.mirrors task, holds_advance h.values hfirst,
    List.forall_mem_append.2 ⟨truthful_advance cache hfirst, hrest⟩⟩

theorem coherent_leads {moment after : Moment κ ν} {past events : List (Event κ ν)}
    (h : Coherent f past moment) (hleads : Leads moment events after) :
    Coherent f (events ++ past) after := by
  induction hleads generalizing past with
  | here => exact h
  | later _ ih =>
    rw [List.append_assoc]
    exact ih (coherent_advance h)

/-! ## What is answered at a moment -/

section Answers

variable {cache : Cache κ ν}

/-- A coherent cache has the value of `f` for every key that it has. -/
theorem peek?_of_holds (h : cache.Holds fun key value => value = f key) (key : κ) :
    cache.peek? key = if cache.contains key then some (f key) else none := by
  unfold contains
  cases hv : cache.peek? key with
  | none => rfl
  | some value => rw [h.peek? hv]; rfl

/-- Asking for a value gives it, and the computation is carried out exactly if the key is
missing. -/
theorem step_getOrInsert_of_holds (h : cache.Holds fun key value => value = f key) {key : κ}
    {value : ν} (hvalue : value = f key) (computation : List (Operation κ ν)) :
    (cache.step (.getOrInsert key value computation)).1 =
      .provided (f key) (!cache.contains key)
        (if cache.contains key then [] else (cache.run computation).1) := by
  unfold contains
  cases hv : cache.peek? key with
  | some found => rw [step_getOrInsert_found hv, h.peek? hv]; rfl
  | none => rw [step_getOrInsert_missing hv, hvalue]; rfl

/-- What computes the value may be any function that, where it is needed, gives the value and does
to the cache what the computation does. -/
theorem getOrInsertWith_of_holds (h : cache.Holds fun key value => value = f key) {key : κ}
    {value : ν} (hvalue : value = f key) {computation : List (Operation κ ν)}
    {compute : Cache κ ν → ν × Cache κ ν}
    (hcompute : cache.contains key = false → compute cache = (f key, (cache.run computation).2)) :
    cache.getOrInsertWith key compute =
      (f key, (cache.step (.getOrInsert key value computation)).2) := by
  unfold contains at hcompute
  unfold getOrInsertWith
  cases hv : cache.peek? key with
  | some found => rw [get_of_found hv, step_getOrInsert_found hv, h.peek? hv]
  | none =>
    rw [hv] at hcompute
    rw [get_of_missing hv, step_getOrInsert_missing hv]
    simp only [hcompute rfl, hvalue]

end Answers

/-! ## What is there afterwards -/

/-- From a moment on, `key` stays until the cache is cleared or `room` other keys are used, and if
it is not used again, it goes then. -/
def Moment.Keeps (moment : Moment κ ν) (room : Nat) (key : κ) : Prop :=
  ∀ later after, Leads moment later after →
    (.cleared ∉ later → ((usedKeys later).toFinset.erase key).card < room →
      after.cache.contains key = true) ∧
    (key ∉ usedKeys later → (after.cache.contains key = true ↔
      .cleared ∉ later ∧ (usedKeys later).toFinset.card < room))

/-- A use of a key makes the cache keep it. -/
theorem keeps_of_use {moment : Moment κ ν} {past : List (Event κ ν)} {event : Event κ ν} {key : κ}
    (h : moment.cache.Mirrors (event :: past)) (he : event.key? = some key) :
    moment.Keeps moment.cache.capacity key := by
  intro later after hleads
  have hmirrors := mirrors_leads h hleads
  rw [← capacity_leads hleads]
  exact ⟨hmirrors.contains_of_use he, hmirrors.contains_iff_of_use he⟩

/-- Asking comes to an end, and then the cache keeps the key. -/
theorem keeps_getOrInsert {cache : Cache κ ν} {past : List (Event κ ν)} (h : cache.Mirrors past)
    (key : κ) (value : ν) (computation : List (Operation κ ν)) (rest : List (Task κ ν)) :
    let after := (cache.step (.getOrInsert key value computation)).2
    (∃ events, Leads ⟨cache, .perform (.getOrInsert key value computation) :: rest⟩ events
      ⟨after, rest⟩) ∧ Moment.Keeps ⟨after, rest⟩ cache.capacity key := by
  intro after
  obtain ⟨event, events, hkey, hafter⟩ :=
    leads_getOrInsert (leads_run cache (.store key value :: rest) computation)
  have hkeeps := keeps_of_use (mirrors_leads h hafter) hkey
  rw [capacity_leads hafter] at hkeeps
  exact ⟨⟨_, hafter⟩, hkeeps⟩

/-- What a moment keeps is there. -/
theorem Moment.Keeps.contains {moment : Moment κ ν} {room : Nat} {key : κ}
    (h : moment.Keeps room key) (hroom : 0 < room) : moment.cache.contains key = true :=
  (h [] moment .here).1 List.not_mem_nil (by simpa [usedKeys] using hroom)

/--
**Computing on the cache that asked.**

Take a run in which whatever is stored or computed for a key is its value under `f`, in
computations and in their computations too. The steps of `Leads` make up the run. At every moment of
it, the cache has no more entries than it has room for. Whatever reading, storing or asking gives
back for a key is its value under `f`; a computation is carried out exactly if its key is missing
when it is asked for; and asking is what `getOrInsertWith` does, for any function that does to the
cache what the computation does. When it is done, the key is there, and the cache keeps it.
-/
theorem coherent_of_truthful (f : κ → ν) (capacity : Nat) (operations : List (Operation κ ν))
    (htruthful : ∀ operation ∈ operations, operation.Truthful f) :
    let start : Moment κ ν := ⟨empty capacity, operations.map .perform⟩
    (∃ past, Leads start past ⟨((empty capacity).run operations).2, []⟩) ∧
    (∀ past moment, Leads start past moment → moment.cache.size ≤ max capacity 1) ∧
    (∀ past cache key rest, Leads start past ⟨cache, .perform (.get key) :: rest⟩ →
      (cache.step (.get key)).1 =
        .found (if cache.contains key then some (f key) else none)) ∧
    (∀ past cache key value rest, Leads start past ⟨cache, .perform (.put key value) :: rest⟩ →
      (cache.step (.put key value)).1 =
        .replaced (if cache.contains key then some (f key) else none)) ∧
    ∀ past cache key value computation rest,
      Leads start past ⟨cache, .perform (.getOrInsert key value computation) :: rest⟩ →
      let after := (cache.step (.getOrInsert key value computation)).2
      (cache.step (.getOrInsert key value computation)).1 =
        .provided (f key) (!cache.contains key)
          (if cache.contains key then [] else (cache.run computation).1) ∧
      (∀ compute : Cache κ ν → ν × Cache κ ν,
        (cache.contains key = false → compute cache = (f key, (cache.run computation).2)) →
        cache.getOrInsertWith key compute = (f key, after)) ∧
      (∃ events, Leads ⟨cache, .perform (.getOrInsert key value computation) :: rest⟩ events
        ⟨after, rest⟩) ∧
      after.contains key = true ∧ Moment.Keeps ⟨after, rest⟩ (max capacity 1) key := by
  intro start
  -- nothing has happened before the start, so the past is all that led to the moment
  have hcoherent : ∀ past moment, Leads start past moment → Coherent f past moment := by
    intro past moment hleads
    have h := coherent_leads (coherent_start capacity htruthful) hleads
    rwa [List.append_nil] at h
  have hroom : ∀ past moment, Leads start past moment → moment.cache.capacity = max capacity 1 :=
    fun past moment hleads => capacity_leads hleads
  refine ⟨?_, ?_, ?_, ?_, ?_⟩
  · -- the run passes through its moments and ends at the last of them
    obtain ⟨past, hpast⟩ := leads_run (empty capacity) [] operations
    rw [List.append_nil] at hpast
    exact ⟨past, hpast⟩
  · intro past moment hleads
    rw [(hcoherent past moment hleads).mirrors.size_eq, hroom past moment hleads]
    exact Nat.min_le_left _ _
  · -- what is there is the value of the key, whether it is read or replaced
    intro past cache key rest hleads
    rw [step_get, peek?_of_holds (hcoherent _ _ hleads).values]
  · intro past cache key value rest hleads
    rw [step_put, peek?_of_holds (hcoherent _ _ hleads).values]
  · intro past cache key value computation rest hleads after
    -- the history tells what asking leaves, and the values tell what it answers
    obtain ⟨hmirrors, hvalues, htasks⟩ := hcoherent _ _ hleads
    have hvalue : value = f key := by
      cases htasks _ List.mem_cons_self with
      | getOrInsert h _ => exact h
    obtain ⟨hafter, hkeeps⟩ := keeps_getOrInsert hmirrors key value computation rest
    rw [show cache.capacity = max capacity 1 from hroom _ _ hleads] at hkeeps
    exact ⟨step_getOrInsert_of_holds hvalues hvalue computation,
      fun _ hcompute => getOrInsertWith_of_holds hvalues hvalue hcompute,
      hafter, hkeeps.contains (Nat.le_max_right capacity 1), hkeeps⟩

/-- A cache for two. The computation for 3 asks for 3 itself, whose computation clears the cache; it
then stores 4 and 1, which drives 3 out again before its value is stored the second time. -/
theorem coherent_of_truthful_two :
    let f : Nat → Nat := fun key => 10 * key
    let inner : List (Operation Nat Nat) := [.clear, .put 2 20]
    let outer : List (Operation Nat Nat) := [.getOrInsert 3 30 inner, .put 4 40, .put 1 10]
    let operations : List (Operation Nat Nat) := [.put 1 10, .getOrInsert 3 30 outer, .get 1]
    let start : Moment Nat Nat := ⟨empty 2, operations.map .perform⟩
    let cache : Cache Nat Nat := ⟨2, [(1, 10)]⟩
    let rest : List (Task Nat Nat) :=
      [.perform (.put 4 40), .perform (.put 1 10), .store 3 30, .perform (.get 1)]
    let fuller : Cache Nat Nat := ⟨2, [(4, 40), (3, 30)]⟩
    let other : Cache Nat Nat := ⟨2, [(1, 10), (4, 40)]⟩
    let last : Cache Nat Nat := ⟨2, [(3, 30), (1, 10)]⟩
    (∀ operation ∈ operations, operation.Truthful f) ∧
    -- the inner asking, and what becomes of 3 while the outer computation goes on
    Leads start [.stored 1 10] ⟨cache, .perform (.getOrInsert 3 30 inner) :: rest⟩ ∧
    (cache.step (.getOrInsert 3 30 inner)).1 = .provided 30 true [.cleared, .replaced none] ∧
    cache.getOrInsertWith 3 (fun cache => (30, (cache.run inner).2)) =
      (30, ⟨2, [(3, 30), (2, 20)]⟩) ∧
    fuller.contains 3 = true ∧ fuller.size ≤ 2 ∧ other.contains 3 = false ∧
    -- the outer one, and the reading that follows
    (cache.step (.getOrInsert 3 30 outer)).2 = last ∧ last.contains 3 = true ∧
    (last.step (.get 1)).1 = .found (some 10) := by
  intro f inner outer operations start cache rest fuller other last
  have hinner : ∀ operation ∈ inner, operation.Truthful f :=
    List.forall_mem_cons.2 ⟨.clear, List.forall_mem_singleton.2 (.put rfl)⟩
  have houter : ∀ operation ∈ outer, operation.Truthful f :=
    List.forall_mem_cons.2 ⟨.getOrInsert rfl hinner,
      List.forall_mem_cons.2 ⟨.put rfl, List.forall_mem_singleton.2 (.put rfl)⟩⟩
  have htruthful : ∀ operation ∈ operations, operation.Truthful f :=
    List.forall_mem_cons.2 ⟨.put rfl,
      List.forall_mem_cons.2 ⟨.getOrInsert rfl houter, List.forall_mem_singleton.2 (.get 1)⟩⟩
  obtain ⟨-, hsize, hget, -, hasked⟩ := coherent_of_truthful f 2 operations htruthful
  have hfirst : Leads start _ ⟨cache, .perform (.getOrInsert 3 30 inner) :: rest⟩ :=
    .later (.later .here)
  obtain ⟨hanswer, hfunction, hinside, -, hkeeps⟩ := hasked _ _ _ _ _ _ hfirst
  -- one other key leaves 3 where it is, two do not
  have hone : Leads ⟨⟨2, [(3, 30), (2, 20)]⟩, rest⟩ _ ⟨fuller, rest.drop 1⟩ := .later .here
  have htwo : Leads ⟨⟨2, [(3, 30), (2, 20)]⟩, rest⟩ _ ⟨other, rest.drop 2⟩ :=
    .later (.later .here)
  have hstays : fuller.contains 3 = true :=
    (hkeeps [.stored 4 40] _ hone).1 (by simp) (by decide)
  have hgoes : other.contains 3 = false := by
    rw [Bool.eq_false_iff, ne_eq, (hkeeps [.stored 1 10, .stored 4 40] _ htwo).2 (by decide)]
    exact fun hfew => absurd hfew.2 (by decide)
  have hsecond : Leads start _ ⟨cache, [.perform (.getOrInsert 3 30 outer), .perform (.get 1)]⟩ :=
    .later .here
  obtain ⟨-, -, hoverall, hthere, -⟩ := hasked _ _ _ _ _ _ hsecond
  obtain ⟨_, hbetween⟩ := hinside
  obtain ⟨_, hlast⟩ := hoverall
  exact ⟨htruthful, hfirst, hanswer, hfunction _ fun _ => rfl, hstays,
    hsize _ _ ((hfirst.trans hbetween).trans hone), hgoes, rfl, hthere,
    hget _ _ _ _ (hsecond.trans hlast)⟩

end Almanac.Cache
