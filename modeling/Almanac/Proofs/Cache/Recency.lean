import Almanac.Proofs.Cache.Contents
import Almanac.Proofs.Cache.Idle
import Almanac.Proofs.Cache.Uses

/-!
# A cache holds what was used last

After any run, whatever computations are nested in it, the keys of a cache are the first of
`recentKeys`, as many as there is room for, and under each stands the value that was last stored for
it. `Mirrors` says so; every single operation keeps it and so does every run. Together with
`mem_take_recentKeys` this describes the contents of a cache by its history alone.
-/

namespace Almanac.Cache

variable {κ ν : Type} [DecidableEq κ]

/-- The cache holds what its past says. -/
structure Mirrors (cache : Cache κ ν) (past : List (Event κ ν)) : Prop where
  capacity_pos : 0 < cache.capacity
  /-- The keys are the ones used last, in the order of their last uses. -/
  order : cache.entries.map Prod.fst = (recentKeys past).take cache.capacity
  /-- The values are the ones stored last. -/
  values : cache.Holds fun key value => lastStored key past = some value

theorem mirrors_empty (capacity : Nat) : Mirrors (empty capacity : Cache κ ν) [] :=
  ⟨Nat.le_max_right capacity 1, by simp [empty, recentKeys, sinceClearing, usedKeys],
    holds_empty capacity⟩

theorem mirrors_clear {cache : Cache κ ν} {past : List (Event κ ν)} (h : cache.Mirrors past) :
    cache.clear.Mirrors (.cleared :: past) :=
  ⟨h.capacity_pos, by rw [recentKeys_clear rfl]; simp [clear], holds_clear cache⟩

/-! ## Single uses -/

theorem map_fst_others (key : κ) (entries : List (κ × ν)) :
    (others key entries).map Prod.fst = (entries.map Prod.fst).filter (· ≠ key) := by
  rw [List.filter_map]
  rfl

/-- The value that a cache has for a key is the one stored for it last. -/
theorem Mirrors.peek? {cache : Cache κ ν} {past : List (Event κ ν)} (h : cache.Mirrors past)
    {key : κ} {value : ν} (hv : cache.peek? key = some value) :
    lastStored key past = some value := h.values.peek? hv

/-- Values keep being the ones stored last when an event leaves alone what was stored. -/
theorem lastStored_of_key_ne {event : Event κ ν} {key other : κ} (h : event.key? = some key)
    (hne : other ≠ key) (past : List (Event κ ν)) :
    lastStored other (event :: past) = lastStored other past := by
  cases event with
  | used => rfl
  | stored k value =>
      have hk : k = key := Option.some.inj h
      exact if_neg fun he => hne (he.symm.trans hk)
  | cleared => rfl

/-- An event that uses a key and leaves it with `value` is what `use` does to a key that is
there. -/
theorem mirrors_use {cache : Cache κ ν} {past : List (Event κ ν)} (h : cache.Mirrors past)
    {event : Event κ ν} {key : κ} {value : ν} (he : event.key? = some key)
    (hv : lastStored key (event :: past) = some value) (hk : key ∈ cache.entries.map Prod.fst) :
    (cache.use key value).Mirrors (event :: past) := by
  have hroom := h.capacity_pos
  refine ⟨hroom, ?_, ?_⟩
  · show key :: (others key cache.entries).map Prod.fst =
      (recentKeys (event :: past)).take cache.capacity
    rw [recentKeys_use he, ← take_cons_filter (nodup_recentKeys past) hroom, ← h.order,
      ← map_fst_others]
    -- without the key that it has, the list has room for one more
    have hlt := length_others_lt hk
    have hle : cache.entries.length ≤ cache.capacity := by
      have hlen := congrArg List.length h.order
      rw [List.length_map, List.length_take] at hlen
      omega
    rw [List.take_of_length_le]
    rw [List.length_cons, List.length_map]
    omega
  · intro entry hentry
    rcases List.mem_cons.1 hentry with rfl | hold
    · exact hv
    · obtain ⟨hmem, hne⟩ := List.mem_filter.1 hold
      rw [lastStored_of_key_ne he (by simpa using hne)]
      exact h.values _ hmem

/-- A new key is stored in front, and the end of a full cache goes. -/
theorem mirrors_put_new {cache : Cache κ ν} {past : List (Event κ ν)} (h : cache.Mirrors past)
    {key : κ} (value : ν) (hk : key ∉ cache.entries.map Prod.fst) :
    Mirrors { cache with entries := ((key, value) :: cache.entries).take cache.capacity }
      (.stored key value :: past) := by
  have hroom := h.capacity_pos
  refine ⟨hroom, ?_, ?_⟩
  · have hself : (cache.entries.map Prod.fst).filter (· ≠ key) = cache.entries.map Prod.fst := by
      rw [List.filter_eq_self]
      exact fun k hmem => by simpa using fun heq : k = key => hk (heq ▸ hmem)
    rw [recentKeys_use rfl, ← take_cons_filter (nodup_recentKeys past) hroom, ← h.order, hself,
      List.map_take, List.map_cons]
  · intro entry hentry
    rcases List.mem_cons.1 (List.mem_of_mem_take hentry) with rfl | hold
    · exact if_pos rfl
    · have hne : entry.1 ≠ key := fun heq => hk (heq ▸ List.mem_map_of_mem hold)
      rw [lastStored_of_key_ne rfl hne]
      exact h.values _ hold

theorem mirrors_put {cache : Cache κ ν} {past : List (Event κ ν)} (h : cache.Mirrors past)
    (key : κ) (value : ν) : (cache.put key value).2.Mirrors (.stored key value :: past) := by
  unfold put
  split
  · next hv =>
    exact mirrors_use h rfl (if_pos rfl) ((peek?_isSome_iff cache key).1 (by simp [hv]))
  · next hv =>
    exact mirrors_put_new h value fun hmem => by
      have := (peek?_isSome_iff cache key).2 hmem
      simp [hv] at this

/-- Reading a key that is there is a use of it. -/
theorem mirrors_get {cache : Cache κ ν} {past : List (Event κ ν)} (h : cache.Mirrors past)
    {key : κ} {value : ν} (hv : cache.peek? key = some value) :
    (cache.use key value).Mirrors (.used key :: past) :=
  mirrors_use h rfl (h.peek? hv) ((peek?_isSome_iff cache key).1 (by simp [hv]))

/-- Looking a key up stores nothing. -/
theorem lastStored_append_used (key other : κ) (between past : List (Event κ ν)) :
    lastStored other (between ++ .used key :: past) = lastStored other (between ++ past) := by
  induction between with
  | nil => rfl
  | cons event between ih => cases event <;> simp [lastStored, ih]

/-- What a computation was needed for is stored last, so that looking it up before does not count
any more. -/
theorem mirrors_sought {cache : Cache κ ν} {between past : List (Event κ ν)} {key : κ} {value : ν}
    (h : cache.Mirrors (.stored key value :: (between ++ past))) :
    cache.Mirrors (.stored key value :: (between ++ .used key :: past)) := by
  refine ⟨h.capacity_pos, ?_, ?_⟩
  · rw [recentKeys_use_again rfl rfl]; exact h.order
  · intro entry hentry
    have hold := h.values entry hentry
    simp only [lastStored] at hold ⊢
    rwa [lastStored_append_used]

/-! ## Runs -/

mutual

/-- **Every operation keeps it.** -/
theorem mirrors_step {cache : Cache κ ν} {past : List (Event κ ν)} (h : cache.Mirrors past) :
    (operation : Operation κ ν) → (cache.step operation).2.Mirrors
      (eventsOf operation (cache.step operation).1 ++ past)
  | .get key => by
    rw [step]
    cases hv : cache.peek? key with
    | none => rw [get_of_missing hv]; simpa [eventsOf] using h
    | some value => rw [get_of_found hv]; simpa [eventsOf] using mirrors_get h hv
  | .put key value => by simpa [step, eventsOf] using mirrors_put h key value
  | .contains _ => by simpa [step, eventsOf] using h
  | .size => by simpa [step, eventsOf] using h
  | .isEmpty => by simpa [step, eventsOf] using h
  | .capacity => by simpa [step, eventsOf] using h
  | .clear => by simpa [step, eventsOf] using mirrors_clear h
  | .getOrInsert key value computation => by
    cases hv : cache.peek? key with
    | none =>
        rw [step_getOrInsert_missing hv]
        -- the look-up that missed comes before whatever the computation did
        have hput := mirrors_put (mirrors_run h computation) key value
        simpa [eventsOf] using mirrors_sought hput
    | some found =>
        rw [step_getOrInsert_found hv]
        simpa [eventsOf] using mirrors_get h hv

/-- **Every run keeps it.** -/
theorem mirrors_run {cache : Cache κ ν} {past : List (Event κ ν)} (h : cache.Mirrors past) :
    (operations : List (Operation κ ν)) → (cache.run operations).2.Mirrors
      (history operations (cache.run operations).1 ++ past)
  | [] => by simpa [run, history] using h
  | operation :: rest => by
    have hrest := mirrors_run (mirrors_step h operation) rest
    rw [run_cons]
    simpa [history, List.append_assoc] using hrest

end

/-! ## The contents of a cache -/

section Contents

variable {cache : Cache κ ν} {past : List (Event κ ν)}

theorem Mirrors.contains_iff (h : cache.Mirrors past) (key : κ) :
    cache.contains key = true ↔ key ∈ usedKeys (sinceClearing past) ∧
      (usedKeys (afterUse key past)).toFinset.card < cache.capacity := by
  unfold contains
  rw [peek?_isSome_iff, h.order, mem_take_recentKeys]

theorem Mirrors.peek?_eq (h : cache.Mirrors past) {key : κ} (hk : cache.contains key = true) :
    cache.peek? key = lastStored key past := by
  obtain ⟨value, hv⟩ := Option.isSome_iff_exists.1 hk
  rw [hv, h.peek? hv]

/-- Reading finds a key exactly if it is there, and then gives the value stored for it last. -/
theorem Mirrors.fst_get_eq (h : cache.Mirrors past) (key : κ) :
    (cache.get key).1 = if cache.contains key then lastStored key past else none := by
  rw [fst_get]
  split
  · next hk => exact h.peek?_eq hk
  · next hk =>
    unfold contains at hk
    simpa using hk

theorem Mirrors.size_eq (h : cache.Mirrors past) :
    cache.size = min cache.capacity (usedKeys (sinceClearing past)).toFinset.card := by
  have hlen := congrArg List.length h.order
  rw [List.length_map, List.length_take] at hlen
  rw [card_toFinset_eq]
  exact hlen

end Contents

/-! ## Every moment of a run -/

/--
`Meets cache operations state operation`: when `operations` are carried out from `cache` on,
`operation` is carried out at some point, and the cache is `state` then. It may be an operation of a
computation, or of a computation in a computation.
-/
inductive Meets : Cache κ ν → List (Operation κ ν) → Cache κ ν → Operation κ ν → Prop
  | first {cache : Cache κ ν} {operation : Operation κ ν} {rest : List (Operation κ ν)} :
      Meets cache (operation :: rest) cache operation
  | later {cache state : Cache κ ν} {operation met : Operation κ ν}
      {rest : List (Operation κ ν)} :
      Meets (cache.step operation).2 rest state met → Meets cache (operation :: rest) state met
  | within {cache state : Cache κ ν} {met : Operation κ ν} {key : κ} {value : ν}
      {computation rest : List (Operation κ ν)} :
      cache.peek? key = none → Meets cache computation state met →
      Meets cache (.getOrInsert key value computation :: rest) state met

mutual

theorem capacity_step (cache : Cache κ ν) :
    (operation : Operation κ ν) → (cache.step operation).2.capacity = cache.capacity
  | .get key => by simp [step]
  | .put key value => by simp [step]
  | .contains _ => by simp [step]
  | .size => by simp [step]
  | .isEmpty => by simp [step]
  | .capacity => by simp [step]
  | .clear => by simp [step, clear]
  | .getOrInsert key value computation => by
    cases hv : cache.peek? key with
    | none => rw [step_getOrInsert_missing hv, capacity_put]; exact capacity_run cache computation
    | some found => rw [step_getOrInsert_found hv]; rfl

theorem capacity_run (cache : Cache κ ν) :
    (operations : List (Operation κ ν)) → (cache.run operations).2.capacity = cache.capacity
  | [] => by simp [run]
  | operation :: rest => by
    rw [run_cons]
    exact (capacity_run _ rest).trans (capacity_step cache operation)

end

/-- The capacity never changes, not even while something is computed. -/
theorem capacity_of_meets {cache state : Cache κ ν} {operations : List (Operation κ ν)}
    {met : Operation κ ν} (h : Meets cache operations state met) :
    state.capacity = cache.capacity := by
  induction h with
  | first => rfl
  | later _ ih => exact ih.trans (capacity_step _ _)
  | within _ _ ih => exact ih

/--
**The contents of a cache, from its history.**

After any run, a key is there exactly if it was used since the last clearing and fewer other keys
were used after its last use than there is room for. Its value is the one stored for it last, and so
reading the key gives this value, and gives nothing for a key that is not there. The capacity is the
same at every moment of the run, and whenever a value is stored, what was there is given back. And
all this could be told without asking: leaving idle operations out of the run changes neither
another answer nor the cache.
-/
theorem contents_of_history (capacity : Nat) (operations : List (Operation κ ν)) :
    let start : Cache κ ν := empty capacity
    let answers := (start.run operations).1
    let cache := (start.run operations).2
    let past := history operations answers
    (∀ key, cache.contains key = true ↔ key ∈ usedKeys (sinceClearing past) ∧
      (usedKeys (afterUse key past)).toFinset.card < max capacity 1) ∧
    (∀ key, cache.contains key = true → cache.peek? key = lastStored key past) ∧
    (∀ key, (cache.get key).1 = if cache.contains key then lastStored key past else none) ∧
    cache.size = min (max capacity 1) (usedKeys (sinceClearing past)).toFinset.card ∧
    cache.capacity = max capacity 1 ∧
    (∀ state met, Meets start operations state met → state.capacity = max capacity 1) ∧
    (∀ state key value, Meets start operations state (.put key value) →
      (state.step (.put key value)).1 = .replaced (state.peek? key)) ∧
    ∀ fewer left, Thins operations answers fewer left → start.run fewer = (left, cache) := by
  intro start answers cache past
  -- the cache mirrors its history, and all that is said of what it holds follows from that
  have hmirrors : cache.Mirrors past := by
    have h := mirrors_run (mirrors_empty capacity) operations
    rwa [List.append_nil] at h
  have hcapacity : cache.capacity = max capacity 1 := capacity_run start operations
  refine ⟨fun key => ?_, fun key hk => hmirrors.peek?_eq hk, hmirrors.fst_get_eq, ?_, hcapacity,
    ?_, ?_, ?_⟩
  · rw [← hcapacity]; exact hmirrors.contains_iff key
  · rw [← hcapacity]; exact hmirrors.size_eq
  · exact fun state met hmeets => capacity_of_meets hmeets
  · exact fun state key value _ => step_put state key value
  · exact fun fewer left hthins => run_of_thins hthins start rfl

/-- A cache for two. Computing 3 stores 4 before 3 is stored, which leaves no room for 1. -/
theorem contents_of_history_two :
    let start : Cache Nat Nat := empty 2
    let operations : List (Operation Nat Nat) := [.put 1 10, .put 2 20, .contains 1,
      .getOrInsert 3 30 [.get 1, .get 7, .put 4 40], .put 4 41]
    let fewer : List (Operation Nat Nat) := [.put 1 10, .put 2 20,
      .getOrInsert 3 30 [.get 1, .put 4 40], .put 4 41]
    let left : List (Answer Nat) := [.replaced none, .replaced none,
      .provided 30 true [.found (some 10), .replaced none], .replaced (some 40)]
    let cache := (start.run operations).2
    let state : Cache Nat Nat := ⟨2, [(1, 10), (2, 20)]⟩
    (cache.contains 3 = true ∧ cache.peek? 3 = some 30 ∧ (cache.get 3).1 = some 30) ∧
    (cache.contains 1 = false ∧ (cache.get 1).1 = none) ∧
    (Meets start operations state (.put 4 40) ∧ state.capacity = 2 ∧
      (state.step (.put 4 40)).1 = .replaced none) ∧
    Thins operations (start.run operations).1 fewer left ∧ start.run fewer = (left, cache) := by
  intro start operations fewer left cache state
  obtain ⟨hkeys, hvalues, hget, -, -, hcapacity, hput, hfewer⟩ := contents_of_history 2 operations
  have hthree : cache.contains 3 = true := (hkeys 3).2 (by decide)
  have hone : cache.contains 1 = false := by
    rw [Bool.eq_false_iff, ne_eq, hkeys 1]; decide
  have hmeets : Meets start operations state (.put 4 40) :=
    .later (.later (.later (.within rfl (.later (.later .first)))))
  have hthins : Thins operations (start.run operations).1 fewer left :=
    .keep (.keep (.drop (.contains 1 _)
      (.within (.keep (.drop (.missed 7) (.keep .nil))) (.keep .nil))))
  have hread : (cache.get 3).1 = some 30 := by rw [hget 3, if_pos hthree]; rfl
  have hmissed : (cache.get 1).1 = none := by rw [hget 1, hone]; rfl
  exact ⟨⟨hthree, hvalues 3 hthree, hread⟩, ⟨hone, hmissed⟩,
    ⟨hmeets, hcapacity _ _ hmeets, hput _ _ _ hmeets⟩, hthins, hfewer _ _ hthins⟩

end Almanac.Cache
