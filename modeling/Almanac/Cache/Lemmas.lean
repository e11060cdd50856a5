import Almanac.Cache.History

/-!
# What single operations do

One lemma for what each operation of a cache answers and what it leaves, so that nothing further on
opens an operation: reading and storing, and the steps of a run.
-/

namespace Almanac.Cache

variable {κ ν : Type} [DecidableEq κ]

/-! ## Keys -/

/-- A key is found exactly if it stands in the cache. -/
theorem peek?_isSome_iff (cache : Cache κ ν) (key : κ) :
    (cache.peek? key).isSome = true ↔ key ∈ cache.entries.map Prod.fst := by
  unfold peek?
  induction cache.entries with
  | nil => simp
  | cons pair rest ih =>
    rcases pair with ⟨k, v⟩
    by_cases hk : key = k
    · subst hk; simp
    · rw [List.lookup_cons, beq_eq_false_iff_ne.2 hk]
      simp [hk, ih]

/-- Without a key that it has, a cache is smaller. -/
theorem length_others_lt {key : κ} {entries : List (κ × ν)} (h : key ∈ entries.map Prod.fst) :
    (others key entries).length < entries.length := by
  obtain ⟨pair, hp, rfl⟩ := List.mem_map.1 h
  unfold others
  apply List.length_filter_lt_length_iff_exists.2
  exact ⟨pair, hp, by simp⟩

/-! ## Reading and storing -/

/-- Reading a key that is not there changes nothing. -/
theorem get_of_missing {cache : Cache κ ν} {key : κ} (h : cache.peek? key = none) :
    cache.get key = (none, cache) := by unfold get; rw [h]

/-- Reading a key that is there uses it. -/
theorem get_of_found {cache : Cache κ ν} {key : κ} {value : ν} (h : cache.peek? key = some value) :
    cache.get key = (some value, cache.use key value) := by unfold get; rw [h]

/-- Reading answers what is there. -/
theorem fst_get (cache : Cache κ ν) (key : κ) : (cache.get key).1 = cache.peek? key := by
  unfold get
  cases cache.peek? key <;> rfl

@[simp] theorem capacity_get (cache : Cache κ ν) (key : κ) :
    (cache.get key).2.capacity = cache.capacity := by
  unfold get; split <;> rfl

@[simp] theorem capacity_put (cache : Cache κ ν) (key : κ) (value : ν) :
    (cache.put key value).2.capacity = cache.capacity := by
  unfold put; split <;> rfl

/-! ## Steps of a run -/

/-- What a run does, in terms of what its first operation and the rest do. -/
theorem run_cons (cache : Cache κ ν) (operation : Operation κ ν) (rest : List (Operation κ ν)) :
    cache.run (operation :: rest) =
      ((cache.step operation).1 :: ((cache.step operation).2.run rest).1,
        ((cache.step operation).2.run rest).2) := by
  rw [run]

/-- A computation is carried out exactly if the key is not there. -/
theorem step_getOrInsert_missing {cache : Cache κ ν} {key : κ} (h : cache.peek? key = none)
    (value : ν) (computation : List (Operation κ ν)) :
    cache.step (.getOrInsert key value computation) =
      (.provided value true (cache.run computation).1,
        ((cache.run computation).2.put key value).2) := by
  rw [step, get_of_missing h]

theorem step_getOrInsert_found {cache : Cache κ ν} {key : κ} {found : ν}
    (h : cache.peek? key = some found) (value : ν) (computation : List (Operation κ ν)) :
    cache.step (.getOrInsert key value computation) =
      (.provided found false [], cache.use key found) := by
  rw [step, get_of_found h]

theorem step_get (cache : Cache κ ν) (key : κ) :
    (cache.step (.get key)).1 = .found (cache.peek? key) := by
  rw [step, ← fst_get]

/-- Storing gives back what was there. -/
theorem step_put (cache : Cache κ ν) (key : κ) (value : ν) :
    (cache.step (.put key value)).1 = .replaced (cache.peek? key) := by
  rw [step]
  unfold put
  cases cache.peek? key <;> rfl

end Almanac.Cache
