import Almanac.Cache.Lemmas

/-!
# What stands in a cache

A cache that only ever has right values stored in it has only right values. `Holds` says what right
means: a relation between keys and values. Every operation that stores nothing keeps it, storing a
right value keeps it, and so a value that is asked for is right however it was come by.
-/

namespace Almanac.Cache

variable {κ ν : Type} [DecidableEq κ]

/-- Every entry is right. -/
def Holds (right : κ → ν → Prop) (cache : Cache κ ν) : Prop :=
  ∀ entry ∈ cache.entries, right entry.1 entry.2

variable {right : κ → ν → Prop} {cache : Cache κ ν}

omit [DecidableEq κ] in
theorem holds_empty (capacity : Nat) : (empty capacity : Cache κ ν).Holds right := by
  simp [Holds, empty]

omit [DecidableEq κ] in
theorem holds_clear (cache : Cache κ ν) : cache.clear.Holds right := by simp [Holds, clear]

/-- The value that a cache has for a key stands in it. -/
theorem mem_of_peek? {key : κ} {value : ν} (h : cache.peek? key = some value) :
    (key, value) ∈ cache.entries := by
  unfold peek? at h
  obtain ⟨front, back, heq, -⟩ := List.lookup_eq_some_iff.1 h
  rw [heq]
  simp

theorem Holds.peek? (h : cache.Holds right) {key : κ} {value : ν}
    (hv : cache.peek? key = some value) : right key value := h _ (mem_of_peek? hv)

theorem holds_use (h : cache.Holds right) {key : κ} {value : ν} (hv : right key value) :
    (cache.use key value).Holds right := by
  intro entry hentry
  rcases List.mem_cons.1 hentry with rfl | hold
  · exact hv
  · exact h entry (List.mem_filter.1 hold).1

theorem holds_put (h : cache.Holds right) {key : κ} {value : ν} (hv : right key value) :
    (cache.put key value).2.Holds right := by
  unfold put
  split
  · exact holds_use h hv
  · intro entry hentry
    rcases List.mem_cons.1 (List.mem_of_mem_take hentry) with rfl | hold
    · exact hv
    · exact h entry hold

theorem holds_get (h : cache.Holds right) (key : κ) : (cache.get key).2.Holds right := by
  unfold get
  split
  · next hv => exact holds_use h (h.peek? hv)
  · exact h

/-- The value that reading gives is right. -/
theorem Holds.get (h : cache.Holds right) {key : κ} {value : ν}
    (hv : (cache.get key).1 = some value) : right key value := by
  unfold Cache.get at hv
  split at hv
  · next found hfound =>
    rw [← Option.some.inj hv]
    exact h.peek? hfound
  · cases hv

/-- **Asking for a value** gives a right one and leaves only right ones, if computing does. -/
theorem holds_getOrInsertWith (h : cache.Holds right) (key : κ)
    (compute : Cache κ ν → ν × Cache κ ν)
    (hcompute : ∀ cache : Cache κ ν, cache.Holds right →
      right key (compute cache).1 ∧ (compute cache).2.Holds right) :
    right key (cache.getOrInsertWith key compute).1 ∧
      (cache.getOrInsertWith key compute).2.Holds right := by
  have hget := holds_get h key
  unfold getOrInsertWith
  split
  · next value after hv =>
    rw [hv] at hget
    exact ⟨h.get (by rw [hv]), hget⟩
  · next after hv =>
    rw [hv] at hget
    obtain ⟨hvalue, hafter⟩ := hcompute after hget
    exact ⟨hvalue, holds_put hafter hvalue⟩

end Almanac.Cache
