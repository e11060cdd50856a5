import Almanac.Cache.Lemmas

/-!
# Operations that leave no trace

Questions about a cache, and reading a key that is not there, change nothing. So they can be left
out of a run, from nested computations too, and every other answer and the cache at the end stay the
same: this is `run_of_thins`.
-/

namespace Almanac.Cache

variable {κ ν : Type}

/-- The operation, answered so, was a question or a fruitless reading. -/
inductive Idle : Operation κ ν → Answer ν → Prop
  | contains (key : κ) (answer : Answer ν) : Idle (.contains key) answer
  | size (answer : Answer ν) : Idle .size answer
  | isEmpty (answer : Answer ν) : Idle .isEmpty answer
  | capacity (answer : Answer ν) : Idle .capacity answer
  | missed (key : κ) : Idle (.get key) (.found none)

/--
`Thins operations answers fewer left`: leaving idle operations out of a run that was answered with
`answers` gives the operations `fewer`, and `left` are the answers to those that stay.

Idle operations may go at any depth. A computation that was not needed may be any other one.
-/
inductive Thins : List (Operation κ ν) → List (Answer ν) →
    List (Operation κ ν) → List (Answer ν) → Prop
  | nil : Thins [] [] [] []
  | drop {operation : Operation κ ν} {answer : Answer ν} {rest fewer : List (Operation κ ν)}
      {answers left : List (Answer ν)} :
      Idle operation answer → Thins rest answers fewer left →
      Thins (operation :: rest) (answer :: answers) fewer left
  | keep {operation : Operation κ ν} {answer : Answer ν} {rest fewer : List (Operation κ ν)}
      {answers left : List (Answer ν)} :
      Thins rest answers fewer left →
      Thins (operation :: rest) (answer :: answers) (operation :: fewer) (answer :: left)
  | within {key : κ} {value : ν} {computation thinner rest fewer : List (Operation κ ν)}
      {inner kept answers left : List (Answer ν)} :
      Thins computation inner thinner kept → Thins rest answers fewer left →
      Thins (.getOrInsert key value computation :: rest) (.provided value true inner :: answers)
        (.getOrInsert key value thinner :: fewer) (.provided value true kept :: left)
  | unneeded {key : κ} {value found : ν} {computation other rest fewer : List (Operation κ ν)}
      {answers left : List (Answer ν)} :
      Thins rest answers fewer left →
      Thins (.getOrInsert key value computation :: rest) (.provided found false [] :: answers)
        (.getOrInsert key value other :: fewer) (.provided found false [] :: left)

variable [DecidableEq κ]

/-! ## Functions and runs -/

/-- Asking for a value is the same whether what is computed is a function of the cache or a run. -/
theorem getOrInsertWith_eq_step (cache : Cache κ ν) (key : κ) (value : ν)
    (computation : List (Operation κ ν)) :
    (cache.getOrInsertWith key fun cache => (value, (cache.run computation).2)).2 =
      (cache.step (.getOrInsert key value computation)).2 := by
  unfold getOrInsertWith
  cases hv : cache.peek? key with
  | none => rw [step_getOrInsert_missing hv, get_of_missing hv]
  | some found => rw [step_getOrInsert_found hv, get_of_found hv]

/-! ## Leaving out -/

/-- An idle operation leaves the cache as it is. -/
theorem step_of_idle {cache : Cache κ ν} {operation : Operation κ ν}
    (h : Idle operation (cache.step operation).1) : (cache.step operation).2 = cache := by
  generalize hanswer : (cache.step operation).1 = answer at h
  cases h with
  | contains => rw [step]
  | size => rw [step]
  | isEmpty => rw [step]
  | capacity => rw [step]
  | missed key =>
      rw [step] at hanswer ⊢
      cases hv : cache.peek? key with
      | none => rw [get_of_missing hv]
      | some value => rw [get_of_found hv] at hanswer; simp at hanswer

/-- **Idle operations can be left out of a run.** -/
theorem run_of_thins {operations fewer : List (Operation κ ν)} {answers left : List (Answer ν)}
    (h : Thins operations answers fewer left) :
    ∀ cache : Cache κ ν, (cache.run operations).1 = answers →
      cache.run fewer = (left, (cache.run operations).2) := by
  induction h with
  | nil => intro cache _; simp [run]
  | @drop operation answer rest fewer answers left hidle _ ih =>
      intro cache hrun
      rw [run_cons] at hrun ⊢
      obtain ⟨hfirst, hrest⟩ := List.cons.inj hrun
      subst hfirst
      -- the cache is the same with and without the operation, so the rest runs alike
      have hsame := step_of_idle hidle
      rw [hsame] at hrest ⊢
      exact ih cache hrest
  | @keep operation answer rest fewer answers left _ ih =>
      intro cache hrun
      rw [run_cons] at hrun ⊢
      obtain ⟨hfirst, hrest⟩ := List.cons.inj hrun
      rw [run_cons, ih _ hrest, hfirst]
  | @within key value computation thinner rest fewer inner kept answers left _ _ ihin ihrest =>
      intro cache hrun
      rw [run_cons] at hrun ⊢
      obtain ⟨hfirst, hrest⟩ := List.cons.inj hrun
      cases hv : cache.peek? key with
      | none =>
          rw [step_getOrInsert_missing hv] at hfirst hrest ⊢
          have hinner := ihin cache (Answer.provided.inj hfirst).2.2
          rw [run_cons, step_getOrInsert_missing hv, hinner, ihrest _ hrest]
      | some found =>
          -- the answer says that the computation was needed
          rw [step_getOrInsert_found hv] at hfirst
          exact absurd (Answer.provided.inj hfirst).2.1 (by simp)
  | @unneeded key value found computation other rest fewer answers left _ ih =>
      intro cache hrun
      rw [run_cons] at hrun ⊢
      obtain ⟨hfirst, hrest⟩ := List.cons.inj hrun
      cases hv : cache.peek? key with
      | none =>
          rw [step_getOrInsert_missing hv] at hfirst
          exact absurd (Answer.provided.inj hfirst).2.1 (by simp)
      | some there =>
          rw [step_getOrInsert_found hv] at hfirst hrest ⊢
          rw [run_cons, step_getOrInsert_found hv, ih _ hrest, hfirst]

end Almanac.Cache
