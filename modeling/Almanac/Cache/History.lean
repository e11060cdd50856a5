import Almanac.Cache.Basic

/-!
# Runs of a cache

What is done to a cache, as data: single operations, and computations that are themselves runs of
operations on the same cache. Carrying out a run gives the answer of every operation and the cache
at the end.
-/

namespace Almanac.Cache

/-- Something done to a cache. -/
inductive Operation (κ ν : Type)
  | get (key : κ)
  | put (key : κ) (value : ν)
  | contains (key : κ)
  | size
  | isEmpty
  | capacity
  | clear
  /-- If `key` is missing, `computation` is carried out and `value` stored. -/
  | getOrInsert (key : κ) (value : ν) (computation : List (Operation κ ν))

/-- What an operation answers. -/
inductive Answer (ν : Type)
  | found (value : Option ν)
  | replaced (value : Option ν)
  | truth (value : Bool)
  | count (value : Nat)
  | cleared
  /-- The value, whether it had to be computed, and the answers to the computation. -/
  | provided (value : ν) (computed : Bool) (computation : List (Answer ν))

variable {κ ν : Type} [DecidableEq κ]

mutual

/-- Carries out one operation. -/
def step (cache : Cache κ ν) : Operation κ ν → Answer ν × Cache κ ν
  | .get key =>
    let (value, cache) := cache.get key
    (.found value, cache)
  | .put key value =>
    let (old, cache) := cache.put key value
    (.replaced old, cache)
  | .contains key => (.truth (cache.contains key), cache)
  | .size => (.count cache.size, cache)
  | .isEmpty => (.truth cache.isEmpty, cache)
  | .capacity => (.count cache.capacity, cache)
  | .clear => (.cleared, cache.clear)
  | .getOrInsert key value computation =>
    match cache.get key with
    | (some found, cache) => (.provided found false [], cache)
    | (none, cache) =>
      let (answers, cache) := run cache computation
      (.provided value true answers, (cache.put key value).2)

/-- Carries out operations one after the other. -/
def run (cache : Cache κ ν) : List (Operation κ ν) → List (Answer ν) × Cache κ ν
  | [] => ([], cache)
  | operation :: rest =>
    let (answer, cache) := step cache operation
    let (answers, cache) := run cache rest
    (answer :: answers, cache)

end

end Almanac.Cache
