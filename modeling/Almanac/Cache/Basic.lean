/-!
# Caches that keep what was used last

A cache holds a limited number of keyed values. Reading a value or storing one counts as a use of
its key, and when a new key comes to a full cache, the key whose last use is longest ago has to go.
The cache is the list of its entries, last used first, so a use moves its entry to the front and
the end of the list is what leaves.
-/

namespace Almanac

/-- Keyed values, last used first. -/
structure Cache (κ ν : Type) where
  /-- How many entries the cache holds at most. -/
  capacity : Nat
  entries : List (κ × ν)

namespace Cache

variable {κ ν : Type} [DecidableEq κ]

/-- The empty cache. It holds one entry at least. -/
def empty (capacity : Nat) : Cache κ ν := ⟨max capacity 1, []⟩

/-- How many entries the cache has. -/
def size (cache : Cache κ ν) : Nat := cache.entries.length

/-- Whether the cache has no entries. -/
def isEmpty (cache : Cache κ ν) : Bool := cache.entries.isEmpty

/-- The value of `key`, without using it. -/
def peek? (cache : Cache κ ν) (key : κ) : Option ν := cache.entries.lookup key

/-- Whether the cache has the key. Asking is no use. -/
def contains (cache : Cache κ ν) (key : κ) : Bool := (cache.peek? key).isSome

/-- The entries of all keys but one. -/
def others (key : κ) (entries : List (κ × ν)) : List (κ × ν) := entries.filter (·.1 ≠ key)

/-- Moves the entry of `key` to the front, with this value. -/
def use (cache : Cache κ ν) (key : κ) (value : ν) : Cache κ ν :=
  { cache with entries := (key, value) :: others key cache.entries }

/-- The value of `key`, which is used by that. -/
def get (cache : Cache κ ν) (key : κ) : Option ν × Cache κ ν :=
  match cache.peek? key with
  | some value => (some value, cache.use key value)
  | none => (none, cache)

/-- Stores a value under `key`, which is used by that, and gives back the value that it replaces. A
new key drives out the entry at the end of a full cache. -/
def put (cache : Cache κ ν) (key : κ) (value : ν) : Option ν × Cache κ ν :=
  match cache.peek? key with
  | some old => (some old, cache.use key value)
  | none => (none, { cache with entries := ((key, value) :: cache.entries).take cache.capacity })

/-- The cache without its entries. -/
def clear (cache : Cache κ ν) : Cache κ ν := { cache with entries := [] }

/-- The value of `key`; if there is none, the value that `compute` gives is stored under the key.
Computing may change the cache, and may even store the key, whose value is then replaced. -/
def getOrInsertWith (cache : Cache κ ν) (key : κ) (compute : Cache κ ν → ν × Cache κ ν) :
    ν × Cache κ ν :=
  match cache.get key with
  | (some value, cache) => (value, cache)
  | (none, cache) =>
    let (value, cache) := compute cache
    (value, (cache.put key value).2)

end Cache

end Almanac
