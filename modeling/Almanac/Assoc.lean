/-!
# Association lists that keep their order

A list of keyed values in which every key stands once. A key that is inserted again takes its new
value in its old place, so the order is that of first insertion and the value that of the last one.
Everything that is looked up by name here, from the members of a JSON object to the feasts of a
registry, is such a list.
-/

namespace Almanac.Assoc

variable {κ ν : Type} [DecidableEq κ]

/-- The value of `key`. -/
def get? (key : κ) : List (κ × ν) → Option ν
  | [] => none
  | (k, v) :: rest => if k = key then some v else get? key rest

/-- Gives `key` the value `value`, in its place if it has one and at the end otherwise. -/
def insert (key : κ) (value : ν) : List (κ × ν) → List (κ × ν)
  | [] => [(key, value)]
  | (k, v) :: rest => if k = key then (k, value) :: rest else (k, v) :: insert key value rest

/-- Inserts as `insert` does and also gives back the value that was replaced. -/
def exchange (key : κ) (value : ν) : List (κ × ν) → Option ν × List (κ × ν)
  | [] => (none, [(key, value)])
  | (k, v) :: rest =>
    if k = key then (some v, (k, value) :: rest)
    else
      let (old, entries) := exchange key value rest
      (old, (k, v) :: entries)

/-- Insertion of every pair in turn into the empty list. -/
def ofPairs (pairs : List (κ × ν)) : List (κ × ν) :=
  pairs.foldl (fun entries pair => insert pair.1 pair.2 entries) []

/-- The keys in order. -/
def keys (entries : List (κ × ν)) : List κ := entries.map Prod.fst

omit [DecidableEq κ] in
@[simp] theorem keys_nil : keys ([] : List (κ × ν)) = [] := rfl

omit [DecidableEq κ] in
@[simp] theorem keys_cons (pair : κ × ν) (rest : List (κ × ν)) :
    keys (pair :: rest) = pair.1 :: keys rest := rfl

theorem get?_insert (key other : κ) (value : ν) (entries : List (κ × ν)) :
    get? other (insert key value entries) =
      if key = other then some value else get? other entries := by
  induction entries with
  | nil => simp [insert, get?]
  | cons pair rest ih =>
    simp only [insert]
    split
    · next h => subst h; by_cases hk : pair.1 = other <;> simp [get?, hk]
    · next h =>
      by_cases hk : pair.1 = other
      · subst hk; simp [get?, Ne.symm h]
      · simp [get?, hk, ih]

theorem get?_isSome_iff (key : κ) (entries : List (κ × ν)) :
    (get? key entries).isSome = true ↔ key ∈ keys entries := by
  induction entries with
  | nil => simp [get?]
  | cons pair rest ih =>
    rw [get?, keys_cons, List.mem_cons]
    split
    · next h => simp [h]
    · next h => rw [ih, or_iff_right (Ne.symm h)]

theorem mem_keys_insert (key other : κ) (value : ν) (entries : List (κ × ν)) :
    other ∈ keys (insert key value entries) ↔ other = key ∨ other ∈ keys entries := by
  induction entries with
  | nil => simp [insert]
  | cons pair rest ih =>
    simp only [insert]
    split
    · next h => subst h; simp
    · simp only [keys_cons, List.mem_cons, ih]
      constructor
      · rintro (h | h | h) <;> simp [h]
      · rintro (h | h | h) <;> simp [h]

/-- Keys stay distinct. -/
theorem nodup_keys_insert (key : κ) (value : ν) {entries : List (κ × ν)}
    (h : (keys entries).Nodup) : (keys (insert key value entries)).Nodup := by
  induction entries with
  | nil => simp [insert]
  | cons pair rest ih =>
    simp only [keys_cons, List.nodup_cons] at h
    simp only [insert]
    split
    · next hk => subst hk; simpa using h
    · next hk => simp [mem_keys_insert, hk, h.1, ih h.2]

/-- A key that is there keeps its place. -/
theorem keys_insert_of_mem {key : κ} (value : ν) {entries : List (κ × ν)}
    (h : key ∈ keys entries) : keys (insert key value entries) = keys entries := by
  induction entries with
  | nil => cases h
  | cons pair rest ih =>
    rw [insert]
    split
    · rfl
    · next hother =>
      rw [keys_cons, List.mem_cons] at h
      rw [keys_cons, keys_cons, ih (h.resolve_left (Ne.symm hother))]

/-- An exchange gives back what was looked up before, and leaves what an insertion leaves. -/
theorem exchange_eq (key : κ) (value : ν) (entries : List (κ × ν)) :
    exchange key value entries = (get? key entries, insert key value entries) := by
  induction entries with
  | nil => rfl
  | cons pair rest ih => by_cases h : pair.1 = key <;> simp [exchange, get?, insert, h, ih]

end Almanac.Assoc
