import Almanac.Assoc
import Mathlib.Data.List.Induction

/-!
# Association lists of many pairs

Pairs that are inserted one after the other leave each key once, in the order in which the keys were
first met, with the value that was met last (`keys_ofPairs`, `mem_ofPairs_iff`). Where no key is
repeated, nothing changes (`ofPairs_of_nodup`).
-/

namespace Almanac.Assoc

variable {κ ν : Type}

theorem mem_keys_of_mem {entries : List (κ × ν)} {key : κ} {value : ν}
    (h : (key, value) ∈ entries) : key ∈ keys entries :=
  List.mem_map_of_mem (f := Prod.fst) h

theorem keys_append_singleton (pairs : List (κ × ν)) (pair : κ × ν) :
    keys (pairs ++ [pair]) = keys pairs ++ [pair.1] :=
  List.map_append

/-- The last pair with this key has this value. -/
def Last (pairs : List (κ × ν)) (key : κ) (value : ν) : Prop :=
  ∃ before after, pairs = before ++ (key, value) :: after ∧ key ∉ keys after

theorem last_nil {key : κ} {value : ν} : ¬ Last [] key value := by
  rintro ⟨before, after, hpairs, -⟩
  cases before <;> cases hpairs

theorem last_cons_iff {pair : κ × ν} {pairs : List (κ × ν)} {key : κ} {value : ν} :
    Last (pair :: pairs) key value ↔
      (pair = (key, value) ∧ key ∉ keys pairs) ∨ Last pairs key value := by
  refine ⟨?_, ?_⟩
  · rintro ⟨before, after, hpairs, hafter⟩
    cases before with
    | nil =>
      cases hpairs
      exact .inl ⟨rfl, hafter⟩
    | cons first before =>
      cases hpairs
      exact .inr ⟨before, after, rfl, hafter⟩
  · rintro (⟨rfl, hpairs⟩ | ⟨before, after, rfl, hafter⟩)
    · exact ⟨[], pairs, rfl, hpairs⟩
    · exact ⟨pair :: before, after, rfl, hafter⟩

theorem Last.mem {pairs : List (κ × ν)} {key : κ} {value : ν} (h : Last pairs key value) :
    (key, value) ∈ pairs := by
  obtain ⟨before, after, rfl, -⟩ := h
  exact List.mem_append_right _ List.mem_cons_self

theorem Last.mem_keys {pairs : List (κ × ν)} {key : κ} {value : ν} (h : Last pairs key value) :
    key ∈ keys pairs :=
  mem_keys_of_mem h.mem

/-- A key that is there has a last value. -/
theorem exists_last_of_mem_keys [DecidableEq κ] {pairs : List (κ × ν)} {key : κ}
    (h : key ∈ keys pairs) : ∃ value, Last pairs key value := by
  induction pairs with
  | nil => cases h
  | cons pair pairs ih =>
    by_cases hpairs : key ∈ keys pairs
    · obtain ⟨value, hlast⟩ := ih hpairs
      exact ⟨value, last_cons_iff.2 (.inr hlast)⟩
    · rw [keys_cons, List.mem_cons, or_iff_left hpairs] at h
      exact ⟨pair.2, last_cons_iff.2 (.inl ⟨by rw [h], hpairs⟩)⟩

variable [DecidableEq κ]

theorem insert_of_notMem {key : κ} (value : ν) {entries : List (κ × ν)} (h : key ∉ keys entries) :
    insert key value entries = entries ++ [(key, value)] := by
  induction entries with
  | nil => rfl
  | cons pair rest ih =>
    rw [keys_cons, List.mem_cons, not_or] at h
    rw [insert, if_neg (Ne.symm h.1), ih h.2, List.cons_append]

theorem ofPairs_append (pairs : List (κ × ν)) (pair : κ × ν) :
    ofPairs (pairs ++ [pair]) = insert pair.1 pair.2 (ofPairs pairs) := by
  rw [ofPairs, List.foldl_append]
  rfl

theorem nodup_keys_ofPairs (pairs : List (κ × ν)) : (keys (ofPairs pairs)).Nodup := by
  induction pairs using List.reverseRecOn with
  | nil => exact List.nodup_nil
  | append_singleton pairs pair ih =>
    rw [ofPairs_append]
    exact nodup_keys_insert _ _ ih

theorem eraseDups_append_singleton (l : List κ) (a : κ) :
    (l ++ [a]).eraseDups = if a ∈ l then l.eraseDups else l.eraseDups ++ [a] := by
  rw [List.eraseDups_append, List.cons_removeAll, List.nil_removeAll]
  by_cases ha : a ∈ l
  · simp [ha]
  · simp [ha, List.eraseDups_cons]

/-- **The order is that of the first pairs.** -/
theorem keys_ofPairs (pairs : List (κ × ν)) : keys (ofPairs pairs) = (keys pairs).eraseDups := by
  induction pairs using List.reverseRecOn with
  | nil => rfl
  | append_singleton pairs pair ih =>
    have hseen : pair.1 ∈ keys (ofPairs pairs) ↔ pair.1 ∈ keys pairs := by
      rw [ih, List.mem_eraseDups]
    rw [ofPairs_append, keys_append_singleton, eraseDups_append_singleton, ← ih]
    by_cases hkey : pair.1 ∈ keys pairs
    · rw [if_pos hkey, keys_insert_of_mem _ (hseen.2 hkey)]
    · rw [if_neg hkey, insert_of_notMem _ (fun h => hkey (hseen.1 h))]
      exact keys_append_singleton _ _

theorem get?_eq_some_iff {key : κ} {value : ν} {entries : List (κ × ν)}
    (h : (keys entries).Nodup) : get? key entries = some value ↔ (key, value) ∈ entries := by
  induction entries with
  | nil => simp [get?]
  | cons pair entries ih =>
    rw [keys_cons, List.nodup_cons] at h
    rw [get?, List.mem_cons]
    split
    · next hkey =>
      subst hkey
      have habsent : (pair.1, value) ∉ entries := fun hmem => h.1 (mem_keys_of_mem hmem)
      rw [or_iff_left habsent, Option.some.injEq]
      exact ⟨fun hvalue => hvalue ▸ rfl, fun hpair => (congrArg Prod.snd hpair).symm⟩
    · next hkey =>
      have hother : (key, value) ≠ pair := fun hpair => hkey (congrArg Prod.fst hpair).symm
      rw [or_iff_right hother, ih h.2]

theorem last_append_iff {pairs : List (κ × ν)} {pair : κ × ν} {key : κ} {value : ν} :
    Last (pairs ++ [pair]) key value ↔
      if pair.1 = key then pair.2 = value else Last pairs key value := by
  induction pairs with
  | nil =>
    rw [List.nil_append, last_cons_iff, or_iff_left last_nil]
    obtain ⟨first, last⟩ := pair
    by_cases hkey : first = key
    · simp [hkey]
    · simp [hkey, last_nil]
  | cons other pairs ih =>
    rw [List.cons_append, last_cons_iff, ih]
    by_cases hkey : pair.1 = key
    · simp [keys_append_singleton, hkey]
    · simp [keys_append_singleton, hkey, Ne.symm hkey, last_cons_iff]

/-- **The values are those of the last pairs.** -/
theorem get?_ofPairs_eq_some_iff {pairs : List (κ × ν)} {key : κ} {value : ν} :
    get? key (ofPairs pairs) = some value ↔ Last pairs key value := by
  induction pairs using List.reverseRecOn with
  | nil => exact ⟨nofun, fun h => absurd h last_nil⟩
  | append_singleton pairs pair ih =>
    rw [ofPairs_append, get?_insert, last_append_iff, ← ih]
    split <;> simp

/-- There is one last value of a key. -/
theorem Last.unique {pairs : List (κ × ν)} {key : κ} {value other : ν} (h : Last pairs key value)
    (h' : Last pairs key other) : value = other :=
  Option.some.inj ((get?_ofPairs_eq_some_iff.2 h).symm.trans (get?_ofPairs_eq_some_iff.2 h'))

theorem mem_ofPairs_iff {pairs : List (κ × ν)} {key : κ} {value : ν} :
    (key, value) ∈ ofPairs pairs ↔ Last pairs key value := by
  rw [← get?_eq_some_iff (nodup_keys_ofPairs pairs), get?_ofPairs_eq_some_iff]

/-- Without repetition, nothing is lost or moved. -/
theorem ofPairs_of_nodup {pairs : List (κ × ν)} (h : (keys pairs).Nodup) :
    ofPairs pairs = pairs := by
  induction pairs using List.reverseRecOn with
  | nil => rfl
  | append_singleton pairs pair ih =>
    rw [keys_append_singleton, List.nodup_append] at h
    rw [ofPairs_append, ih h.1]
    exact insert_of_notMem _ fun hmem => h.2.2 _ hmem _ List.mem_cons_self rfl

end Almanac.Assoc
