import Almanac.Cache.History
import Mathlib.Data.Finset.Card

/-!
# What a run of a cache has used

A run is looked at from outside: from its operations and their answers alone one can read off which
keys were used, which values were stored and when the cache was cleared. That list, latest first, is
the history of the run, and it says everything about the cache that the run leaves behind.

This file defines the history and the questions that are asked of it, and proves what they have to
do with the order of last use: the keys used since the last clearing, each at its last use, are
`recentKeys`, and `mem_take_recentKeys` counts the keys in front of one of them.
-/

namespace Almanac.Cache

/-- What happens to a key, or to all of them, when an operation is carried out. -/
inductive Event (κ ν : Type)
  /-- The key is looked up. -/
  | used (key : κ)
  /-- A value is stored under the key. -/
  | stored (key : κ) (value : ν)
  | cleared

/-- The key that an event uses. -/
def Event.key? {κ ν : Type} : Event κ ν → Option κ
  | used key => some key
  | stored key _ => some key
  | cleared => none

/-- Whether an event clears the cache. -/
def Event.isClearing {κ ν : Type} : Event κ ν → Bool
  | cleared => true
  | _ => false

variable {κ ν : Type}

mutual

/-- The events of an operation that was answered so, latest first. Reading a key is an event if the
key is found; a value that is asked for is looked up in any case and stored if it was computed. -/
def eventsOf : Operation κ ν → Answer ν → List (Event κ ν)
  | .get key, .found (some _) => [.used key]
  | .put key value, _ => [.stored key value]
  | .clear, _ => [.cleared]
  | .getOrInsert key _ _, .provided _ false _ => [.used key]
  | .getOrInsert key value computation, .provided _ true answers =>
    .stored key value :: (history computation answers ++ [.used key])
  | _, _ => []

/-- The events of a run that was answered so, latest first. -/
def history : List (Operation κ ν) → List (Answer ν) → List (Event κ ν)
  | operation :: rest, answer :: answers => history rest answers ++ eventsOf operation answer
  | _, _ => []

end

/-- The events since the last clearing. -/
def sinceClearing (past : List (Event κ ν)) : List (Event κ ν) :=
  past.takeWhile fun event => !event.isClearing

/-- The keys that events use, with repetitions. -/
def usedKeys (events : List (Event κ ν)) : List κ := events.filterMap Event.key?

variable [DecidableEq κ]

/-- The events after the last use of `key`. -/
def afterUse (key : κ) (past : List (Event κ ν)) : List (Event κ ν) :=
  past.takeWhile fun event => event.key? ≠ some key

/-- The value that was last stored under `key`. -/
def lastStored (key : κ) : List (Event κ ν) → Option ν
  | [] => none
  | .stored k value :: past => if k = key then some value else lastStored key past
  | _ :: past => lastStored key past

/-- The keys used since the last clearing, each once, in the order of their last uses. -/
def recentKeys (past : List (Event κ ν)) : List κ := (usedKeys (sinceClearing past)).eraseDups

/-! ## Lists without their repetitions -/

theorem nodup_eraseDups : ∀ l : List κ, l.eraseDups.Nodup
  | [] => by simp
  | a :: l => by
      have : (l.filter fun b => !b == a).length < l.length + 1 :=
        Nat.lt_succ_of_le (List.length_filter_le _ _)
      rw [List.eraseDups_cons, List.nodup_cons]
      exact ⟨by simp, nodup_eraseDups _⟩
termination_by l => l.length

theorem eraseDups_filter (p : κ → Bool) :
    ∀ l : List κ, (l.filter p).eraseDups = l.eraseDups.filter p
  | [] => by simp
  | a :: l => by
      have : (l.filter fun b => !b == a).length < l.length + 1 :=
        Nat.lt_succ_of_le (List.length_filter_le _ _)
      have ih := eraseDups_filter p (l.filter fun b => !b == a)
      have hcomm :
          (l.filter p).filter (fun b => !b == a) = (l.filter fun b => !b == a).filter p := by
        rw [List.filter_filter, List.filter_filter]
        simp only [Bool.and_comm]
      rw [List.eraseDups_cons, List.filter_cons]
      split
      · next ha => rw [List.eraseDups_cons, hcomm, ih, List.filter_cons_of_pos ha]
      · next ha =>
        -- the first element goes, and with it nothing else that is still there
        rw [List.filter_cons_of_neg ha, ← ih, ← hcomm]
        congr 1
        symm
        rw [List.filter_eq_self]
        intro b hb
        have hpb := (List.mem_filter.1 hb).2
        by_cases hba : b = a
        · exact absurd (hba ▸ hpb) ha
        · simp [hba]
termination_by l => l.length

/-- How many different elements there are. -/
theorem card_toFinset_eq (l : List κ) : l.toFinset.card = l.eraseDups.length := by
  rw [← List.toFinset_card_of_nodup (nodup_eraseDups l)]
  congr 1
  ext a
  simp

/-- An element stands among the first `n` different ones exactly if fewer than `n` different ones
come before it. -/
theorem mem_take_eraseDups (key : κ) (l : List κ) (n : Nat) :
    key ∈ l.eraseDups.take n ↔ key ∈ l ∧ (l.takeWhile (· ≠ key)).toFinset.card < n := by
  by_cases hmem : key ∈ l
  · -- split at the first occurrence: what is counted is what stands in front of it
    obtain ⟨front, back, rfl, hfront⟩ := List.eq_append_cons_of_mem hmem
    have htake : (front ++ key :: back).takeWhile (· ≠ key) = front := by
      rw [List.takeWhile_append_of_pos (fun a ha => by
        simpa using fun he : a = key => hfront (he ▸ ha))]
      simp
    have hsplit :
        ∃ others, (front ++ key :: back).eraseDups = front.eraseDups ++ key :: others := by
      rw [List.eraseDups_append]
      simp [List.removeAll, hfront, List.eraseDups_cons]
    obtain ⟨others, hsplit⟩ := hsplit
    have hfront' : key ∉ front.eraseDups := by simpa using hfront
    rw [htake, card_toFinset_eq, hsplit, List.take_append]
    refine ⟨?_, ?_⟩
    · intro h
      refine ⟨hmem, ?_⟩
      -- it does not stand in front, so there must be room behind the front
      rcases List.mem_append.1 h with h | h
      · exact absurd (List.mem_of_mem_take h) hfront'
      · by_contra hle
        rw [Nat.sub_eq_zero_of_le (Nat.not_lt.1 hle)] at h
        simp at h
    · intro h
      obtain ⟨-, hlt⟩ := h
      obtain ⟨m, hm⟩ : ∃ m, n - front.eraseDups.length = m + 1 :=
        ⟨n - front.eraseDups.length - 1, by omega⟩
      rw [hm]
      simp
  · refine ⟨fun h => absurd ?_ hmem, fun h => absurd h.1 hmem⟩
    simpa using List.mem_of_mem_take h

/-- Taking an element to the front of the first `n` is taking it to the front of all. -/
theorem take_cons_filter {key : κ} {n : Nat} {l : List κ} (hl : l.Nodup) (hn : 0 < n) :
    ((key :: (l.take n).filter (· ≠ key)).take n) = (key :: l.filter (· ≠ key)).take n := by
  -- the key is in front on both sides, so it is the rest that is compared
  obtain ⟨m, rfl⟩ : ∃ m, n = m + 1 := ⟨n - 1, by omega⟩
  rw [List.take_succ_cons, List.take_succ_cons]
  congr 1
  induction l generalizing m with
  | nil => simp
  | cons a l ih =>
      obtain ⟨ha, hl⟩ := List.nodup_cons.1 hl
      by_cases hak : a = key
      · -- the key itself goes, and has no second place to go from
        subst hak
        have hself : ∀ k : List κ, a ∉ k → k.filter (· ≠ a) = k := fun k hk => by
          rw [List.filter_eq_self]
          exact fun b hb => by simpa using fun he : b = a => hk (he ▸ hb)
        have h1 := hself (l.take m) fun h => ha (List.mem_of_mem_take h)
        simp only [List.take_succ_cons, ne_eq, not_true_eq_false, decide_false, Bool.false_eq_true,
          not_false_eq_true, List.filter_cons_of_neg]
        rw [hself l ha, h1, List.take_take, Nat.min_self]
      · simp only [List.take_succ_cons, ne_eq, hak, not_false_eq_true, decide_true,
          List.filter_cons_of_pos]
        -- any other element stays where it is and takes one place
        cases m with
        | zero => simp
        | succ m =>
            rw [List.take_succ_cons, List.take_succ_cons]
            congr 1
            exact ih hl m (Nat.succ_pos m)

/-! ## The order of last use -/

omit [DecidableEq κ] in
theorem sinceClearing_clear {event : Event κ ν} (h : event.key? = none) (past : List (Event κ ν)) :
    sinceClearing (event :: past) = [] := by
  cases event with
  | used => simp [Event.key?] at h
  | stored => simp [Event.key?] at h
  | cleared => rfl

omit [DecidableEq κ] in
theorem sinceClearing_use {event : Event κ ν} {key : κ} (h : event.key? = some key)
    (past : List (Event κ ν)) : sinceClearing (event :: past) = event :: sinceClearing past := by
  cases event with
  | used => rfl
  | stored => rfl
  | cleared => simp [Event.key?] at h

theorem recentKeys_clear {event : Event κ ν} (h : event.key? = none) (past : List (Event κ ν)) :
    recentKeys (event :: past) = [] := by
  simp [recentKeys, sinceClearing_clear h, usedKeys]

/-- A use of a key takes it to the front. -/
theorem recentKeys_use {event : Event κ ν} {key : κ} (h : event.key? = some key)
    (past : List (Event κ ν)) :
    recentKeys (event :: past) = key :: (recentKeys past).filter (· ≠ key) := by
  unfold recentKeys usedKeys
  rw [sinceClearing_use h, List.filterMap_cons_some h, List.eraseDups_cons, eraseDups_filter]
  congr 1
  refine List.filter_congr fun k _ => ?_
  rw [Bool.eq_iff_iff]
  simp

/-- An earlier use of a key does not matter once the key is used again. -/
theorem recentKeys_use_again {event earlier : Event κ ν} {key : κ} (h : event.key? = some key)
    (he : earlier.key? = some key) (between past : List (Event κ ν)) :
    recentKeys (event :: (between ++ earlier :: past)) =
      recentKeys (event :: (between ++ past)) := by
  rw [recentKeys_use h, recentKeys_use h]
  congr 1
  -- the two lists differ in `key` at most, and the later use filters it out of both
  induction between with
  | nil => rw [List.nil_append, recentKeys_use he]; simp [List.filter_filter]
  | cons first between ih =>
      rw [List.cons_append, List.cons_append]
      cases hf : first.key? with
      | none => rw [recentKeys_clear hf, recentKeys_clear hf]
      | some k =>
          rw [recentKeys_use hf, recentKeys_use hf, List.filter_cons, List.filter_cons,
            List.filter_comm, ih, List.filter_comm]

theorem nodup_recentKeys (past : List (Event κ ν)) : (recentKeys past).Nodup := nodup_eraseDups _

/-- As long as a key was used since the last clearing, the events after its last use are among
those since the last clearing. -/
theorem usedKeys_afterUse {key : κ} : ∀ {past : List (Event κ ν)},
    key ∈ usedKeys (sinceClearing past) →
    usedKeys (afterUse key past) = (usedKeys (sinceClearing past)).takeWhile (· ≠ key)
  | [], h => by simp [sinceClearing, usedKeys] at h
  | event :: past, h => by
      cases he : event.key? with
      | none => rw [sinceClearing_clear he] at h; simp [usedKeys] at h
      | some k =>
          rw [sinceClearing_use he] at h ⊢
          unfold usedKeys at h ⊢
          unfold afterUse
          rw [List.filterMap_cons_some he] at h ⊢
          -- either this use is the one looked for, or both sides take it and go on
          by_cases hk : k = key
          · simp [he, hk]
          · have hpast : key ∈ usedKeys (sinceClearing past) :=
              (List.mem_cons.1 h).resolve_left fun e => hk e.symm
            have hne : ¬ event.key? = some key := by rw [he]; simpa using hk
            rw [List.takeWhile_cons_of_pos (by simpa using hne), List.filterMap_cons_some he,
              List.takeWhile_cons_of_pos (by simpa using hk)]
            congr 1
            exact usedKeys_afterUse hpast

/-- **The law of the order of last use.** A key is one of the `n` that were used last exactly if it
was used since the last clearing and fewer than `n` other keys were used after its last use. -/
theorem mem_take_recentKeys (key : κ) (past : List (Event κ ν)) (n : Nat) :
    key ∈ (recentKeys past).take n ↔
      key ∈ usedKeys (sinceClearing past) ∧ (usedKeys (afterUse key past)).toFinset.card < n := by
  unfold recentKeys
  rw [mem_take_eraseDups]
  refine ⟨?_, ?_⟩
  · intro hrecent
    obtain ⟨h, hn⟩ := hrecent
    exact ⟨h, by rwa [usedKeys_afterUse h]⟩
  · intro hused
    obtain ⟨h, hn⟩ := hused
    exact ⟨h, by rwa [usedKeys_afterUse h] at hn⟩

end Almanac.Cache
