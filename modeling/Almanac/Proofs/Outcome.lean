import Mathlib.Data.List.Forall2

/-!
# Steps that can fail

Where every input is either good or bad, and both show in the outcome, the outcome tells them
(`eq_ok_and_eq_error_iff`).

Going through a list and stopping at the first failure. It succeeds if every element does, the
results then stand in the order of the elements (`mapM_eq_ok_iff`), and it fails with the failure of
the first element that fails (`mapM_eq_error_iff`), so nothing behind that element is looked at.
-/

namespace Almanac

variable {α β σ ε : Type}

/-- What good and bad inputs lead to is all that there is, if there are no others. -/
theorem eq_ok_and_eq_error_iff {outcome : Except ε α} {Good : α → Prop} {Bad : ε → Prop}
    (hgood : ∀ a, Good a → outcome = .ok a) (hbad : ∀ e, Bad e → outcome = .error e)
    (htotal : (∃ a, Good a) ∨ ∃ e, Bad e) :
    (∀ a, outcome = .ok a ↔ Good a) ∧ ∀ e, outcome = .error e ↔ Bad e := by
  -- the outcome is the one that there is, and it is not another one as well
  rcases htotal with ⟨good, h⟩ | ⟨bad, h⟩
  · have houtcome := hgood good h
    refine ⟨fun a => ⟨?_, hgood a⟩, fun e => ⟨?_, hbad e⟩⟩
    · intro ha
      rw [houtcome] at ha
      cases ha
      exact h
    · intro he
      rw [houtcome] at he
      cases he
  · have houtcome := hbad bad h
    refine ⟨fun a => ⟨?_, hgood a⟩, fun e => ⟨?_, hbad e⟩⟩
    · intro ha
      rw [houtcome] at ha
      cases ha
    · intro he
      rw [houtcome] at he
      cases he
      exact h

theorem ok_bind (a : α) (next : α → Except ε β) : (Except.ok a >>= next) = next a := rfl

/-- A step succeeds behind another one if both do. -/
theorem bind_eq_ok_iff {x : Except ε α} {f : α → Except ε β} {b : β} :
    (x >>= f) = .ok b ↔ ∃ a, x = .ok a ∧ f a = .ok b := by
  cases x with
  | error e => simp [bind, Except.bind]
  | ok a => simp [bind, Except.bind]

theorem bind_pure_eq_ok_iff {x : Except ε α} {g : α → β} {b : β} :
    (do return g (← x) : Except ε β) = .ok b ↔ ∃ a, x = .ok a ∧ g a = b := by
  cases x with
  | error e => simp [bind, Except.bind]
  | ok a => simp [bind, Except.bind, pure, Except.pure]

theorem exists_bind_pure_iff {x : Except ε α} (g : α → β) :
    (∃ b, (do return g (← x) : Except ε β) = .ok b) ↔ ∃ a, x = .ok a := by
  cases x with
  | error e => simp [bind, Except.bind]
  | ok a => simp [bind, Except.bind, pure, Except.pure]

/-- Where no attempt fails, the first one that finds something decides. -/
theorem findSomeM?_ok (f : α → Option β) (l : List α) :
    (l.findSomeM? fun a => (.ok (f a) : Except ε (Option β))) = .ok (l.findSome? f) :=
  List.findSomeM?_pure

theorem mapM_cons_ok {f : α → Except ε β} {a : α} {b : β} (h : f a = .ok b) (rest : List α) :
    (a :: rest).mapM f = (rest.mapM f).map (b :: ·) := by
  rw [List.mapM_cons, h]
  cases hrest : rest.mapM f with
  | ok results => rfl
  | error e => rfl

theorem mapM_cons_error {f : α → Except ε β} {a : α} {e : ε} (h : f a = .error e)
    (rest : List α) : (a :: rest).mapM f = .error e := by
  rw [List.mapM_cons, h]
  rfl

theorem mapM_eq_ok_iff {f : α → Except ε β} {l : List α} {results : List β} :
    l.mapM f = .ok results ↔ List.Forall₂ (fun a b => f a = .ok b) l results := by
  -- the first element must succeed, and then the rest decides
  induction l generalizing results with
  | nil =>
      rw [List.mapM_nil, List.forall₂_nil_left_iff]
      exact ⟨fun h => (Except.ok.inj h).symm, fun h => h ▸ rfl⟩
  | cons a rest ih =>
      rw [List.forall₂_cons_left_iff]
      cases ha : f a with
      | error e =>
          rw [mapM_cons_error ha]
          simp
      | ok b =>
          rw [mapM_cons_ok ha]
          refine ⟨?_, ?_⟩
          · intro h
            cases hrest : rest.mapM f with
            | error e =>
                rw [hrest] at h
                cases h
            | ok others =>
                rw [hrest] at h
                exact ⟨b, others, rfl, ih.1 hrest, (Except.ok.inj h).symm⟩
          · intro h
            obtain ⟨b', others, hb, hothers, rfl⟩ := h
            rw [ih.2 hothers, Except.ok.inj hb]
            rfl

theorem mapM_of_first_failure {f : α → Except ε β} {before after : List α} {a : α} {e : ε}
    (hbefore : ∀ earlier ∈ before, ∃ b, f earlier = .ok b) (ha : f a = .error e) :
    (before ++ a :: after).mapM f = .error e := by
  induction before with
  | nil => exact mapM_cons_error ha after
  | cons first before ih =>
      rw [List.forall_mem_cons] at hbefore
      obtain ⟨⟨b, hfirst⟩, hrest⟩ := hbefore
      rw [List.cons_append, mapM_cons_ok hfirst, ih hrest]
      rfl

theorem exists_first_failure {f : α → Except ε β} {l : List α} {e : ε} (h : l.mapM f = .error e) :
    ∃ before a after, l = before ++ a :: after ∧
      (∀ earlier ∈ before, ∃ b, f earlier = .ok b) ∧ f a = .error e := by
  induction l with
  | nil => cases h
  | cons first rest ih =>
      cases hfirst : f first with
      | error e' =>
          rw [mapM_cons_error hfirst] at h
          cases h
          exact ⟨[], first, rest, rfl, by simp, hfirst⟩
      | ok b =>
          rw [mapM_cons_ok hfirst] at h
          cases hrest : rest.mapM f with
          | ok others =>
              rw [hrest] at h
              cases h
          | error e' =>
              rw [hrest] at h
              cases h
              -- the failure is one of the rest, and the first element has succeeded before it
              obtain ⟨before, a, after, rfl, hbefore, ha⟩ := ih hrest
              refine ⟨first :: before, a, after, rfl, ?_, ha⟩
              rw [List.forall_mem_cons]
              exact ⟨⟨b, hfirst⟩, hbefore⟩

/-- **The first failure decides**, and all elements before it have succeeded. -/
theorem mapM_eq_error_iff {f : α → Except ε β} {l : List α} {e : ε} :
    l.mapM f = .error e ↔ ∃ before a after, l = before ++ a :: after ∧
      (∀ earlier ∈ before, ∃ b, f earlier = .ok b) ∧ f a = .error e := by
  refine ⟨exists_first_failure, ?_⟩
  intro h
  obtain ⟨before, a, after, rfl, hbefore, ha⟩ := h
  exact mapM_of_first_failure hbefore ha

theorem exists_mapM_eq_ok_iff {f : α → Except ε β} {l : List α} :
    (∃ results, l.mapM f = .ok results) ↔ ∀ a ∈ l, ∃ b, f a = .ok b := by
  induction l with
  | nil => exact ⟨fun _ => by simp, fun _ => ⟨[], rfl⟩⟩
  | cons first rest ih =>
      rw [List.forall_mem_cons, ← ih]
      cases hfirst : f first with
      | error e =>
          rw [mapM_cons_error hfirst]
          simp
      | ok b =>
          rw [mapM_cons_ok hfirst]
          cases rest.mapM f with
          | ok others => simp [Except.map]
          | error e => simp [Except.map]

/-- Whatever stands behind a failure changes nothing. -/
theorem mapM_append_failing {f : α → Except ε β} {a : α} {e : ε} (h : f a = .error e)
    (before after after' : List α) :
    (before ++ a :: after).mapM f = (before ++ a :: after').mapM f := by
  induction before with
  | nil => rw [List.nil_append, List.nil_append, mapM_cons_error h, mapM_cons_error h]
  | cons first before ih =>
      rw [List.cons_append, List.cons_append]
      cases hfirst : f first with
      | error e' => rw [mapM_cons_error hfirst, mapM_cons_error hfirst]
      | ok b => rw [mapM_cons_ok hfirst, mapM_cons_ok hfirst, ih]

/-- Steps that differ in how they report failures lead to outcomes that do. -/
theorem mapM_mapError {f g : α → Except ε β} {report : ε → ε} {l : List α}
    (h : ∀ a ∈ l, g a = (f a).mapError report) : l.mapM g = (l.mapM f).mapError report := by
  induction l with
  | nil => rfl
  | cons first rest ih =>
      rw [List.forall_mem_cons] at h
      obtain ⟨hfirst, hrest⟩ := h
      cases hf : f first with
      | error e =>
          rw [hf] at hfirst
          rw [mapM_cons_error hf, mapM_cons_error hfirst]
          rfl
      | ok b =>
          rw [hf] at hfirst
          rw [mapM_cons_ok hf, mapM_cons_ok hfirst, ih hrest]
          cases rest.mapM f with
          | error e => rfl
          | ok others => rfl

/-- What holds of any two results of the same element holds of the results in the same place. -/
theorem forall₂_of_common {γ : Type} {R : α → β → Prop} {S : α → γ → Prop} {T : β → γ → Prop}
    (hT : ∀ a b c, R a b → S a c → T b c) {l : List α} {results : List β} {others : List γ}
    (h : List.Forall₂ R l results) (h' : List.Forall₂ S l others) :
    List.Forall₂ T results others := by
  induction h generalizing others with
  | nil =>
      cases h'
      exact .nil
  | cons hR _ ih =>
      cases h' with
      | cons hS hrest => exact .cons (hT _ _ _ hR hS) (ih hrest)

/-- If both ways lead from every element to the same results, some result is common to both. -/
theorem exists_common_of_forall₂ {R S : α → β → Prop} {l : List α} {results : List β}
    (h : List.Forall₂ R l results) (h' : List.Forall₂ S l results) {a : α} (ha : a ∈ l) :
    ∃ b, R a b ∧ S a b := by
  induction h with
  | nil => cases ha
  | cons hR _ ih =>
      cases h' with
      | cons hS hrest =>
          rcases List.mem_cons.1 ha with rfl | hmem
          · exact ⟨_, hR, hS⟩
          · exact ih hrest hmem

/-- What every result has beside it, the results in the same place have beside them. -/
theorem exists_forall₂_of_forall₂ {γ : Type} {R : α → β → Prop} {S : α → γ → Prop}
    {T : γ → β → Prop} (hT : ∀ a b, R a b → ∃ c, S a c ∧ T c b) {l : List α} {results : List β}
    (h : List.Forall₂ R l results) :
    ∃ others, List.Forall₂ S l others ∧ List.Forall₂ T others results := by
  induction h with
  | nil => exact ⟨[], .nil, .nil⟩
  | cons hR _ ih =>
      obtain ⟨c, hS, hbeside⟩ := hT _ _ hR
      obtain ⟨others, hothers, hresults⟩ := ih
      exact ⟨c :: others, .cons hS hothers, .cons hbeside hresults⟩

/-- Steps that succeed whatever was gathered before them succeed one by one. -/
theorem exists_foldlM_eq_ok_iff {f : σ → α → Except ε σ} {fits : α → Prop}
    (hf : ∀ s a, (∃ s', f s a = .ok s') ↔ fits a) (l : List α) (s : σ) :
    (∃ s', l.foldlM f s = .ok s') ↔ ∀ a ∈ l, fits a := by
  induction l generalizing s with
  | nil => exact ⟨fun _ => by simp, fun _ => ⟨s, rfl⟩⟩
  | cons first rest ih =>
      rw [List.forall_mem_cons, List.foldlM_cons, ← hf s]
      cases hfirst : f s first with
      | error e => simp [bind, Except.bind]
      | ok s' => simpa [bind, Except.bind] using ih s'

end Almanac
