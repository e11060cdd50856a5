import Almanac.Proofs.Assoc
import Almanac.Proofs.Configuration.Shape

/-!
# What the members of a value say

Properties are gathered member by member, and a member of one name leaves alone what other names
say. So each property comes from the last member of its name and from no other (`ReadsField`). What
a day is called and of what kind it is can then be told from the value itself: the name is the text
under the language in `name` or, if there is none, the text in `_name` (`displayName_eq_some_iff`),
and the kind is the text in `type` (`kind_eq_some_iff`).
-/

namespace Almanac.Properties

open Assoc (Last)

/-- What the value says under which name: the members of an object, and the items of an array under
the names that they stand for. -/
def said : Json.Value → List (String × Json.Value)
  | .object members => members
  | .sequence items => ["name", "_name", "type"].zip items
  | _ => []

/-- The value has a name of its own for the language. -/
def NamesOwn (language : String) (value : Json.Value) (name : String) : Prop :=
  ∃ names, Last (said value) "name" (.object names) ∧
    Assoc.get? language names = some (.text name)

/-- What the value calls the day in the language. -/
inductive Calls (language : String) (value : Json.Value) : String → Prop
  | own {name : String} (own : NamesOwn language value name) : Calls language value name
  /-- The name of all languages that have none of their own. -/
  | shared {name : String} (unnamed : ∀ own, ¬ NamesOwn language value own)
      (shared : Last (said value) "_name" (.text name)) : Calls language value name

/-! ## One field -/

/-- The field is what `shape` makes of a member with this name, and other members leave it alone. -/
def ReadsField {α : Type} (name : String) (shape : Json.Value → Except Json.Mismatch (Option α))
    (field : Properties → Option α) : Prop :=
  ∀ properties member read, withMember properties member = .ok read →
    if member.1 = name then shape member.2 = .ok (field read) else field read = field properties

variable {α : Type} {name : String} {shape : Json.Value → Except Json.Mismatch (Option α)}
  {field : Properties → Option α} {members : List (String × Json.Value)}
  {value : Json.Value} {properties read : Properties}

/-- After all members, the field is what the last one of its name says, if there is one. -/
theorem ReadsField.of_foldlM (h : ReadsField name shape field)
    (hread : members.foldlM withMember properties = .ok read) :
    (∃ value, Last members name value ∧ shape value = .ok (field read)) ∨
      name ∉ Assoc.keys members ∧ field read = field properties := by
  induction members generalizing properties with
  | nil =>
    cases hread
    exact .inr ⟨List.not_mem_nil, rfl⟩
  | cons member members ih =>
    rw [List.foldlM_cons, bind_eq_ok_iff] at hread
    obtain ⟨next, hnext, hrest⟩ := hread
    have hmember := h properties member next hnext
    rcases ih hrest with ⟨value, hlast, hvalue⟩ | ⟨habsent, hsame⟩
    · exact .inl ⟨value, Assoc.last_cons_iff.2 (.inr hlast), hvalue⟩
    · -- the field is settled by this member or was settled before it
      by_cases hname : member.1 = name
      · rw [if_pos hname, ← hsame] at hmember
        refine .inl ⟨member.2, Assoc.last_cons_iff.2 (.inl ⟨?_, habsent⟩), hmember⟩
        rw [← hname]
      · rw [if_neg hname, ← hsame] at hmember
        refine .inr ⟨?_, hmember⟩
        rw [Assoc.keys_cons, List.mem_cons, not_or]
        exact ⟨Ne.symm hname, habsent⟩

theorem ReadsField.of_last (h : ReadsField name shape field)
    (hread : members.foldlM withMember properties = .ok read) (hlast : Last members name value) :
    shape value = .ok (field read) := by
  rcases h.of_foldlM hread with ⟨other, hother, hshape⟩ | ⟨habsent, -⟩
  · rw [hlast.unique hother, hshape]
  · exact absurd hlast.mem_keys habsent

/-- A field of which nothing was said before is what the last member of its name says. -/
theorem ReadsField.eq_some_iff (h : ReadsField name shape field)
    (hread : members.foldlM withMember properties = .ok read) (hstart : field properties = .none)
    {a : α} :
    field read = some a ↔ ∃ value, Last members name value ∧ shape value = .ok (some a) := by
  refine ⟨?_, ?_⟩
  · intro hfield
    rcases h.of_foldlM hread with ⟨value, hlast, hshape⟩ | ⟨-, hsame⟩
    · exact ⟨value, hlast, hfield ▸ hshape⟩
    · rw [hsame, hstart] at hfield
      cases hfield
  · rintro ⟨value, hlast, hshape⟩
    rw [h.of_last hread hlast] at hshape
    exact Except.ok.inj hshape

/-! ## The three fields -/

/-- What taking up a member can do: it sets the field of its name, or nothing if it has another. -/
theorem withMember_cases {member : String × Json.Value}
    (h : withMember properties member = .ok read) :
    (member.1 = "name" ∧ ∃ names, optional texts member.2 = .ok names ∧
      read = { properties with names }) ∨
    (member.1 = "_name" ∧ ∃ sharedName, optional text member.2 = .ok sharedName ∧
      read = { properties with sharedName }) ∨
    (member.1 = "type" ∧ ∃ kind, optional text member.2 = .ok kind ∧
      read = { properties with kind }) ∨
    (member.1 ∉ ["name", "_name", "type"] ∧ read = properties) := by
  obtain ⟨name, value⟩ := member
  by_cases hname : name = "name"
  · subst hname
    obtain ⟨names, hnames, rfl⟩ := bind_pure_eq_ok_iff.1 h
    exact .inl ⟨rfl, names, hnames, rfl⟩
  · by_cases hshared : name = "_name"
    · subst hshared
      obtain ⟨sharedName, hsharedName, rfl⟩ := bind_pure_eq_ok_iff.1 h
      exact .inr (.inl ⟨rfl, sharedName, hsharedName, rfl⟩)
    · by_cases hkind : name = "type"
      · subst hkind
        obtain ⟨kind, hkind, rfl⟩ := bind_pure_eq_ok_iff.1 h
        exact .inr (.inr (.inl ⟨rfl, kind, hkind, rfl⟩))
      · rw [withMember_of_other hname hshared hkind] at h
        exact .inr (.inr (.inr ⟨by simp [hname, hshared, hkind], (Except.ok.inj h).symm⟩))

theorem readsField_names : ReadsField "name" (optional texts) names := by
  intro properties member read h
  rcases withMember_cases h with ⟨hname, names, hnames, rfl⟩ | ⟨hname, _, -, rfl⟩ |
    ⟨hname, _, -, rfl⟩ | ⟨hname, rfl⟩
  · rw [if_pos hname, hnames]
  · simp [hname]
  · simp [hname]
  · simp at hname
    simp [hname]

theorem readsField_sharedName : ReadsField "_name" (optional text) sharedName := by
  intro properties member read h
  rcases withMember_cases h with ⟨hname, _, -, rfl⟩ | ⟨hname, sharedName, hshared, rfl⟩ |
    ⟨hname, _, -, rfl⟩ | ⟨hname, rfl⟩
  · simp [hname]
  · rw [if_pos hname, hshared]
  · simp [hname]
  · simp at hname
    simp [hname]

theorem readsField_kind : ReadsField "type" (optional text) kind := by
  intro properties member read h
  rcases withMember_cases h with ⟨hname, _, -, rfl⟩ | ⟨hname, _, -, rfl⟩ |
    ⟨hname, kind, hkind, rfl⟩ | ⟨hname, rfl⟩
  · simp [hname]
  · simp [hname]
  · rw [if_pos hname, hkind]
  · simp at hname
    simp [hname]

/-- Properties are read from what the value says, whether it is an object or an array. -/
theorem foldlM_of_ofValue (h : ofValue value = .ok properties) :
    (said value).foldlM withMember none = .ok properties := by
  cases value with
  | object members => exact h
  | sequence items =>
    obtain ⟨read, hread, hlength⟩ := bind_eq_ok_iff.1 h
    split at hlength
    · cases hlength
    · rw [← Except.ok.inj hlength]
      exact hread
  | null | boolean | number | text => cases h

/-! ## Texts -/

theorem optional_eq_ok_some_iff {a : α} {shape : Json.Value → Except Json.Mismatch α} :
    optional shape value = .ok (some a) ↔ value ≠ .null ∧ shape value = .ok a := by
  by_cases hnull : value = .null
  · subst hnull
    simp [optional]
  · have hshape : optional shape value = (do return some (← shape value)) := by
      cases value with
      | null => exact absurd rfl hnull
      | boolean | number | text | sequence | object => rfl
    rw [hshape, bind_pure_eq_ok_iff]
    simp [hnull]

theorem optional_text_eq_ok_iff {s : String} :
    optional text value = .ok (some s) ↔ value = .text s := by
  rw [optional_eq_ok_some_iff]
  cases value <;> simp [text]

theorem optional_texts_eq_ok_iff {names : List (String × String)} :
    optional texts value = .ok (some names) ↔
      ∃ members, value = .object members ∧ texts (.object members) = .ok names := by
  rw [optional_eq_ok_some_iff]
  cases value with
  | object members => simp
  | null | boolean | number | text | sequence => simp [texts]

/-- The texts of an object are those that its members are. -/
theorem get?_texts {language name : String} {names : List (String × String)}
    (h : texts (.object members) = .ok names) :
    Assoc.get? language names = some name ↔
      Assoc.get? language members = some (.text name) := by
  -- member by member the same names, and texts for the values that are texts
  have hpairs : List.Forall₂ (fun member pair => member = (pair.1, Json.Value.text pair.2))
      members names := by
    refine (mapM_eq_ok_iff.1 h).imp fun member pair hpair => ?_
    obtain ⟨s, hs, rfl⟩ := bind_pure_eq_ok_iff.1 hpair
    obtain ⟨language, value⟩ := member
    cases value with
    | text s' => cases hs; rfl
    | null | boolean | number | sequence | object => cases hs
  clear h
  induction hpairs with
  | nil => simp [Assoc.get?]
  | @cons member pair members names hpair _ ih =>
    subst hpair
    rw [Assoc.get?, Assoc.get?]
    split
    · simp
    · exact ih

/-! ## Name and kind -/

/-- A field that must be a text is the text that the value says under its name. -/
theorem ReadsField.text_eq_some_iff {field : Properties → Option String}
    (h : ReadsField name (optional text) field) (hread : ofValue value = .ok properties)
    (hstart : field none = .none) {s : String} :
    field properties = some s ↔ Last (said value) name (.text s) := by
  simp only [h.eq_some_iff (foldlM_of_ofValue hread) hstart, optional_text_eq_ok_iff,
    exists_eq_right]

theorem sharedName_eq_some_iff (h : ofValue value = .ok properties) {name : String} :
    properties.sharedName = some name ↔ Last (said value) "_name" (.text name) :=
  readsField_sharedName.text_eq_some_iff h rfl

/-- **The kind is the text in `type`.** -/
theorem kind_eq_some_iff (h : ofValue value = .ok properties) {kindName : String} :
    properties.kind = some kindName ↔ Last (said value) "type" (.text kindName) :=
  readsField_kind.text_eq_some_iff h rfl

variable {language : String}

theorem bind_names_eq_some_iff (h : ofValue value = .ok properties) {name : String} :
    properties.names.bind (Assoc.get? language) = some name ↔ NamesOwn language value name := by
  have hread := foldlM_of_ofValue h
  rw [Option.bind_eq_some_iff]
  refine ⟨?_, ?_⟩
  · rintro ⟨names, hnames, hname⟩
    obtain ⟨_, hlast, hshape⟩ := (readsField_names.eq_some_iff hread rfl).1 hnames
    obtain ⟨members, rfl, htexts⟩ := optional_texts_eq_ok_iff.1 hshape
    exact ⟨members, hlast, (get?_texts htexts).1 hname⟩
  · rintro ⟨members, hlast, hname⟩
    obtain ⟨names, htexts, hnames⟩ := bind_pure_eq_ok_iff.1 (readsField_names.of_last hread hlast)
    exact ⟨names, hnames.symm, (get?_texts htexts).2 hname⟩

/-- **The name is the one in `name` under the language, or else the one in `_name`.** -/
theorem displayName_eq_some_iff (h : ofValue value = .ok properties) {name : String} :
    properties.displayName language = some name ↔ Calls language value name := by
  have hnames : ∀ own, properties.names.bind (Assoc.get? language) = some own ↔
      NamesOwn language value own := fun own => bind_names_eq_some_iff h
  unfold displayName
  -- the shared name counts only where the language has none
  cases hown : properties.names.bind (Assoc.get? language) with
  | some own =>
    rw [Option.some_or, Option.some_inj]
    refine ⟨?_, ?_⟩
    · rintro rfl
      exact .own ((hnames own).1 hown)
    · intro hcalls
      cases hcalls with
      | own hname => exact Option.some.inj (hown.symm.trans ((hnames name).2 hname))
      | shared unnamed _ => exact absurd ((hnames own).1 hown) (unnamed own)
  | none =>
    have hunnamed : ∀ own, ¬ NamesOwn language value own := by
      intro own hname
      rw [(hnames own).2 hname] at hown
      cases hown
    rw [Option.none_or, sharedName_eq_some_iff h]
    refine ⟨fun hshared => .shared hunnamed hshared, ?_⟩
    intro hcalls
    cases hcalls with
    | own hname => exact absurd hname (hunnamed name)
    | shared _ hshared => exact hshared

end Almanac.Properties
