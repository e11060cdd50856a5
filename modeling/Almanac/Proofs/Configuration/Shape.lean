import Almanac.Configuration.Properties
import Almanac.Proofs.Outcome

/-!
# Which values are properties

Reading properties gathers them member by member, but whether it succeeds depends on each member
alone: on the name, what it asks of a value, and the value. `exists_ofValue_iff` says which values
are read, without reading them.
-/

namespace Almanac.Properties

/-- The value is a text, or null. -/
def IsText (value : Json.Value) : Prop := value = .null ∨ ∃ s, value = .text s

/-- The value is an object of texts, or null. -/
def IsTexts (value : Json.Value) : Prop :=
  value = .null ∨ ∃ members, value = .object members ∧ ∀ member ∈ members, ∃ s, member.2 = .text s

/-- The value is what the member's name asks for. Most names ask for nothing. -/
structure Fits (member : String × Json.Value) : Prop where
  names : member.1 = "name" → IsTexts member.2
  sharedName : member.1 = "_name" → IsText member.2
  kind : member.1 = "type" → IsText member.2

/-- The value has the shape of properties: an object whose members fit, or an array of up to three
values that fit the three names in order. -/
def WellShaped : Json.Value → Prop
  | .object members => ∀ member ∈ members, Fits member
  | .sequence items =>
    items.length ≤ 3 ∧ ∀ member ∈ ["name", "_name", "type"].zip items, Fits member
  | _ => False

theorem exists_text_iff (value : Json.Value) :
    (∃ s, text value = .ok s) ↔ ∃ s, value = .text s := by
  cases value <;> simp [text]

theorem exists_texts_iff (value : Json.Value) :
    (∃ names, texts value = .ok names) ↔
      ∃ members, value = .object members ∧ ∀ member ∈ members, ∃ s, member.2 = .text s := by
  cases value with
  | object members =>
      have hmember : ∀ member : String × Json.Value,
          (∃ named, (do return (member.1, ← text member.2) : Except Json.Mismatch _) = .ok named) ↔
            ∃ s, member.2 = .text s := by
        intro member
        rw [← exists_text_iff]
        exact exists_bind_pure_iff (Prod.mk member.1)
      simp only [texts, exists_mapM_eq_ok_iff, hmember, Json.Value.object.injEq, exists_eq_left']
  | null | boolean | number | text | sequence => simp [texts]

theorem exists_optional_iff {α : Type} {shape : Json.Value → Except Json.Mismatch α}
    {fits : Json.Value → Prop} (h : ∀ value, (∃ a, shape value = .ok a) ↔ fits value)
    (value : Json.Value) :
    (∃ a, optional shape value = .ok a) ↔ value = .null ∨ fits value := by
  by_cases hvalue : value = .null
  · subst hvalue
    exact ⟨fun _ => Or.inl rfl, fun _ => ⟨.none, rfl⟩⟩
  · have hshape : optional shape value = (do return some (← shape value)) := by
      cases value with
      | null => exact absurd rfl hvalue
      | boolean | number | text | sequence | object => rfl
    rw [hshape, exists_bind_pure_iff, h value, or_iff_right hvalue]

theorem exists_optional_text_iff (value : Json.Value) :
    (∃ s, optional text value = .ok s) ↔ IsText value :=
  exists_optional_iff exists_text_iff value

theorem exists_optional_texts_iff (value : Json.Value) :
    (∃ names, optional texts value = .ok names) ↔ IsTexts value :=
  exists_optional_iff exists_texts_iff value

/-- A member with another name than the three says nothing. -/
theorem withMember_of_other {member : String × Json.Value} (hname : member.1 ≠ "name")
    (hshared : member.1 ≠ "_name") (hkind : member.1 ≠ "type") (properties : Properties) :
    withMember properties member = .ok properties := by
  simp [withMember, fields, Assoc.get?, Ne.symm hname, Ne.symm hshared, Ne.symm hkind]

/-- A member is taken up exactly if it fits, whatever was taken up before it. -/
theorem exists_withMember_iff (properties : Properties) (member : String × Json.Value) :
    (∃ properties', withMember properties member = .ok properties') ↔ Fits member := by
  obtain ⟨name, value⟩ := member
  by_cases hname : name = "name"
  · subst hname
    have hfits : Fits ("name", value) ↔ IsTexts value :=
      ⟨fun h => h.names rfl, fun h => ⟨fun _ => h, by simp, by simp⟩⟩
    rw [hfits, ← exists_optional_texts_iff]
    exact exists_bind_pure_iff fun names => { properties with names }
  · by_cases hshared : name = "_name"
    · subst hshared
      have hfits : Fits ("_name", value) ↔ IsText value :=
        ⟨fun h => h.sharedName rfl, fun h => ⟨by simp, fun _ => h, by simp⟩⟩
      rw [hfits, ← exists_optional_text_iff]
      exact exists_bind_pure_iff fun sharedName => { properties with sharedName }
    · by_cases hkind : name = "type"
      · subst hkind
        have hfits : Fits ("type", value) ↔ IsText value :=
          ⟨fun h => h.kind rfl, fun h => ⟨by simp, by simp, fun _ => h⟩⟩
        rw [hfits, ← exists_optional_text_iff]
        exact exists_bind_pure_iff fun kind => { properties with kind }
      · exact ⟨fun _ => ⟨fun h => absurd h hname, fun h => absurd h hshared,
          fun h => absurd h hkind⟩,
          fun _ => ⟨properties, withMember_of_other hname hshared hkind properties⟩⟩

/-- **Properties are read from the values that are well shaped.** -/
theorem exists_ofValue_iff (value : Json.Value) :
    (∃ properties, ofValue value = .ok properties) ↔ WellShaped value := by
  cases value with
  | object members => exact exists_foldlM_eq_ok_iff exists_withMember_iff members none
  | sequence items =>
      -- the length is looked at last, so it matters only if the members fit
      have hmembers := exists_foldlM_eq_ok_iff exists_withMember_iff
        ((fields.map Prod.fst).zip items) none
      show (∃ properties, (do
          let properties ← ((fields.map Prod.fst).zip items).foldlM withMember none
          if 3 < items.length then .error (.wrongLength items.length .fewer)
          else return properties) = Except.ok properties) ↔
        items.length ≤ 3 ∧ ∀ member ∈ (fields.map Prod.fst).zip items, Fits member
      rw [← hmembers]
      cases ((fields.map Prod.fst).zip items).foldlM withMember none with
      | error mismatch => simp [bind, Except.bind]
      | ok properties =>
          by_cases hlong : 3 < items.length
          · simp [hlong, bind, Except.bind]
          · simp [hlong, bind, Except.bind, pure, Except.pure, Nat.le_of_not_lt hlong]
  | null | boolean | number | text => simp [ofValue, WellShaped]

end Almanac.Properties
