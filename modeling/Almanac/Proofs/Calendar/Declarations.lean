import Almanac.Calendar.Basic
import Almanac.Proofs.Configuration.Members
import Almanac.Proofs.Rule.Spelling

/-!
# The days that a region declares

A region declares a day by an expression and a value for its properties. `Declares` says which entry
a good day makes and `Fails` what can be wrong with a day. Every day is one or the other
(`declares_or_fails`), so reading a day tells which (`entryOf_iff`). `Good` says of a day that it
makes some entry, without naming it. The properties are only a step on the way: which entry a day
makes can be told from the members of its value (`declares_iff`).
-/

namespace Almanac

theorem Kind.ofName?_eq_some_iff {name : String} {kind : Kind} :
    ofName? name = some kind ↔ Text.sameLetters kind.name name = true := by
  -- the names that are tried are those of the kinds in lower case
  have hholiday : Text.asciiLower "holiday" = Text.asciiLower "Holiday" := by decide
  have hobservance : Text.asciiLower "observance" = Text.asciiLower "Observance" := by decide
  unfold ofName?
  rw [Text.choice_eq_some_iff (by decide)]
  cases kind <;> simp [Kind.name, Text.sameLetters, hholiday, hobservance]

/-- What finds everything of a kind finds nothing where there is nothing of the kind. -/
theorem eq_none_iff_of_eq_some_iff {α : Type} {found : Option α} {fits : α → Bool}
    (h : ∀ x, found = some x ↔ fits x = true) : found = none ↔ ∀ x, fits x = false := by
  simp only [Option.eq_none_iff_forall_ne_some, ne_eq, h, Bool.not_eq_true]

theorem Kind.ofName?_eq_none_iff {name : String} :
    ofName? name = none ↔ ∀ kind : Kind, Text.sameLetters kind.name name = false :=
  eq_none_iff_of_eq_some_iff fun _ => ofName?_eq_some_iff

theorem Weekday.ofName?_eq_none_iff {name : String} :
    ofName? name = none ↔ ∀ weekday : Weekday, Text.sameLetters weekday.name name = false :=
  eq_none_iff_of_eq_some_iff fun _ => ofName?_eq_some_iff

theorem Rule.expression_of_error {expression : String} {registry : Registry}
    {error : ExpressionError} (h : Rule.ofExpression expression registry = .error error) :
    error.expression = expression := by
  unfold Rule.ofExpression at h
  split at h
  · cases h
  · cases h
    rfl

namespace Calendar

/-! ## Good days and bad days -/

/-- The kind that is meant when this is said about it. -/
def SaysKind (said : Option String) (kind : Kind) : Prop :=
  match said with
  | some name => Text.sameLetters kind.name name = true
  | none => kind = .holiday

/-- The day makes the entry. -/
inductive Declares (language : String) (registry : Registry) : String × Json.Value → Entry → Prop
  | entry {expression name : String} {value : Json.Value} {properties : Properties} {kind : Kind}
      {rule : Rule} (shaped : Properties.ofValue value = .ok properties)
      (named : properties.displayName language = some name)
      (saysKind : SaysKind properties.kind kind)
      (parsed : Rule.ofExpression expression registry = .ok rule) :
      Declares language registry (expression, value) ⟨name, kind, rule⟩

/-- Nothing is wrong with the day. -/
structure Good (language : String) (registry : Registry) (day : String × Json.Value) : Prop where
  shaped : Properties.WellShaped day.2
  named : ∀ properties, Properties.ofValue day.2 = .ok properties →
    ∃ name, properties.displayName language = some name
  knownKind : ∀ properties, Properties.ofValue day.2 = .ok properties →
    ∀ kindName, properties.kind = some kindName →
      ∃ kind : Kind, Text.sameLetters kind.name kindName = true
  parses : ∃ rule, Rule.ofExpression day.1 registry = .ok rule

/-- What is wrong with the day. Of several things the first one counts. -/
inductive Fails (language : String) (registry : Registry) :
    String × Json.Value → CalendarError → Prop
  | malformed {expression : String} {value : Json.Value} {mismatch : Json.Mismatch}
      (misshapen : Properties.ofValue value = .error mismatch) :
      Fails language registry (expression, value)
        (.configuration (.malformedEntry expression mismatch))
  | unnamed {expression : String} {value : Json.Value} {properties : Properties}
      (shaped : Properties.ofValue value = .ok properties)
      (unnamed : properties.displayName language = none) :
      Fails language registry (expression, value)
        (.configuration (.missingName expression language))
  | unknownKind {expression name kindName : String} {value : Json.Value} {properties : Properties}
      (shaped : Properties.ofValue value = .ok properties)
      (named : properties.displayName language = some name)
      (said : properties.kind = some kindName)
      (unknown : ∀ kind : Kind, Text.sameLetters kind.name kindName = false) :
      Fails language registry (expression, value)
        (.configuration (.unknownKind expression kindName))
  | unparsed {expression name : String} {value : Json.Value} {properties : Properties}
      {kind : Kind} {fault : ExpressionFault}
      (shaped : Properties.ofValue value = .ok properties)
      (named : properties.displayName language = some name)
      (saysKind : SaysKind properties.kind kind)
      (faulty : Rule.ofExpression expression registry = .error ⟨expression, fault⟩) :
      Fails language registry (expression, value) (.expression ⟨expression, fault⟩)

variable {language : String} {registry : Registry} {day : String × Json.Value}

/-- What is left to do with a day once its properties and its name are found. -/
theorem entryOf_eq {expression name : String} {value : Json.Value} {properties : Properties}
    (shaped : Properties.ofValue value = .ok properties)
    (named : properties.displayName language = some name) :
    entryOf language registry (expression, value) = (do
      let kind ←
        match properties.kind with
        | some kindName =>
          match Kind.ofName? kindName with
          | some kind => pure kind
          | none => throw (.configuration (.unknownKind expression kindName))
        | none => pure .holiday
      let rule ← (Rule.ofExpression expression registry).mapError .expression
      return ⟨name, kind, rule⟩) := by
  simp only [entryOf, Region.properties, shaped, Except.mapError, bind, Except.bind, named]
  rfl

theorem entryOf_of_saysKind {expression name : String} {value : Json.Value}
    {properties : Properties} {kind : Kind}
    (shaped : Properties.ofValue value = .ok properties)
    (named : properties.displayName language = some name)
    (saysKind : SaysKind properties.kind kind) :
    entryOf language registry (expression, value) = (do
      let rule ← (Rule.ofExpression expression registry).mapError .expression
      return ⟨name, kind, rule⟩) := by
  rw [entryOf_eq shaped named]
  unfold SaysKind at saysKind
  cases hsaid : properties.kind with
  | none =>
      rw [hsaid] at saysKind
      subst saysKind
      rfl
  | some kindName =>
      rw [hsaid] at saysKind
      dsimp only at saysKind ⊢
      rw [Kind.ofName?_eq_some_iff.2 saysKind]
      rfl

theorem entryOf_of_declares {entry : Entry} (h : Declares language registry day entry) :
    entryOf language registry day = .ok entry := by
  cases h with
  | entry shaped named saysKind parsed =>
      rw [entryOf_of_saysKind shaped named saysKind, parsed]
      rfl

theorem entryOf_of_fails {error : CalendarError} (h : Fails language registry day error) :
    entryOf language registry day = .error error := by
  cases h with
  | malformed misshapen =>
      simp only [entryOf, Region.properties, misshapen]
      rfl
  | unnamed shaped unnamed =>
      simp only [entryOf, Region.properties, shaped, Except.mapError, bind, Except.bind, unnamed]
      rfl
  | unknownKind shaped named said unknown =>
      rw [entryOf_eq shaped named, said]
      dsimp only
      rw [Kind.ofName?_eq_none_iff.2 unknown]
      rfl
  | unparsed shaped named saysKind faulty =>
      rw [entryOf_of_saysKind shaped named saysKind, faulty]
      rfl

/-- **Every day makes an entry or fails.** -/
theorem declares_or_fails (language : String) (registry : Registry) (day : String × Json.Value) :
    (∃ entry, Declares language registry day entry) ∨
      ∃ error, Fails language registry day error := by
  obtain ⟨expression, value⟩ := day
  -- each part of the day is looked at in its turn, and the first that is bad is the error
  cases hshaped : Properties.ofValue value with
  | error mismatch => exact Or.inr ⟨_, .malformed hshaped⟩
  | ok properties =>
      cases hnamed : properties.displayName language with
      | none => exact Or.inr ⟨_, .unnamed hshaped hnamed⟩
      | some name =>
          by_cases hkind : ∃ kind, SaysKind properties.kind kind
          · obtain ⟨kind, hkind⟩ := hkind
            cases hparsed : Rule.ofExpression expression registry with
            | ok rule => exact Or.inl ⟨_, .entry hshaped hnamed hkind hparsed⟩
            | error error =>
                obtain ⟨found, fault⟩ := error
                have hfound : found = expression := Rule.expression_of_error hparsed
                subst hfound
                exact Or.inr ⟨_, .unparsed hshaped hnamed hkind hparsed⟩
          · cases hsaid : properties.kind with
            -- without a type the day is a holiday, so the type that is unknown was said
            | none => exact absurd ⟨.holiday, by rw [hsaid]; rfl⟩ hkind
            | some kindName =>
                refine Or.inr ⟨_, .unknownKind hshaped hnamed hsaid ?_⟩
                intro kind
                rw [Bool.eq_false_iff]
                intro hname
                exact hkind ⟨kind, by rw [hsaid]; exact hname⟩

theorem entryOf_iff :
    (∀ entry, entryOf language registry day = .ok entry ↔ Declares language registry day entry) ∧
      ∀ error, entryOf language registry day = .error error ↔ Fails language registry day error :=
  eq_ok_and_eq_error_iff (fun _ => entryOf_of_declares) (fun _ => entryOf_of_fails)
    (declares_or_fails language registry day)

theorem entryOf_eq_ok_iff {entry : Entry} :
    entryOf language registry day = .ok entry ↔ Declares language registry day entry :=
  entryOf_iff.1 entry

theorem entryOf_eq_error_iff {error : CalendarError} :
    entryOf language registry day = .error error ↔ Fails language registry day error :=
  entryOf_iff.2 error

theorem exists_declares_iff :
    (∃ entry, Declares language registry day entry) ↔ Good language registry day := by
  refine ⟨?_, ?_⟩
  · intro h
    obtain ⟨entry, @⟨expression, name, value, properties, kind, rule, shaped, named, saysKind,
      parsed⟩⟩ := h
    refine ⟨(Properties.exists_ofValue_iff value).1 ⟨properties, shaped⟩, ?_, ?_, ⟨rule, parsed⟩⟩
    · -- a value is read in one way only, so the properties of the entry are all that there are
      intro properties' shaped'
      rw [shaped] at shaped'
      cases shaped'
      exact ⟨name, named⟩
    · intro properties' shaped' kindName said
      rw [shaped] at shaped'
      cases shaped'
      rw [said] at saysKind
      exact ⟨kind, saysKind⟩
  · intro h
    obtain ⟨expression, value⟩ := day
    obtain ⟨properties, shaped⟩ := (Properties.exists_ofValue_iff value).2 h.shaped
    obtain ⟨name, named⟩ := h.named properties shaped
    obtain ⟨rule, parsed⟩ := h.parses
    -- where no type is said the day is a holiday
    have hkind : ∃ kind, SaysKind properties.kind kind := by
      cases hsaid : properties.kind with
      | none => exact ⟨.holiday, rfl⟩
      | some kindName => exact h.knownKind properties shaped kindName hsaid
    obtain ⟨kind, saysKind⟩ := hkind
    exact ⟨_, .entry shaped named saysKind parsed⟩

/-- The value says of which kind the day is: by its type, or a holiday where there is none. -/
def SaysType (value : Json.Value) (kind : Kind) : Prop :=
  (∃ kindName, Assoc.Last (Properties.said value) "type" (.text kindName) ∧
    Text.sameLetters kind.name kindName = true) ∨
  (∀ kindName, ¬ Assoc.Last (Properties.said value) "type" (.text kindName)) ∧ kind = .holiday

theorem saysKind_iff {value : Json.Value} {properties : Properties} {kind : Kind}
    (shaped : Properties.ofValue value = .ok properties) :
    SaysKind properties.kind kind ↔ SaysType value kind := by
  unfold SaysType
  simp only [← Properties.kind_eq_some_iff shaped]
  cases properties.kind with
  | none => simp [SaysKind]
  | some kindName => simp [SaysKind]

/-- **The entry of a day, from the members of its value.** -/
theorem declares_iff {expression : String} {value : Json.Value} {entry : Entry} :
    Declares language registry (expression, value) entry ↔
      Properties.WellShaped value ∧ Properties.Calls language value entry.name ∧
        SaysType value entry.kind ∧ Rule.ofExpression expression registry = .ok entry.rule := by
  refine ⟨?_, ?_⟩
  · intro h
    cases h with
    | entry shaped named saysKind parsed =>
      exact ⟨(Properties.exists_ofValue_iff value).1 ⟨_, shaped⟩,
        (Properties.displayName_eq_some_iff shaped).1 named, (saysKind_iff shaped).1 saysKind,
        parsed⟩
  · rintro ⟨hshape, hcalls, hkind, parsed⟩
    obtain ⟨properties, shaped⟩ := (Properties.exists_ofValue_iff value).2 hshape
    exact .entry shaped ((Properties.displayName_eq_some_iff shaped).2 hcalls)
      ((saysKind_iff shaped).2 hkind) parsed

end Calendar

end Almanac
