import Almanac.Proofs.Feast.Registrations
import Almanac.Proofs.Rule.Sameness

/-!
# Reading with more feasts

An expression asks the registry for one name at most, and every form that asks for a name asks for
nothing else. So a registry that knows the names of another one reads whatever that one reads. The
rules are written alike and can differ only in the feast that goes by the name. And nothing is wrong
with other words than before, but that a name which was unknown may be known now.
-/

namespace Almanac

namespace Registry

/-- Every name that the registry knows is known to the other one, if perhaps as another feast. -/
def Within (registry other : Registry) : Prop :=
  ∀ name feast, registry.get? name = some feast → ∃ feast', other.get? name = some feast'

theorem Within.refl (registry : Registry) : registry.Within registry :=
  fun _ feast h => ⟨feast, h⟩

theorem Within.trans {registry other last : Registry} (h : registry.Within other)
    (h' : other.Within last) : registry.Within last := by
  intro name feast hfeast
  obtain ⟨feast', hfeast'⟩ := h name feast hfeast
  exact h' name feast' hfeast'

/-- Feasts are replaced, never removed. -/
theorem within_register (registry : Registry) (name : String) (feast : Feast) :
    registry.Within (registry.register name feast).2 := by
  intro known old hold
  rw [get?_register]
  by_cases hname : Text.lowercase name = Text.lowercase known
  · exact ⟨feast, if_pos hname⟩
  · exact ⟨old, by rw [if_neg hname, hold]⟩

theorem within_registerAll (registry : Registry) (registrations : List Registration) :
    registry.Within (registry.registerAll registrations).2 := by
  induction registrations generalizing registry with
  | nil => exact .refl registry
  | cons first rest ih => exact (within_register registry first.name first.feast).trans (ih _)

/-- A registration is seen under its own name only. -/
theorem get?_register_of_ne (registry : Registry) {name other : String} (feast : Feast)
    (h : Text.lowercase other ≠ Text.lowercase name) :
    (registry.register name feast).2.get? other = registry.get? other := by
  rw [get?_register, if_neg (Ne.symm h)]

end Registry

/-- The name of the feast that the rule depends on. -/
def Rule.feastName? : Rule → Option String
  | onFeast name _ => some name
  | fromFeast name _ _ => some name
  | fixed _ _ | nearDate _ _ _ _ | firstInMonth _ _ => none

namespace Expression

variable {registry other : Registry} {words : List String}

/-- **What words write, they write with more feasts**, but for the feast of that name. -/
theorem Writes.within {rule : Rule} (h : Writes registry words rule)
    (hwithin : registry.Within other) :
    ∃ rule', Writes other words rule' ∧ (rule' == rule) = true ∧
      ((∀ name, rule.feastName? = some name → other.get? name = registry.get? name) →
        rule' = rule) := by
  cases h with
  | fixed isDate hasDay => exact ⟨_, .fixed isDate hasDay, Rule.beq_self _, fun _ => rfl⟩
  | @onFeast name feast isName known =>
    obtain ⟨feast', hfeast'⟩ := hwithin name feast known
    refine ⟨_, .onFeast isName hfeast', Rule.beq_iff.2 rfl, ?_⟩
    -- the feast is looked up under its name in lower case, where it was registered
    intro hsame
    have hlowered := hsame _ rfl
    rw [other.get?_lowercase, registry.get?_lowercase, hfeast', known] at hlowered
    cases hlowered
    rfl
  | @fromFeast name number feast offset isName isNumber known least greatest =>
    obtain ⟨feast', hfeast'⟩ := hwithin name feast known
    refine ⟨_, .fromFeast isName isNumber hfeast' least greatest, Rule.beq_iff.2 rfl, ?_⟩
    intro hsame
    have hlowered := hsame _ rfl
    rw [other.get?_lowercase, registry.get?_lowercase, hfeast', known] at hlowered
    cases hlowered
    rfl
  | nearDate isWeekday isKeyword isDate hasDay =>
    exact ⟨_, .nearDate isWeekday isKeyword isDate hasDay, Rule.beq_self _, fun _ => rfl⟩
  | firstInMonth isWeekday isKeyword isMonth =>
    exact ⟨_, .firstInMonth isWeekday isKeyword isMonth, Rule.beq_self _, fun _ => rfl⟩

/-- **What is wrong with words is wrong with more feasts**, unless it is a name that is known by
now. -/
theorem Faulty.within {fault : ExpressionFault} (h : Faulty registry words fault)
    (hwithin : registry.Within other)
    (hunknown : ∀ name, fault = .unknownFeast name → other.get? name = registry.get? name) :
    Faulty other words fault := by
  cases h with
  | unknownForm unspelled => exact .unknownForm unspelled
  | fixed spelled noDay => exact .fixed spelled noDay
  | onFeast spelled unknown => exact .onFeast spelled ((hunknown _ rfl).trans unknown)
  | fromFeast spelled unknown => exact .fromFeast spelled ((hunknown _ rfl).trans unknown)
  | @tooLarge name feast offset spelled known large =>
    obtain ⟨feast', hfeast'⟩ := hwithin name feast known
    exact .tooLarge spelled hfeast' large
  | @tooSmall name feast offset spelled known small =>
    obtain ⟨feast', hfeast'⟩ := hwithin name feast known
    exact .tooSmall spelled hfeast' small
  | nearDate spelled unknown => exact .nearDate spelled unknown
  | nearNoDay spelled known noDay => exact .nearNoDay spelled known noDay
  | firstInMonth spelled unknown => exact .firstInMonth spelled unknown
  | inNoMonth spelled known unknown => exact .inNoMonth spelled known unknown

end Expression

namespace Rule

variable {registry other : Registry} {expression : String}

theorem ofExpression_within {rule : Rule} (h : ofExpression expression registry = .ok rule)
    (hwithin : registry.Within other) :
    ∃ rule', ofExpression expression other = .ok rule' ∧ (rule' == rule) = true ∧
      ((∀ name, rule.feastName? = some name → other.get? name = registry.get? name) →
        rule' = rule) := by
  obtain ⟨rule', hwrites, hsame, hequal⟩ := (ofExpression_eq_ok_iff.1 h).within hwithin
  exact ⟨rule', ofExpression_eq_ok_iff.2 hwrites, hsame, hequal⟩

theorem ofExpression_eq_error_iff {error : ExpressionError} :
    ofExpression expression registry = .error error ↔
      error.expression = expression ∧
        Expression.Faulty registry (Text.words expression) error.fault := by
  refine ⟨?_, ?_⟩
  · intro h
    unfold ofExpression at h
    split at h
    · cases h
    · next hread =>
      cases h
      exact ⟨rfl, Expression.readWords_eq_error_iff.1 hread⟩
  · rintro ⟨hexpression, hfaulty⟩
    rw [ofExpression_of_faulty hfaulty, ← hexpression]

theorem ofExpression_fails_within {error : ExpressionError}
    (h : ofExpression expression registry = .error error) (hwithin : registry.Within other)
    (hunknown : ∀ name, error.fault = .unknownFeast name →
      other.get? name = registry.get? name) :
    ofExpression expression other = .error error := by
  obtain ⟨hexpression, hfaulty⟩ := ofExpression_eq_error_iff.1 h
  exact ofExpression_eq_error_iff.2 ⟨hexpression, hfaulty.within hwithin hunknown⟩

/-- The name that a rule depends on is that of its feast. -/
theorem WellFormed.named {Named : String → Prop} {rule : Rule} {name : String}
    (h : rule.WellFormed registry Named) (hname : rule.feastName? = some name) : Named name := by
  cases rule with
  | onFeast _ _ =>
    cases hname
    exact h.1
  | fromFeast _ _ _ =>
    cases hname
    exact h.1.1
  | fixed _ _ => cases hname
  | nearDate _ _ _ _ => cases hname
  | firstInMonth _ _ => cases hname

/-- What was read before a registration is read after it, as the same rule unless it is of the feast
that is registered. -/
theorem ofExpression_register {rule : Rule} (h : ofExpression expression registry = .ok rule)
    (name : String) (feast : Feast) :
    ∃ rule', ofExpression expression (registry.register name feast).2 = .ok rule' ∧
      (rule' == rule) = true ∧
      (rule.feastName? ≠ some (Text.lowercase name) → rule' = rule) := by
  obtain ⟨rule', hread, hsame, hequal⟩ :=
    ofExpression_within h (registry.within_register name feast)
  refine ⟨rule', hread, hsame, ?_⟩
  intro hother
  apply hequal
  intro known hknown
  apply registry.get?_register_of_ne
  -- the rule has the name in lower case already
  obtain ⟨token, -, -, rfl⟩ := (ofExpression_eq_ok_iff.1 h).wellFormed.named hknown
  rw [Text.lowercase_lowercase]
  intro heq
  exact hother (by rw [hknown, heq])

end Rule

end Almanac
