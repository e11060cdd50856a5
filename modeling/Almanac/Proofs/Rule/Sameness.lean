import Almanac.Proofs.Rule.Canonical

/-!
# When rules count as the same

Two rules are compared as they are written: of a feast only the name counts, not the dates that it
has. Among rules at large that can deceive, since any feast can go by any name. Among the rules that
are read with one registry it cannot, since the registry has one feast under a name. There rules
that compare as the same are equal (`WellFormed.eq_of_beq`).
-/

namespace Almanac.Rule

/-- What the comparison sees of a rule: all but the dates of its feast. -/
def written : Rule → Rule
  | onFeast name _ => onFeast name fun _ => none
  | fromFeast name _ offset => fromFeast name (fun _ => none) offset
  | rule => rule

theorem beq_iff {rule other : Rule} : (rule == other) = true ↔ rule.written = other.written := by
  show same rule other = true ↔ _
  cases rule <;> cases other <;> simp [same, written, and_assoc]

theorem beq_equivalence : Equivalence fun rule other : Rule => (rule == other) = true where
  refl := beq_self
  symm h := beq_iff.2 (beq_iff.1 h).symm
  trans h h' := beq_iff.2 ((beq_iff.1 h).trans (beq_iff.1 h'))

/-- **Rules of one registry that compare as the same are equal.** -/
theorem WellFormed.eq_of_beq {registry : Registry} {Named Known : String → Prop}
    {rule other : Rule} (h : rule.WellFormed registry Named) (h' : other.WellFormed registry Known)
    (hsame : (rule == other) = true) : rule = other := by
  rw [beq_iff] at hsame
  cases rule with
  | fixed month day => cases other <;> cases hsame; rfl
  | onFeast name feast =>
    cases other <;> cases hsame
    -- both feasts stand under the name in the registry
    have hfeast := h.2.symm.trans h'.2
    cases hfeast
    rfl
  | fromFeast name feast offset =>
    cases other <;> cases hsame
    have hfeast := h.1.2.symm.trans h'.1.2
    cases hfeast
    rfl
  | nearDate weekday direction month day => cases other <;> cases hsame; rfl
  | firstInMonth weekday month => cases other <;> cases hsame; rfl

/-- Expressions that are read as the same rule are read as equal ones. -/
theorem eq_of_ofExpression {registry : Registry} {expression expression' : String}
    {rule rule' : Rule} (h : ofExpression expression registry = .ok rule)
    (h' : ofExpression expression' registry = .ok rule') (hsame : (rule == rule') = true) :
    rule = rule' :=
  (ofExpression_eq_ok_iff.1 h).wellFormed.eq_of_beq (ofExpression_eq_ok_iff.1 h').wellFormed hsame

end Almanac.Rule
