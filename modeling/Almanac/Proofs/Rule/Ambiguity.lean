import Almanac.Proofs.Rule.Phrases

/-!
# No expression is ambiguous

The forms are tried in a fixed order, and the first whose shape an expression has decides what it
means. The order could be any other: of two forms at most one reads an expression, whatever feasts
are known and however they are called.
-/

namespace Almanac

namespace Expression

/-- Every form stands in the list once. -/
theorem forms_pairwise_ne : forms.Pairwise (· ≠ ·) := by
  have hshapes : (forms.map Form.shape).Pairwise (· ≠ ·) := by decide
  exact hshapes.of_map Form.shape fun form other hne heq => hne (congrArg Form.shape heq)

/-- Forms that read the same words are one form. -/
theorem form_unique {form other : Form} {words : List String} {registry : Registry}
    {result result' : Except ExpressionFault Rule} (hform : form ∈ forms) (hother : other ∈ forms)
    (hread : form.read words registry = some result)
    (hread' : other.read words registry = some result') : form = other := by
  obtain ⟨phrase, hspelled, rfl, -⟩ := spelled_of_read hform hread
  obtain ⟨phrase', hspelled', rfl, -⟩ := spelled_of_read hother hread'
  rw [hspelled.unique hspelled']

theorem forms_pairwise_exclude (words : List String) (registry : Registry) :
    forms.Pairwise fun form other =>
      form.read words registry = none ∨ other.read words registry = none := by
  refine forms_pairwise_ne.imp_of_mem ?_
  intro form other hform hother hne
  by_contra hboth
  simp only [not_or, ← ne_eq, Option.ne_none_iff_exists'] at hboth
  obtain ⟨⟨result, hread⟩, result', hread'⟩ := hboth
  exact hne (form_unique hform hother hread hread')

theorem readWordsIn_eq_readWords {order : List Form} (horder : order.Perm forms)
    (words : List String) (registry : Registry) :
    readWordsIn order words registry = readWords words registry := by
  by_cases hspelled : ∃ phrase, Spelled words phrase
  · obtain ⟨phrase, hspelled⟩ := hspelled
    rw [readWordsIn_of_spelled horder hspelled, readWords_of_spelled hspelled]
  · have hnone : ∀ phrase, ¬ Spelled words phrase := not_exists.1 hspelled
    rw [readWordsIn_of_not_spelled horder hnone, readWords_of_not_spelled hnone]

end Expression

namespace Rule

/-- The rule that `expression` writes when the forms are tried in this order. -/
def ofExpressionIn (order : List Expression.Form) (expression : String) (registry : Registry) :
    Except ExpressionError Rule :=
  match Expression.readWordsIn order (Text.words expression) registry with
  | .ok rule => .ok rule
  | .error fault => .error ⟨expression, fault⟩

/--
**The grammar is unambiguous.**

Of any two forms at most one reads the words of an expression, be it as a rule or as a fault, so
there is one rule or one error for every expression in whatever order the forms are tried.
-/
theorem ofExpression_unambiguous (expression : String) (registry : Registry) :
    (Expression.forms.Pairwise fun form other =>
      form.read (Text.words expression) registry = none ∨
        other.read (Text.words expression) registry = none) ∧
    ∀ order : List Expression.Form, order.Perm Expression.forms →
      ofExpressionIn order expression registry = ofExpression expression registry := by
  refine ⟨Expression.forms_pairwise_exclude _ registry, ?_⟩
  intro order horder
  have hsame := Expression.readWordsIn_eq_readWords horder (Text.words expression) registry
  unfold ofExpressionIn ofExpression
  cases hread : Expression.readWords (Text.words expression) registry with
  | ok rule => rw [hsame, hread]
  | error fault => rw [hsame, hread]

/-- Feasts that are called like a date and like a weekday, with the forms tried from the last to the
first: the date is a date, and the weekday is a feast where it stands alone. -/
theorem ofExpression_unambiguous_reversed :
    let registry : Registry := ⟨[("12-25", easterSunday), ("sunday", easterSunday)]⟩
    Expression.forms.reverse.Perm Expression.forms ∧
      ofExpressionIn Expression.forms.reverse "12-25" registry = .ok (.fixed 12 25) ∧
      ofExpressionIn Expression.forms.reverse "Sunday" registry =
        .ok (.onFeast "sunday" easterSunday) ∧
      ofExpressionIn Expression.forms.reverse "Sunday in May" registry =
        .ok (.firstInMonth .sunday .may) := by
  intro registry
  have hperm : Expression.forms.reverse.Perm Expression.forms := List.reverse_perm _
  have hsame := fun expression =>
    (ofExpression_unambiguous expression registry).2 Expression.forms.reverse hperm
  exact ⟨hperm, (hsame "12-25").trans rfl, (hsame "Sunday").trans rfl,
    (hsame "Sunday in May").trans rfl⟩

end Rule

end Almanac
