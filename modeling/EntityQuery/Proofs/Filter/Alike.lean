import EntityQuery.Proofs.Filter.Simplification
import EntityQuery.Statement.Filter
import Mathlib.Data.List.Forall2

/-!
# Criteria that differ in their values

Two criteria are alike when they are one tree of conditions on the same fields, and the values at
corresponding places have one shape: a value is there or not, it is null or not where a condition
compares with null, and a list has so many elements.  Simplification looks at the tree alone, so it
gives trees that are alike again.
-/

namespace EntityQuery

/-- The conditions differ in nothing but their values, and these have the same shape as far as the
comparison depends on it. -/
structure Condition.Alike (first second : Condition) : Prop where
  field : first.field = second.field
  comparator : first.comparator = second.comparator
  present : first.value.isSome = second.value.isSome
  null : first.comparator = .eq ∨ first.comparator = .ne →
    first.value.map Value.isNull = second.value.map Value.isNull
  count : first.comparator = .isIn ∨ first.comparator = .notIn →
    first.value.map (List.length ∘ elements) = second.value.map (List.length ∘ elements)

inductive ConditionForm.Alike : ConditionForm → ConditionForm → Prop
  | test (comparator : Comparator) : Alike (.test comparator) (.test comparator)
  | membership (comparator : Comparator) {elements others : List Value}
      (hlength : elements.length = others.length) :
      Alike (.membership comparator elements) (.membership comparator others)
  | comparison (comparator : Comparator) (value other : Value) :
      Alike (.comparison comparator value) (.comparison comparator other)
  | incomplete : Alike .incomplete .incomplete

namespace Condition

theorem form_eq (field : String) (value : Value) :
    form ⟨field, .eq, some value⟩ =
      if value.isNull then .test .isNull else .comparison .eq value := by
  cases value <;> rfl

theorem form_ne (field : String) (value : Value) :
    form ⟨field, .ne, some value⟩ =
      if value.isNull then .test .isNotNull else .comparison .ne value := by
  cases value <;> rfl

/-- The form of a condition shows no more of its value than the shape. -/
theorem Alike.form {first second : Condition} (h : first.Alike second) :
    first.form.Alike second.form := by
  obtain ⟨field, comparator, value⟩ := first
  obtain ⟨_, _, other⟩ := second
  obtain ⟨rfl, rfl, hpresent, hnull, hcount⟩ := h
  cases value with
  | none =>
      obtain rfl : other = none := by simpa using hpresent
      cases comparator <;> constructor
  | some value =>
      obtain ⟨other, rfl⟩ : ∃ given, other = some given := by
        rw [← Option.isSome_iff_exists]
        exact hpresent.symm
      have hlength : comparator = .isIn ∨ comparator = .notIn →
          (elements value).length = (elements other).length := by
        intro hlist
        exact Option.some.inj (hcount hlist)
      cases comparator with
      | eq =>
          have hsame : value.isNull = other.isNull := Option.some.inj (hnull (.inl rfl))
          rw [form_eq, form_eq, hsame]
          split <;> constructor
      | ne =>
          have hsame : value.isNull = other.isNull := Option.some.inj (hnull (.inr rfl))
          rw [form_ne, form_ne, hsame]
          split <;> constructor
      | isIn => exact .membership .isIn (hlength (.inl rfl))
      | notIn => exact .membership .notIn (hlength (.inr rfl))
      | gt | gte | lt | lte | like | notLike => exact .comparison _ value other
      | isNull | isNotNull | isTrue | isFalse => exact .test _

end Condition

namespace Criteria

/-- The trees are the same, and conditions at the same place are alike. -/
inductive Alike : Criteria → Criteria → Prop
  | condition {first second : Condition} (h : first.Alike second) :
      Alike (.condition first) (.condition second)
  | group (combinator : Combinator) {parts others : List Criteria}
      (hparts : List.Forall₂ Alike parts others) :
      Alike (.group combinator parts) (.group combinator others)

/-- Induction over both trees, with the hypothesis for every two parts at the same place. -/
@[elab_as_elim]
theorem Alike.induction {motive : Criteria → Criteria → Prop}
    (condition : ∀ first second : Condition, first.Alike second →
      motive (.condition first) (.condition second))
    (group : ∀ combinator parts others, List.Forall₂ Alike parts others →
      List.Forall₂ motive parts others → motive (.group combinator parts) (.group combinator others))
    {first second : Criteria} (h : first.Alike second) : motive first second := by
  refine Alike.rec (motive_1 := fun first second _ => motive first second)
    (motive_2 := fun parts others _ => List.Forall₂ motive parts others) ?_ ?_ ?_ ?_ h
  · intro first second hleaf
    exact condition first second hleaf
  · intro combinator parts others hparts ih
    exact group combinator parts others hparts ih
  · exact .nil
  · intro part other parts others _ _ hpart hparts
    exact .cons hpart hparts

theorem alike_ofParts? (combinator : Combinator) {parts others : List Criteria}
    (h : List.Forall₂ Alike parts others) :
    Option.Rel Alike (ofParts? combinator parts) (ofParts? combinator others) := by
  rcases h with _ | ⟨hfirst, _ | ⟨hsecond, hrest⟩⟩
  · exact .none
  · exact .some hfirst
  · exact .some (.group combinator (.cons hfirst (.cons hsecond hrest)))

theorem Alike.simplify? {first second : Criteria} (h : first.Alike second) :
    Option.Rel Alike first.simplify? second.simplify? := by
  refine Alike.induction ?_ ?_ h
  · intro first second hleaf
    rw [simplify?_condition, simplify?_condition]
    exact .some (.condition hleaf)
  · intro combinator parts others _ ih
    rw [simplify?_group, simplify?_group]
    apply alike_ofParts?
    exact List.rel_filterMap (fun _ _ hpart => hpart) ih

end Criteria

end EntityQuery
