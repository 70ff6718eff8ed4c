import EntityQuery.Proofs.Filter.Holding
import EntityQuery.Proofs.Query.Steps

/-!
# Bounded queries

A boundary becomes a criteria with one comparison for each bound.  Judged by whatever comparisons
there are of values, it holds of the rows whose values lie in the ranges, and these are left of the
rows of a query that it is added to.
-/

namespace EntityQuery

/-- A comparison of a field with a value is judged by the value of the row in this field, and every
other condition in some way of its own. -/
def Comparisons.judge (comparisons : Comparisons Value) (row : String → Value)
    (others : Condition → Bool) (condition : Condition) : Bool :=
  match condition.comparator, condition.value with
  | .lt, some value => comparisons.less (row condition.field) value
  | .lte, some value => comparisons.lessOrEqual (row condition.field) value
  | .gt, some value => comparisons.greater (row condition.field) value
  | .gte, some value => comparisons.greaterOrEqual (row condition.field) value
  | _, _ => others condition

/-- A query without a criteria, or with one that holds no condition, holds of every row. -/
def Query.holds (query : Query) (judge : Condition → Bool) : Bool :=
  (Formula.all (Criteria.meanings query.criteria.toList)).holds judge

namespace Scope

/-- The conditions of a range hold of what it contains. -/
theorem all_judge_conditions (comparisons : Comparisons Value) (row : String → Value)
    (others : Condition → Bool) (scope : Scope) :
    scope.conditions.all (comparisons.judge row others) =
      scope.range.contains comparisons (row scope.property) := by
  have hlower : scope.lowerCondition?.toList.all (comparisons.judge row others) =
      scope.range.lower.admitsAbove comparisons (row scope.property) := by
    unfold lowerCondition?
    cases scope.range.lower <;> simp [Comparisons.judge, Condition.compare, Bound.admitsAbove]
  have hupper : scope.upperCondition?.toList.all (comparisons.judge row others) =
      scope.range.upper.admitsBelow comparisons (row scope.property) := by
    unfold upperCondition?
    cases scope.range.upper <;> simp [Comparisons.judge, Condition.compare, Bound.admitsBelow]
  rw [conditions, List.all_append, hlower, hupper, Range.contains]

end Scope

namespace Boundary

/-- A boundary holds of the rows whose values lie in its ranges. -/
theorem holds_meanings_criteria? (comparisons : Comparisons Value) (row : String → Value)
    (others : Condition → Bool) (boundary : Boundary) :
    (Formula.all (Criteria.meanings boundary.criteria?.toList)).holds
        (comparisons.judge row others) =
      boundary.scopes.all fun scope =>
        scope.range.contains comparisons (row scope.property) := by
  have hatoms : (Formula.all (Criteria.meanings boundary.criteria?.toList)).atoms =
      (Formula.all (boundary.conditions.map .atom)).atoms := by
    rw [Criteria.atoms_all_meanings, conditions_criteria?,
      show (Formula.all (boundary.conditions.map .atom)).atoms = _ from
        Formula.atoms_combined .and _, List.flatMap_map]
    exact (List.flatMap_singleton' _).symm
  have hatom : Formula.holds (comparisons.judge row others) ∘ .atom =
      comparisons.judge row others := by
    funext condition
    rw [Function.comp_apply, Formula.holds]
  rw [boundary.meanings_criteria?_agrees.holds_eq hatoms, Formula.holds_all, List.all_map, hatom,
    conditions, List.all_flatMap]
  simp only [Scope.all_judge_conditions]

end Boundary

namespace Query

/-- What is added has to hold besides. -/
theorem holds_including (query : Query) (added : Option Criteria) (judge : Condition → Bool) :
    (query.including added).holds judge =
      (query.holds judge && (Formula.all (Criteria.meanings added.toList)).holds judge) := by
  have hatoms : (Formula.all (Criteria.meanings (query.including added).criteria.toList)).atoms =
      (Formula.all (Criteria.meanings (query.criteria.toList ++ added.toList))).atoms := by
    rw [Criteria.atoms_all_meanings, Criteria.atoms_all_meanings, conditions_including]
  rw [holds, (query.meanings_including_agrees added).holds_eq hatoms judge,
    Criteria.meanings_append, Formula.holds_all, List.all_append, holds, Formula.holds_all,
    Formula.holds_all]

/-- A boundary leaves the rows of a query whose values lie in its ranges. -/
theorem holds_withBoundary (comparisons : Comparisons Value) (row : String → Value)
    (others : Condition → Bool) (query : Query) (boundary : Boundary) :
    ((query.withBoundary boundary).holds (comparisons.judge row others) = true ↔
      query.holds (comparisons.judge row others) = true ∧
        ∀ scope ∈ boundary.scopes,
          scope.range.contains comparisons (row scope.property) = true) ∧
    (boundary.criteria? = none ↔ ∀ scope ∈ boundary.scopes, scope.range.isUnbounded = true) ∧
    ((∀ scope ∈ boundary.scopes, scope.range.isUnbounded = true) →
      query.withBoundary boundary = query) ∧
    boundary.criteria?.toList.flatMap Criteria.conditions =
      boundary.scopes.flatMap Scope.conditions ∧
    (query.withBoundary boundary).criteria.toList.flatMap Criteria.conditions =
      query.criteria.toList.flatMap Criteria.conditions ++
        boundary.scopes.flatMap Scope.conditions := by
  refine ⟨?_, boundary.criteria?_eq_none_iff, ?_, boundary.conditions_criteria?, ?_⟩
  · rw [withBoundary_eq_including, holds_including, Bool.and_eq_true,
      boundary.holds_meanings_criteria?, List.all_eq_true]
  · intro hunbounded
    rw [withBoundary, boundary.criteria?_eq_none_iff.mpr hunbounded]
  · rw [withBoundary_eq_including, conditions_including, List.flatMap_append,
      boundary.conditions_criteria?, Boundary.conditions]

end Query

end EntityQuery
