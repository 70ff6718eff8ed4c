import EntityQuery.Filter.Boundary
import EntityQuery.Proofs.Filter.Combination

/-!
# What a boundary requires

A boundary becomes a criteria with one comparison for each bound: scope by scope, and the lower
bound before the upper one.  In whatever groups they stand, all of them are required.
-/

namespace EntityQuery

namespace Scope

def lowerCondition? (scope : Scope) : Option Condition :=
  match scope.range.lower with
  | .included value => some (.compare .gte scope.property value)
  | .excluded value => some (.compare .gt scope.property value)
  | .unbounded => none

def upperCondition? (scope : Scope) : Option Condition :=
  match scope.range.upper with
  | .included value => some (.compare .lte scope.property value)
  | .excluded value => some (.compare .lt scope.property value)
  | .unbounded => none

/-- The lower bound before the upper one. -/
def conditions (scope : Scope) : List Condition :=
  scope.lowerCondition?.toList ++ scope.upperCondition?.toList

theorem lowerCriteria?_eq (scope : Scope) :
    scope.lowerCriteria? = scope.lowerCondition?.map .condition := by
  unfold lowerCriteria? lowerCondition?
  cases scope.range.lower <;> rfl

theorem upperCriteria?_eq (scope : Scope) :
    scope.upperCriteria? = scope.upperCondition?.map .condition := by
  unfold upperCriteria? upperCondition?
  cases scope.range.upper <;> rfl

theorem criteria?_eq (scope : Scope) :
    scope.criteria? = Criteria.ofParts? .and (scope.conditions.map .condition) := by
  unfold criteria? conditions
  rw [lowerCriteria?_eq, upperCriteria?_eq]
  cases scope.lowerCondition? <;> cases scope.upperCondition? <;> rfl

theorem conditions_eq_nil_iff (scope : Scope) :
    scope.conditions = [] ↔ scope.range.isUnbounded = true := by
  unfold conditions lowerCondition? upperCondition? Range.isUnbounded
  cases scope.range.lower <;> cases scope.range.upper <;> simp [Bound.isUnbounded]

theorem conditions_criteria? (scope : Scope) :
    scope.criteria?.toList.flatMap Criteria.conditions = scope.conditions := by
  rw [criteria?_eq, Criteria.flatMap_conditions_ofParts?, List.flatMap_map]
  simp only [Criteria.conditions_condition, List.flatMap_singleton']

/-- Each bound is required, in whatever group they stand. -/
theorem meanings_criteria?_agrees (scope : Scope) :
    (Formula.all (Criteria.meanings scope.criteria?.toList)).Agrees
      (.all (scope.conditions.map .atom)) := by
  have hmeanings : Criteria.meanings (scope.conditions.map .condition) =
      scope.conditions.map .atom := by
    have hempty : ∀ part ∈ scope.conditions.map Criteria.condition, part.isEmpty = false := by
      simp
    rw [Criteria.meanings_eq_map hempty, List.map_map]
    rfl
  rw [criteria?_eq, ← hmeanings]
  exact Criteria.meanings_ofParts?_agrees .and _

end Scope

namespace Boundary

/-- In the order of the scopes. -/
def conditions (boundary : Boundary) : List Condition :=
  boundary.scopes.flatMap Scope.conditions

theorem conditions_criteria? (boundary : Boundary) :
    boundary.criteria?.toList.flatMap Criteria.conditions = boundary.conditions := by
  rw [criteria?, Criteria.flatMap_conditions_simplify?, Criteria.conditions_group,
    List.filterMap_eq_flatMap_toList, List.flatMap_assoc]
  exact List.flatMap_congr fun scope _ => scope.conditions_criteria?

theorem criteria?_eq_none_iff (boundary : Boundary) :
    boundary.criteria? = none ↔ ∀ scope ∈ boundary.scopes, scope.range.isUnbounded = true := by
  rw [criteria?, Criteria.simplify?_eq_none_iff, Criteria.isEmpty_iff_conditions_eq_nil,
    ← Criteria.flatMap_conditions_simplify?]
  rw [← criteria?, conditions_criteria?, conditions, List.flatMap_eq_nil_iff]
  exact forall₂_congr fun scope _ => scope.conditions_eq_nil_iff

/-- All conditions of a boundary are required, in whatever groups they stand. -/
theorem meanings_criteria?_agrees (boundary : Boundary) :
    (Formula.all (Criteria.meanings boundary.criteria?.toList)).Agrees
      (.all (boundary.conditions.map .atom)) := by
  have hscopes : ∀ scopes : List Scope,
      (Formula.all (Criteria.meanings (scopes.filterMap Scope.criteria?))).Agrees
        (.all ((scopes.flatMap Scope.conditions).map .atom)) := by
    intro scopes
    induction scopes with
    | nil => exact .refl _
    | cons scope rest ih =>
        rw [List.filterMap_eq_flatMap_toList] at ih ⊢
        rw [List.flatMap_cons, List.flatMap_cons, Criteria.meanings_append, List.map_append]
        change (Formula.combined .and _).Agrees (Formula.combined .and _)
        exact .combined_append scope.meanings_criteria?_agrees ih
  exact ((Criteria.meanings_simplify?_agrees .and _).trans
    (Criteria.meanings_group_agrees .and _)).trans (hscopes boundary.scopes)

end Boundary

end EntityQuery
