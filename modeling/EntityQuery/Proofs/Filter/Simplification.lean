import EntityQuery.Filter.Criteria
import Mathlib.Data.List.Basic

/-!
# Simplified criteria

Simplification drops the parts without a condition and unwraps groups of a single part.  It keeps
the conditions in their order, it gives nothing exactly when there are none, and every group that
is left has at least two parts.
-/

namespace EntityQuery.Criteria

/-- Induction over the tree, with the hypothesis for every part of a group. -/
@[elab_as_elim]
theorem induction {motive : Criteria → Prop} (condition : ∀ leaf, motive (.condition leaf))
    (group : ∀ combinator parts, (∀ part ∈ parts, motive part) → motive (.group combinator parts))
    (criteria : Criteria) : motive criteria := by
  refine Criteria.rec (motive_1 := motive) (motive_2 := fun parts => ∀ part ∈ parts, motive part)
    condition group ?_ ?_ criteria
  · simp
  · intro part rest hpart hrest
    exact List.forall_mem_cons.mpr ⟨hpart, hrest⟩

/-! ### Traversals of a group as operations on its list of parts -/

theorem conditionsOf_eq_flatMap (parts : List Criteria) :
    conditionsOf parts = parts.flatMap conditions := by
  induction parts with
  | nil => rfl
  | cons part rest ih => rw [conditionsOf, ih, List.flatMap_cons]

theorem areEmpty_eq_all (parts : List Criteria) : areEmpty parts = parts.all isEmpty := by
  induction parts with
  | nil => rfl
  | cons part rest ih => rw [areEmpty, ih, List.all_cons]

theorem simplifyParts_eq_filterMap (parts : List Criteria) :
    simplifyParts parts = parts.filterMap simplify? := by
  induction parts with
  | nil => rfl
  | cons part rest ih =>
      rw [simplifyParts, List.filterMap_cons, ih]
      cases part.simplify? <;> rfl

@[simp]
theorem conditions_condition (leaf : Condition) : (condition leaf).conditions = [leaf] := by
  rw [conditions]

@[simp]
theorem conditions_group (combinator : Combinator) (parts : List Criteria) :
    (group combinator parts).conditions = parts.flatMap conditions := by
  rw [conditions, conditionsOf_eq_flatMap]

@[simp]
theorem isEmpty_condition (leaf : Condition) : (condition leaf).isEmpty = false := by
  rw [isEmpty]

@[simp]
theorem isEmpty_group (combinator : Combinator) (parts : List Criteria) :
    (group combinator parts).isEmpty = parts.all isEmpty := by
  rw [isEmpty, areEmpty_eq_all]

@[simp]
theorem simplify?_condition (leaf : Condition) :
    (condition leaf).simplify? = some (condition leaf) := by
  rw [simplify?]

@[simp]
theorem simplify?_group (combinator : Combinator) (parts : List Criteria) :
    (group combinator parts).simplify? = ofParts? combinator (parts.filterMap simplify?) := by
  rw [simplify?, simplifyParts_eq_filterMap]

theorem isEmpty_iff_conditions_eq_nil (criteria : Criteria) :
    criteria.isEmpty = true ↔ criteria.conditions = [] := by
  induction criteria using Criteria.induction with
  | condition leaf => simp
  | group combinator parts ih =>
      rw [isEmpty_group, conditions_group, List.all_eq_true, List.flatMap_eq_nil_iff]
      exact forall₂_congr ih

/-! ### What simplification keeps -/

theorem ofParts?_eq_none_iff {combinator : Combinator} {parts : List Criteria} :
    ofParts? combinator parts = none ↔ parts = [] := by
  rcases parts with _ | ⟨first, _ | ⟨second, rest⟩⟩ <;> simp [ofParts?]

theorem conditions_ofParts? {combinator : Combinator} {parts : List Criteria} {simple : Criteria}
    (h : ofParts? combinator parts = some simple) :
    simple.conditions = parts.flatMap conditions := by
  rcases parts with _ | ⟨first, _ | ⟨second, rest⟩⟩
  · cases h
  · cases h
    simp
  · cases h
    rw [conditions_group]

/-- Nothing is left exactly of a criteria that restricts nothing. -/
theorem simplify?_eq_none_iff (criteria : Criteria) :
    criteria.simplify? = none ↔ criteria.isEmpty = true := by
  induction criteria using Criteria.induction with
  | condition leaf => simp
  | group combinator parts ih =>
      rw [simplify?_group, ofParts?_eq_none_iff, isEmpty_group, List.all_eq_true,
        List.filterMap_eq_nil_iff]
      exact forall₂_congr ih

theorem conditions_simplify? {criteria simple : Criteria} (h : criteria.simplify? = some simple) :
    simple.conditions = criteria.conditions := by
  induction criteria using Criteria.induction generalizing simple with
  | condition leaf =>
      rw [simplify?_condition, Option.some.injEq] at h
      rw [← h]
  | group combinator parts ih =>
      rw [simplify?_group] at h
      rw [conditions_ofParts? h, conditions_group]
      clear h
      induction parts with
      | nil => rfl
      | cons part rest ihrest =>
          have hrest := ihrest fun other hother => ih other (List.mem_cons_of_mem _ hother)
          rw [List.filterMap_cons, List.flatMap_cons, ← hrest]
          cases hpart : part.simplify? with
          | none =>
              have hempty := (simplify?_eq_none_iff part).mp hpart
              rw [(isEmpty_iff_conditions_eq_nil part).mp hempty, List.nil_append]
          | some simplePart =>
              rw [List.flatMap_cons, ih part List.mem_cons_self hpart]

theorem flatMap_conditions_ofParts? (combinator : Combinator) (parts : List Criteria) :
    (ofParts? combinator parts).toList.flatMap conditions = parts.flatMap conditions := by
  cases hsimple : ofParts? combinator parts with
  | none => rw [ofParts?_eq_none_iff.mp hsimple, Option.toList_none]
  | some simple => rw [Option.toList_some, List.flatMap_singleton, conditions_ofParts? hsimple]

theorem flatMap_conditions_simplify? (criteria : Criteria) :
    criteria.simplify?.toList.flatMap conditions = criteria.conditions := by
  cases hsimple : criteria.simplify? with
  | none =>
      have hempty := (simplify?_eq_none_iff criteria).mp hsimple
      rw [(isEmpty_iff_conditions_eq_nil criteria).mp hempty, Option.toList_none, List.flatMap_nil]
  | some simple => rw [Option.toList_some, List.flatMap_singleton, conditions_simplify? hsimple]

/-- Every group of the tree has at least two parts. -/
inductive IsNormal : Criteria → Prop
  | condition (leaf : Condition) : IsNormal (.condition leaf)
  | group (combinator : Combinator) (parts : List Criteria) (hlength : 2 ≤ parts.length)
      (hparts : ∀ part ∈ parts, IsNormal part) : IsNormal (.group combinator parts)

theorem IsNormal.two_le_length {combinator : Combinator} {parts : List Criteria}
    (h : IsNormal (.group combinator parts)) : 2 ≤ parts.length := by
  cases h with
  | group _ _ hlength _ => exact hlength

theorem IsNormal.of_mem {combinator : Combinator} {parts : List Criteria} {part : Criteria}
    (h : IsNormal (.group combinator parts)) (hmem : part ∈ parts) : part.IsNormal := by
  cases h with
  | group _ _ _ hparts => exact hparts part hmem

theorem isNormal_simplify? {criteria simple : Criteria} (h : criteria.simplify? = some simple) :
    simple.IsNormal := by
  induction criteria using Criteria.induction generalizing simple with
  | condition leaf =>
      rw [simplify?_condition, Option.some.injEq] at h
      rw [← h]
      exact .condition leaf
  | group combinator parts ih =>
      rw [simplify?_group] at h
      have hnormal : ∀ part ∈ parts.filterMap simplify?, IsNormal part := by
        intro part hpart
        obtain ⟨origin, horigin, hsimple⟩ := List.mem_filterMap.mp hpart
        exact ih origin horigin hsimple
      generalize parts.filterMap simplify? = simpleParts at h hnormal
      rcases simpleParts with _ | ⟨first, _ | ⟨second, rest⟩⟩
      · cases h
      · cases h
        exact hnormal simple List.mem_cons_self
      · cases h
        exact .group combinator _ (by simp) hnormal

theorem IsNormal.isEmpty_eq_false {criteria : Criteria} (h : criteria.IsNormal) :
    criteria.isEmpty = false := by
  induction h with
  | condition leaf => exact isEmpty_condition leaf
  | group combinator parts hlength _ ih =>
      have hpos := Nat.lt_of_lt_of_le Nat.zero_lt_two hlength
      obtain ⟨part, hpart⟩ := List.exists_mem_of_length_pos hpos
      rw [isEmpty_group, List.all_eq_false]
      exact ⟨part, hpart, by rw [ih part hpart]; exact Bool.false_ne_true⟩

end EntityQuery.Criteria
