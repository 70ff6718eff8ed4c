import EntityQuery.Proofs.Filter.Formula

/-!
# What a criteria means

A group is the conjunction or the alternative of those of its parts that hold a condition.
Simplification does not change what a criteria means, although it changes the tree.
-/

namespace EntityQuery.Criteria

mutual

def meaning : Criteria → Formula Condition
  | .condition leaf => .atom leaf
  | .group combinator parts => .combined combinator (meanings parts)

/-- The meanings of those that hold a condition. -/
def meanings : List Criteria → List (Formula Condition)
  | [] => []
  | part :: rest => if part.isEmpty then meanings rest else part.meaning :: meanings rest

end

theorem meanings_eq_map {parts : List Criteria} (h : ∀ part ∈ parts, part.isEmpty = false) :
    meanings parts = parts.map meaning := by
  induction parts with
  | nil => rw [meanings, List.map_nil]
  | cons part rest ih =>
      obtain ⟨hpart, hrest⟩ := List.forall_mem_cons.mp h
      rw [meanings, hpart, if_neg Bool.false_ne_true, ih hrest, List.map_cons]

theorem flatMap_atoms_meanings {parts : List Criteria}
    (h : ∀ part ∈ parts, part.meaning.atoms = part.conditions) :
    (meanings parts).flatMap Formula.atoms = parts.flatMap conditions := by
  induction parts with
  | nil => rw [meanings, List.flatMap_nil, List.flatMap_nil]
  | cons part rest ih =>
      obtain ⟨hpart, hrest⟩ := List.forall_mem_cons.mp h
      rw [meanings, List.flatMap_cons, ← ih hrest]
      by_cases hempty : part.isEmpty = true
      · rw [if_pos hempty, (isEmpty_iff_conditions_eq_nil part).mp hempty, List.nil_append]
      · rw [if_neg hempty, List.flatMap_cons, hpart]

/-- The atoms are the conditions. -/
theorem atoms_meaning (criteria : Criteria) : criteria.meaning.atoms = criteria.conditions := by
  induction criteria using Criteria.induction with
  | condition leaf => rw [meaning, Formula.atoms, conditions_condition]
  | group combinator parts ih =>
      rw [meaning, Formula.atoms_combined, flatMap_atoms_meanings ih, conditions_group]

theorem atoms_all_meanings (parts : List Criteria) :
    (Formula.all (meanings parts)).atoms = parts.flatMap conditions :=
  (Formula.atoms_combined .and _).trans
    (flatMap_atoms_meanings fun part _ => part.atoms_meaning)

theorem isEmpty_eq_false_of_simplify? {criteria simple : Criteria}
    (h : criteria.simplify? = some simple) : simple.isEmpty = false := by
  rw [Bool.eq_false_iff, Ne, isEmpty_iff_conditions_eq_nil, conditions_simplify? h,
    ← isEmpty_iff_conditions_eq_nil, ← simplify?_eq_none_iff, h]
  exact Option.some_ne_none simple

/-! ### Simplified criteria mean the same -/

theorem meanings_agree {parts : List Criteria}
    (h : ∀ part ∈ parts, ∀ simple, part.simplify? = some simple →
      simple.meaning.Agrees part.meaning) :
    List.Forall₂ Formula.Agrees ((parts.filterMap simplify?).map meaning) (meanings parts) := by
  induction parts with
  | nil =>
      rw [meanings]
      exact .nil
  | cons part rest ih =>
      obtain ⟨hpart, hrest⟩ := List.forall_mem_cons.mp h
      rw [meanings, List.filterMap_cons]
      cases hsimple : part.simplify? with
      | none =>
          rw [if_pos ((simplify?_eq_none_iff part).mp hsimple)]
          exact ih hrest
      | some simple =>
          have hempty : part.isEmpty ≠ true := by
            rw [Ne, ← simplify?_eq_none_iff, hsimple]
            exact Option.some_ne_none simple
          rw [if_neg hempty]
          exact .cons (hpart simple hsimple) (ih hrest)

theorem meaning_ofParts? {combinator : Combinator} {parts : List Criteria} {simple : Criteria}
    (hparts : ∀ part ∈ parts, part.isEmpty = false) (h : ofParts? combinator parts = some simple) :
    simple.meaning.Agrees (.combined combinator (parts.map meaning)) := by
  rcases parts with _ | ⟨first, _ | ⟨second, rest⟩⟩
  · cases h
  · cases h
    exact (Formula.combined_singleton_agrees combinator _).symm
  · cases h
    rw [meaning, meanings_eq_map hparts]
    exact .refl _

theorem meaning_simplify?_agrees {criteria simple : Criteria}
    (h : criteria.simplify? = some simple) : simple.meaning.Agrees criteria.meaning := by
  induction criteria using Criteria.induction generalizing simple with
  | condition leaf =>
      rw [simplify?_condition, Option.some.injEq] at h
      rw [← h]
      exact .refl _
  | group combinator parts ih =>
      rw [simplify?_group] at h
      have hparts : ∀ part ∈ parts.filterMap simplify?, part.isEmpty = false := by
        intro part hpart
        obtain ⟨origin, -, hsimple⟩ := List.mem_filterMap.mp hpart
        exact isEmpty_eq_false_of_simplify? hsimple
      refine (meaning_ofParts? hparts h).trans ?_
      rw [meaning]
      exact .combined combinator (meanings_agree fun part hpart _ hsimple => ih part hpart hsimple)

end EntityQuery.Criteria
