import EntityQuery.Proofs.Filter.Meaning

/-!
# Combined criteria

Combining replaces a side without a condition, extends a group of the same kind and nests what is
left.  In each case the conditions are those of the left side and then those of the right one, and
what is meant is what both mean together.
-/

namespace EntityQuery.Criteria

theorem meanings_append (parts others : List Criteria) :
    meanings (parts ++ others) = meanings parts ++ meanings others := by
  induction parts with
  | nil => rw [List.nil_append, meanings, List.nil_append]
  | cons part rest ih =>
      rw [List.cons_append, meanings, meanings, ih]
      by_cases hempty : part.isEmpty = true
      · rw [if_pos hempty, if_pos hempty]
      · rw [if_neg hempty, if_neg hempty, List.cons_append]

/-- What is meant by a single criteria, which may hold no condition. -/
theorem meanings_singleton_of_isEmpty {criteria : Criteria} (h : criteria.isEmpty = true) :
    meanings [criteria] = [] := by
  rw [meanings, if_pos h, meanings]

theorem meanings_singleton {criteria : Criteria} (h : criteria.isEmpty = false) :
    meanings [criteria] = [criteria.meaning] := by
  rw [meanings, h, if_neg Bool.false_ne_true, meanings]

theorem meanings_eq_nil {parts : List Criteria} (h : ∀ part ∈ parts, part.isEmpty = true) :
    meanings parts = [] := by
  induction parts with
  | nil => rw [meanings]
  | cons part rest ih =>
      obtain ⟨hpart, hrest⟩ := List.forall_mem_cons.mp h
      rw [meanings, if_pos hpart, ih hrest]

/-! ### Groups and what they are simplified to -/

theorem meanings_group_agrees (combinator : Combinator) (parts : List Criteria) :
    (Formula.combined combinator (meanings [.group combinator parts])).Agrees
      (.combined combinator (meanings parts)) := by
  by_cases hempty : (group combinator parts).isEmpty = true
  · rw [meanings_singleton_of_isEmpty hempty]
    rw [isEmpty_group, List.all_eq_true] at hempty
    rw [meanings_eq_nil hempty]
    exact .refl _
  · rw [meanings_singleton (Bool.eq_false_iff.mpr hempty), meaning]
    exact Formula.combined_singleton_agrees combinator _

theorem meanings_ofParts?_agrees (combinator : Combinator) (parts : List Criteria) :
    (Formula.combined combinator (meanings (ofParts? combinator parts).toList)).Agrees
      (.combined combinator (meanings parts)) := by
  rcases parts with _ | ⟨first, _ | ⟨second, rest⟩⟩
  · exact .refl _
  · exact .refl _
  · exact meanings_group_agrees combinator (first :: second :: rest)

theorem meanings_simplify?_agrees (combinator : Combinator) (criteria : Criteria) :
    (Formula.combined combinator (meanings criteria.simplify?.toList)).Agrees
      (.combined combinator (meanings [criteria])) := by
  cases hsimple : criteria.simplify? with
  | none =>
      have hempty := (simplify?_eq_none_iff criteria).mp hsimple
      rw [meanings_singleton_of_isEmpty hempty, Option.toList_none, meanings]
      exact .refl _
  | some simple =>
      have hempty : criteria.isEmpty = false := by
        rw [Bool.eq_false_iff, Ne, ← simplify?_eq_none_iff, hsimple]
        exact Option.some_ne_none simple
      rw [Option.toList_some, meanings_singleton (isEmpty_eq_false_of_simplify? hsimple),
        meanings_singleton hempty]
      exact .combined combinator (.cons (meaning_simplify?_agrees hsimple) .nil)

/-! ### Two criteria -/

/-- There is nothing to combine, or the group on the left is extended, or both become the parts of
a group. -/
theorem combine_cases (combinator : Combinator) (left right : Criteria) :
    (left.isEmpty = true ∧ combine combinator left right = right) ∨
    (right.isEmpty = true ∧ combine combinator left right = left) ∨
    (left.isEmpty = false ∧ right.isEmpty = false ∧
      ((∃ parts, left = .group combinator parts ∧
          combine combinator left right = .group combinator (parts ++ [right])) ∨
        combine combinator left right = .group combinator [left, right])) := by
  unfold combine
  by_cases hleft : left.isEmpty = true
  · exact .inl ⟨hleft, if_pos hleft⟩
  by_cases hright : right.isEmpty = true
  · exact .inr (.inl ⟨hright, by rw [if_neg hleft, if_pos hright]⟩)
  refine .inr (.inr ⟨Bool.eq_false_iff.mpr hleft, Bool.eq_false_iff.mpr hright, ?_⟩)
  rw [if_neg hleft, if_neg hright]
  cases left with
  | condition leaf => exact .inr rfl
  | group existing parts =>
      by_cases hkind : existing = combinator
      · subst hkind
        exact .inl ⟨parts, rfl, if_pos rfl⟩
      · exact .inr (if_neg hkind)

theorem conditions_combine (combinator : Combinator) (left right : Criteria) :
    (combine combinator left right).conditions = left.conditions ++ right.conditions := by
  obtain ⟨hleft, h⟩ | ⟨hright, h⟩ | ⟨-, -, ⟨parts, rfl, h⟩ | h⟩ :=
    combine_cases combinator left right
  · rw [h, (isEmpty_iff_conditions_eq_nil left).mp hleft, List.nil_append]
  · rw [h, (isEmpty_iff_conditions_eq_nil right).mp hright, List.append_nil]
  · rw [h, conditions_group, conditions_group, List.flatMap_append, List.flatMap_singleton]
  · rw [h, conditions_group, List.flatMap_cons, List.flatMap_singleton]

theorem meanings_combine_agrees (combinator : Combinator) (left right : Criteria) :
    (Formula.combined combinator (meanings [combine combinator left right])).Agrees
      (.combined combinator (meanings [left] ++ meanings [right])) := by
  obtain ⟨hleft, h⟩ | ⟨hright, h⟩ | ⟨hleft, hright, hgroup⟩ := combine_cases combinator left right
  · rw [h, meanings_singleton_of_isEmpty hleft, List.nil_append]
    exact .refl _
  · rw [h, meanings_singleton_of_isEmpty hright, List.append_nil]
    exact .refl _
  · have hempty : (combine combinator left right).isEmpty = false := by
      rw [Bool.eq_false_iff, Ne, isEmpty_iff_conditions_eq_nil, conditions_combine,
        List.append_eq_nil_iff, not_and_or, ← isEmpty_iff_conditions_eq_nil, hleft]
      exact .inl Bool.false_ne_true
    rw [meanings_singleton hempty, meanings_singleton hleft, meanings_singleton hright]
    refine (Formula.combined_singleton_agrees combinator _).trans ?_
    obtain ⟨parts, rfl, h⟩ | h := hgroup
    · rw [h, meaning, meaning, meanings_append, meanings_singleton hright]
      exact .combined_append (Formula.combined_singleton_agrees combinator _).symm (.refl _)
    · rw [h, meaning, meanings, hleft, if_neg Bool.false_ne_true, meanings_singleton hright]
      exact .refl _

end EntityQuery.Criteria
