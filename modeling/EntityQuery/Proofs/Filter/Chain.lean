import EntityQuery.Proofs.Filter.Combination
import Mathlib.Data.Fintype.Order

/-!
# Chains of combinations

Criteria that are combined one after another mean what the calls say from left to right: each call
joins all that stands before it with its argument.  A criteria without a condition takes no part in
this, be it the first one or an argument.
-/

namespace EntityQuery

namespace Formula

variable {α : Type}

/-- If all atoms are as true as each other, the formula is so, too. -/
def IsIdempotent (formula : Formula α) : Prop :=
  ∀ (τ : Type) [Lattice τ] [BoundedOrder τ] (assigned : Nat → τ) (index : Nat) (value : τ),
    (∀ offset < formula.atoms.length, assigned (index + offset) = value) →
      formula.truth assigned index = value

theorem isIdempotent_atom (label : α) : (atom label).IsIdempotent := by
  intro τ _ _ assigned index value h
  rw [truth]
  exact h 0 Nat.zero_lt_one

theorem isIdempotent_combined (combinator : Combinator) {parts : List (Formula α)}
    (hne : parts ≠ []) (h : ∀ part ∈ parts, part.IsIdempotent) :
    (combined combinator parts).IsIdempotent := by
  intro τ _ _ assigned index value hassigned
  rw [atoms_combined] at hassigned
  induction parts generalizing index with
  | nil => exact absurd rfl hne
  | cons part rest ih =>
      obtain ⟨hpart, hrest⟩ := List.forall_mem_cons.mp h
      rw [List.flatMap_cons, List.length_append] at hassigned
      have hfirst : part.truth assigned index = value :=
        hpart τ assigned index value fun offset hoffset => hassigned offset (by omega)
      have hbehind : ∀ offset < (rest.flatMap atoms).length,
          assigned (index + part.atoms.length + offset) = value := by
        intro offset hoffset
        rw [Nat.add_assoc]
        exact hassigned _ (by omega)
      by_cases hnil : rest = []
      · subst hnil
        rw [← hfirst]
        exact (combined_singleton_agrees combinator part).truth_eq τ assigned index
      · have hothers := ih hnil hrest (index + part.atoms.length) hbehind
        cases combinator with
        | and =>
            rw [combined, truth] at hothers ⊢
            rw [truthOfAll, hfirst, hothers, inf_idem]
        | or =>
            rw [combined, truth] at hothers ⊢
            rw [truthOfAny, hfirst, hothers, sup_idem]

/-- Parentheses around the last two of three parts would be another formula. -/
theorem not_agrees_any_all {first second third : Formula α} (hfirst : first.IsIdempotent)
    (hthird : third.IsIdempotent) :
    ¬ (all [any [first, second], third]).Agrees (any [first, all [second, third]]) := by
  intro hagrees
  -- The first part holds and the third does not.
  let assigned : Nat → Bool := fun index => index < first.atoms.length
  have htrue : first.truth assigned 0 = true :=
    hfirst Bool assigned 0 true fun offset hoffset => by simpa [assigned] using hoffset
  have hfalse : third.truth assigned (any [first, second]).atoms.length = false := by
    refine hthird Bool assigned _ false fun offset _ => ?_
    have hlength : first.atoms.length ≤ (any [first, second]).atoms.length := by
      rw [show any [first, second] = combined .or [first, second] from rfl, atoms_combined,
        List.flatMap_cons, List.length_append]
      exact Nat.le_add_right _ _
    simp only [assigned, decide_eq_false_iff_not]
    omega
  have hleft : (all [any [first, second], third]).truth assigned 0 = false := by
    rw [truth, truthOfAll, truthOfAll, truthOfAll, Nat.zero_add, hfalse]
    simp
  have hright : (any [first, all [second, third]]).truth assigned 0 = true := by
    rw [truth, truthOfAny, htrue]
    simp
  rw [hagrees.truth_eq, hright] at hleft
  cases hleft

end Formula

namespace Criteria

/-- What is required; a criteria without a condition requires nothing. -/
def meaning? (criteria : Criteria) : Option (Formula Condition) :=
  if criteria.isEmpty then none else some criteria.meaning

/-- Both requirements together, or the one that there is. -/
def joinMeanings (combinator : Combinator) :
    Option (Formula Condition) → Option (Formula Condition) → Option (Formula Condition) :=
  Option.merge fun left right => .combined combinator [left, right]

def combineWith : Combinator → Criteria → Criteria → Criteria
  | .and => andWith
  | .or => orWith

/-- Calls one after another, each with its argument. -/
def chained (start : Criteria) (calls : List (Combinator × Criteria)) : Criteria :=
  calls.foldl (fun criteria call => combineWith call.1 criteria call.2) start

variable {criteria left right : Criteria}

theorem meaning?_of_isEmpty (h : criteria.isEmpty = true) : criteria.meaning? = none :=
  if_pos h

theorem meaning?_eq_some (h : criteria.isEmpty = false) :
    criteria.meaning? = some criteria.meaning :=
  if_neg (Bool.eq_false_iff.mp h)

theorem combineWith_eq (combinator : Combinator) : combineWith combinator = combine combinator := by
  cases combinator <;> rfl

theorem combineWith_of_left (combinator : Combinator) (h : left.isEmpty = true) :
    combineWith combinator left right = right := by
  rw [combineWith_eq]
  exact if_pos h

theorem combineWith_of_right (combinator : Combinator) (hleft : left.isEmpty = false)
    (h : right.isEmpty = true) : combineWith combinator left right = left := by
  rw [combineWith_eq, combine.eq_def, if_neg (Bool.eq_false_iff.mp hleft), if_pos h]

theorem meanings_eq_filterMap (parts : List Criteria) :
    meanings parts = parts.filterMap meaning? := by
  induction parts with
  | nil => rw [meanings, List.filterMap_nil]
  | cons part rest ih =>
      rw [meanings, List.filterMap_cons, ih]
      cases hempty : part.isEmpty with
      | true => rw [meaning?_of_isEmpty hempty, if_pos rfl]
      | false => rw [meaning?_eq_some hempty, if_neg Bool.false_ne_true]

theorem meaning?_eq_some_iff {formula : Formula Condition} :
    criteria.meaning? = some formula ↔ criteria.isEmpty = false ∧ criteria.meaning = formula := by
  cases hempty : criteria.isEmpty with
  | true => simp [meaning?_of_isEmpty hempty]
  | false => simp [meaning?_eq_some hempty]

theorem isIdempotent_meaning (h : criteria.isEmpty = false) : criteria.meaning.IsIdempotent := by
  induction criteria using Criteria.induction with
  | condition leaf =>
      rw [meaning]
      exact Formula.isIdempotent_atom leaf
  | group combinator parts ih =>
      rw [meaning, meanings_eq_filterMap]
      apply Formula.isIdempotent_combined
      · rw [isEmpty_group, List.all_eq_false] at h
        obtain ⟨part, hpart, hempty⟩ := h
        rw [Bool.not_eq_true] at hempty
        have hmem := List.mem_filterMap.mpr ⟨part, hpart, meaning?_eq_some hempty⟩
        exact List.ne_nil_of_mem hmem
      · intro formula hformula
        obtain ⟨part, hpart, hmeaning⟩ := List.mem_filterMap.mp hformula
        obtain ⟨hempty, rfl⟩ := meaning?_eq_some_iff.mp hmeaning
        exact ih part hpart hempty

/-! ### One call -/

theorem isEmpty_combine (combinator : Combinator) :
    (combine combinator left right).isEmpty = (left.isEmpty && right.isEmpty) := by
  rw [Bool.eq_iff_iff, Bool.and_eq_true, isEmpty_iff_conditions_eq_nil,
    isEmpty_iff_conditions_eq_nil, isEmpty_iff_conditions_eq_nil, conditions_combine,
    List.append_eq_nil_iff]

theorem meaning_combine_agrees (combinator : Combinator) (hleft : left.isEmpty = false)
    (hright : right.isEmpty = false) :
    (combine combinator left right).meaning.Agrees
      (.combined combinator [left.meaning, right.meaning]) := by
  have hempty : (combine combinator left right).isEmpty = false := by
    rw [isEmpty_combine, hleft, Bool.false_and]
  have hagrees := meanings_combine_agrees combinator left right
  rw [meanings_singleton hempty, meanings_singleton hleft, meanings_singleton hright] at hagrees
  exact (Formula.combined_singleton_agrees combinator _).symm.trans hagrees

/-- A call joins what stands before it with its argument, as far as there is a condition. -/
theorem meaning?_combine_agrees (combinator : Combinator) {before : Option (Formula Condition)}
    (h : Option.Rel Formula.Agrees left.meaning? before) :
    Option.Rel Formula.Agrees (combine combinator left right).meaning?
      (joinMeanings combinator before right.meaning?) := by
  rw [← combineWith_eq, joinMeanings]
  cases hleft : left.isEmpty with
  | true =>
      rw [meaning?_of_isEmpty hleft] at h
      cases h
      rw [combineWith_of_left combinator hleft, Option.merge_none_left]
      cases right.meaning? with
      | none => exact .none
      | some formula => exact .some (.refl formula)
  | false =>
      cases hright : right.isEmpty with
      | true =>
          rw [combineWith_of_right combinator hleft hright, meaning?_of_isEmpty hright,
            Option.merge_none_right]
          exact h
      | false =>
          have hempty : (combineWith combinator left right).isEmpty = false := by
            rw [combineWith_eq, isEmpty_combine, hleft, Bool.false_and]
          rw [meaning?_eq_some hleft] at h
          obtain @⟨_, formula, hformula⟩ := h
          rw [meaning?_eq_some hempty, meaning?_eq_some hright, combineWith_eq]
          apply Option.Rel.some
          exact (meaning_combine_agrees combinator hleft hright).trans
            (.combined combinator (.cons hformula (.cons (.refl _) .nil)))

/-- The first argument is joined before the second is. -/
theorem meaning_orWith_andWith_agrees {first second third : Criteria}
    (hfirst : first.isEmpty = false) (hsecond : second.isEmpty = false)
    (hthird : third.isEmpty = false) :
    ((first.orWith second).andWith third).meaning.Agrees
      (.all [.any [first.meaning, second.meaning], third.meaning]) := by
  have hor : (first.orWith second).isEmpty = false := by
    rw [orWith, isEmpty_combine, hfirst, Bool.false_and]
  refine (meaning_combine_agrees .and hor hthird).trans (.combined .and (.cons ?_ ?_))
  · exact meaning_combine_agrees .or hfirst hsecond
  · exact .cons (.refl _) .nil

/-! ### Calls one after another -/

theorem conditions_chained (start : Criteria) (calls : List (Combinator × Criteria)) :
    (start.chained calls).conditions = start.conditions ++ calls.flatMap (·.2.conditions) := by
  rw [chained]
  induction calls generalizing start with
  | nil => rw [List.foldl_nil, List.flatMap_nil, List.append_nil]
  | cons call calls ih =>
      rw [List.foldl_cons, ih, combineWith_eq, conditions_combine, List.flatMap_cons,
        List.append_assoc]

/-- What the calls say from left to right, where each joins what is required before it. -/
def joinCalls (before : Option (Formula Condition)) (calls : List (Combinator × Criteria)) :
    Option (Formula Condition) :=
  calls.foldl (fun before call => joinMeanings call.1 before call.2.meaning?) before

theorem meaning?_chained_agrees {start : Criteria} {before : Option (Formula Condition)}
    (h : Option.Rel Formula.Agrees start.meaning? before) (calls : List (Combinator × Criteria)) :
    Option.Rel Formula.Agrees (start.chained calls).meaning? (joinCalls before calls) := by
  rw [chained, joinCalls]
  induction calls generalizing start before with
  | nil => exact h
  | cons call calls ih =>
      rw [List.foldl_cons, List.foldl_cons, combineWith_eq]
      exact ih (meaning?_combine_agrees call.1 h)

/-- Criteria that are combined by calls one after another hold the conditions of all of them in
their order, and mean what the calls say from left to right.  So an alternative is not torn apart by
a conjunction behind it, and a criteria without a condition leaves the other one as it is. -/
theorem chained_follows_calls (start : Criteria) (calls : List (Combinator × Criteria)) :
    (start.chained calls).conditions = start.conditions ++ calls.flatMap (·.2.conditions) ∧
      Option.Rel Formula.Agrees (start.chained calls).meaning? (joinCalls start.meaning? calls) ∧
      (∀ first second third : Criteria, first.isEmpty = false → second.isEmpty = false →
        third.isEmpty = false →
          ((first.orWith second).andWith third).meaning.Agrees
              (.all [.any [first.meaning, second.meaning], third.meaning]) ∧
            ¬ ((first.orWith second).andWith third).meaning.Agrees
              (.any [first.meaning, .all [second.meaning, third.meaning]])) ∧
      ∀ combinator (left right : Criteria),
        (left.isEmpty = true → combineWith combinator left right = right) ∧
          (left.isEmpty = false → right.isEmpty = true →
            combineWith combinator left right = left) := by
  refine ⟨conditions_chained start calls, ?_, ?_, ?_⟩
  · apply meaning?_chained_agrees
    cases start.meaning? with
    | none => exact .none
    | some formula => exact .some (.refl formula)
  · intro first second third hfirst hsecond hthird
    have hagrees := meaning_orWith_andWith_agrees hfirst hsecond hthird
    refine ⟨hagrees, fun hother => ?_⟩
    exact Formula.not_agrees_any_all (isIdempotent_meaning hfirst) (isIdempotent_meaning hthird)
      (hagrees.symm.trans hother)
  · exact fun combinator left right =>
      ⟨combineWith_of_left combinator, combineWith_of_right combinator⟩

/-- An alternative and a conjunction, with criteria in between that hold no condition. -/
theorem chained_follows_calls_of_three :
    let first : Condition := .test .isTrue "active"
    let second : Condition := .compare .eq "role" (.text "owner")
    let third : Condition := .test .isNull "deleted_at"
    let calls : List (Combinator × Criteria) :=
      [(.or, .condition first), (.and, .empty), (.or, .group .and [.empty, .condition second]),
        (.and, .condition third)]
    ((group .or []).chained calls).conditions = [first, second, third] ∧
      Option.Rel Formula.Agrees ((group .or []).chained calls).meaning?
        (some (.all [.any [.atom first, .all [.atom second]], .atom third])) ∧
      ((((condition first).orWith (.condition second)).andWith (.condition third)).meaning.Agrees
          (.all [.any [.atom first, .atom second], .atom third]) ∧
        ¬ (((condition first).orWith (.condition second)).andWith
            (.condition third)).meaning.Agrees
          (.any [.atom first, .all [.atom second, .atom third]])) := by
  intro first second third calls
  obtain ⟨hconditions, hmeaning, hthree, -⟩ := chained_follows_calls (group .or []) calls
  exact ⟨hconditions, hmeaning, hthree (.condition first) (.condition second) (.condition third)
    rfl rfl rfl⟩

end Criteria

end EntityQuery
