import EntityQuery.Proofs.Filter.Holding
import EntityQuery.Proofs.Filter.Meaning
import Mathlib.Logic.Relation

/-!
# Normal forms of criteria

Simplification can be taken apart into single steps: an empty group is dropped from the group around
it, and a group of one part is replaced by this part.  Unwrapping may bring a group of the other kind
to the surface, but no step changes what a tree is simplified to.  So the order of the steps does not
matter: from each tree that they reach they lead on to the one that simplification gives, and this
one leaves nothing to drop or to unwrap.
-/

namespace EntityQuery.Criteria

open Relation (ReflTransGen)

/-- A criteria is within another one if it is the same or within a part of it. -/
inductive Within (part : Criteria) : Criteria → Prop
  | self : Within part part
  | part {other : Criteria} {combinator : Combinator} {parts : List Criteria}
      (hmem : other ∈ parts) (h : Within part other) : Within part (.group combinator parts)

/-- One step of simplification, at the top of the tree or inside of it. -/
inductive Simplifies : Criteria → Criteria → Prop
  | drop (combinator inner : Combinator) (front back : List Criteria) :
      Simplifies (.group combinator (front ++ .group inner [] :: back))
        (.group combinator (front ++ back))
  | unwrap (combinator : Combinator) (part : Criteria) :
      Simplifies (.group combinator [part]) part
  | inside (combinator : Combinator) (front back : List Criteria) {part other : Criteria}
      (h : Simplifies part other) :
      Simplifies (.group combinator (front ++ part :: back))
        (.group combinator (front ++ other :: back))

/-- There is nothing to drop or to unwrap. -/
def IsSimple (criteria : Criteria) : Prop :=
  ∀ other, ¬ Simplifies criteria other

variable {criteria other part simple : Criteria}

/-! ### Normal trees -/

theorem IsNormal.of_within (h : criteria.IsNormal) (hpart : part.Within criteria) :
    part.IsNormal := by
  induction hpart with
  | self => exact h
  | part hmem _ ih => exact ih (h.of_mem hmem)

theorem IsNormal.isSimple (h : criteria.IsNormal) : criteria.IsSimple := by
  intro other hstep
  induction hstep with
  | drop combinator inner front back =>
      have hinner : IsNormal (.group inner []) := h.of_mem (by simp)
      exact absurd hinner.two_le_length (by simp)
  | unwrap combinator part => exact absurd h.two_le_length (by simp)
  | inside combinator front back _ ih => exact ih (h.of_mem (by simp))

/-- Simplification leaves a normal tree as it is. -/
theorem IsNormal.simplify?_eq (h : criteria.IsNormal) : criteria.simplify? = some criteria := by
  induction h with
  | condition leaf => exact simplify?_condition leaf
  | group combinator parts hlength _ ih =>
      have hparts : parts.filterMap simplify? = parts := by
        rw [List.filterMap_congr ih, List.filterMap_some]
      rw [simplify?_group, hparts]
      match parts, hlength with
      | first :: second :: rest, _ => rfl

/-! ### What the steps keep -/

theorem Simplifies.simplify?_eq (h : Simplifies criteria other) :
    criteria.simplify? = other.simplify? := by
  induction h with
  | drop combinator inner front back =>
      have hnone : (group inner []).simplify? = none := by
        rw [simplify?_group, List.filterMap_nil, ofParts?]
      rw [simplify?_group, simplify?_group, List.filterMap_append, List.filterMap_append,
        List.filterMap_cons_none hnone]
  | unwrap combinator part =>
      rw [simplify?_group, List.filterMap_cons, List.filterMap_nil]
      cases part.simplify? <;> rfl
  | inside combinator front back _ ih =>
      rw [simplify?_group, simplify?_group, List.filterMap_append, List.filterMap_append,
        List.filterMap_cons, List.filterMap_cons, ih]

theorem simplify?_eq_of_steps (h : ReflTransGen Simplifies criteria other) :
    criteria.simplify? = other.simplify? := by
  induction h with
  | refl => rfl
  | tail _ hstep ih => exact ih.trans hstep.simplify?_eq

/-! ### Simplification as a sequence of steps -/

theorem steps_inside (combinator : Combinator) (front back : List Criteria)
    (h : ReflTransGen Simplifies part other) :
    ReflTransGen Simplifies (group combinator (front ++ part :: back))
      (group combinator (front ++ other :: back)) :=
  h.lift (fun part => group combinator (front ++ part :: back))
    fun _ _ => .inside combinator front back

/-- The parts of a group are simplified one after another; those in front are done. -/
theorem steps_parts (combinator : Combinator) (front : List Criteria) {parts : List Criteria}
    (h : ∀ part ∈ parts, ∃ inner,
      ReflTransGen Simplifies part (part.simplify?.getD (group inner []))) :
    ReflTransGen Simplifies (group combinator (front ++ parts))
      (group combinator (front ++ parts.filterMap simplify?)) := by
  induction parts generalizing front with
  | nil => exact .refl
  | cons part rest ih =>
      obtain ⟨⟨inner, hpart⟩, hrest⟩ := List.forall_mem_cons.mp h
      refine (steps_inside combinator front rest hpart).trans ?_
      cases hsimple : part.simplify? with
      | none =>
          rw [Option.getD_none, List.filterMap_cons_none hsimple]
          exact .head (.drop combinator inner front rest) (ih front hrest)
      | some simple =>
          rw [Option.getD_some, List.filterMap_cons_some hsimple]
          have hsteps := ih (front ++ [simple]) hrest
          rwa [List.append_assoc, List.append_assoc] at hsteps

theorem steps_ofParts? (combinator : Combinator) (parts : List Criteria) :
    ReflTransGen Simplifies (group combinator parts)
      ((ofParts? combinator parts).getD (group combinator [])) := by
  rcases parts with _ | ⟨first, _ | ⟨second, rest⟩⟩
  · exact .refl
  · exact .single (.unwrap combinator first)
  · exact .refl

/-- The steps lead to the simplified criteria, or to an empty group if there is none. -/
theorem steps_simplify? (criteria : Criteria) :
    ∃ combinator, ReflTransGen Simplifies criteria
      (criteria.simplify?.getD (group combinator [])) := by
  induction criteria using Criteria.induction with
  | condition leaf =>
      rw [simplify?_condition]
      exact ⟨.and, .refl⟩
  | group combinator parts ih =>
      refine ⟨combinator, (steps_parts combinator [] ih).trans ?_⟩
      rw [simplify?_group]
      exact steps_ofParts? combinator (parts.filterMap simplify?)

/-! ### The normal form -/

/-- The normal form of a criteria that holds a condition. -/
structure IsNormalFormOf (simple criteria : Criteria) : Prop where
  two_le_length : ∀ combinator parts, Within (.group combinator parts) simple → 2 ≤ parts.length
  isEmpty_eq_false : ∀ part, Within part simple → part.isEmpty = false
  conditions_eq : simple.conditions = criteria.conditions
  /-- Both have the same truth value, whatever those of the conditions are.  They may be taken from
  any lattice, and conditions at two places have values of their own even if written alike. -/
  agrees : simple.meaning.Agrees criteria.meaning
  /-- However conditions are judged, one holds exactly if the other does. -/
  holds_eq : ∀ judge : Condition → Bool, simple.meaning.holds judge = criteria.meaning.holds judge
  simplify?_eq : simple.simplify? = some simple
  isSimple : simple.IsSimple
  /-- Whatever has been dropped and unwrapped already, the steps lead on to the normal form. -/
  reached : ∀ other, ReflTransGen Simplifies criteria other → ReflTransGen Simplifies other simple

theorem isNormalFormOf_of_simplify? (h : criteria.simplify? = some simple) :
    simple.IsNormalFormOf criteria := by
  have hnormal : simple.IsNormal := isNormal_simplify? h
  have hconditions : simple.conditions = criteria.conditions := conditions_simplify? h
  have hagrees : simple.meaning.Agrees criteria.meaning := meaning_simplify?_agrees h
  constructor
  case two_le_length => exact fun _ _ hwithin => (hnormal.of_within hwithin).two_le_length
  case isEmpty_eq_false => exact fun _ hwithin => (hnormal.of_within hwithin).isEmpty_eq_false
  case conditions_eq => exact hconditions
  case agrees => exact hagrees
  case holds_eq =>
    refine hagrees.holds_eq ?_
    rw [atoms_meaning, atoms_meaning, hconditions]
  case simplify?_eq => exact hnormal.simplify?_eq
  case isSimple => exact hnormal.isSimple
  case reached =>
    intro other hsteps
    obtain ⟨combinator, hothers⟩ := steps_simplify? other
    rwa [← simplify?_eq_of_steps hsteps, h, Option.getD_some] at hothers

/-- Simplification gives nothing exactly for a criteria without a condition, and else the normal
form. -/
theorem simplify?_gives_normal_form (criteria : Criteria) :
    (criteria.simplify? = none ↔ criteria.isEmpty = true) ∧
      (criteria.isEmpty = true ↔ criteria.conditions = []) ∧
      (criteria.isEmpty = false →
        ∃ simple, criteria.simplify? = some simple ∧ simple.IsNormalFormOf criteria) := by
  refine ⟨simplify?_eq_none_iff criteria, isEmpty_iff_conditions_eq_nil criteria, ?_⟩
  intro hempty
  cases hsimple : criteria.simplify? with
  | none =>
      rw [(simplify?_eq_none_iff criteria).mp hsimple] at hempty
      cases hempty
  | some simple => exact ⟨simple, rfl, isNormalFormOf_of_simplify? hsimple⟩

/-- A conjunction of which a nested alternative is left. -/
theorem simplify?_gives_normal_form_of_nested :
    let first : Criteria := .condition (.test .isTrue "active")
    let second : Criteria := .condition (.compare .eq "role" (.text "owner"))
    let criteria : Criteria :=
      .group .and [.group .or [], .group .and [.group .or [first, .group .and [second]]],
        .group .or [.empty]]
    criteria.isEmpty = false ∧ criteria.simplify? = some (.group .or [first, second]) ∧
      (group .or [first, second]).IsNormalFormOf criteria := by
  intro first second criteria
  have hempty : criteria.isEmpty = false := rfl
  have hcomputed : criteria.simplify? = some (.group .or [first, second]) := rfl
  obtain ⟨simple, hsimple, hnormal⟩ := (simplify?_gives_normal_form criteria).2.2 hempty
  obtain rfl : simple = .group .or [first, second] :=
    Option.some.inj (hsimple.symm.trans hcomputed)
  exact ⟨hempty, hcomputed, hnormal⟩

end EntityQuery.Criteria
