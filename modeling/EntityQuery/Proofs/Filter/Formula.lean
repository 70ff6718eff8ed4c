import EntityQuery.Proofs.Filter.Simplification
import Mathlib.Order.BoundedOrder.Lattice

/-!
# Formulas

A filter means a formula over its conditions.  Truth values are those of a bounded lattice, in which
a conjunction takes the lesser and an alternative the greater value: so are the two of classical
logic, and so are the three of SQL, where the unknown stands between false and true.

The atoms of a formula are told apart by their positions and not by their labels, since conditions
may be written alike and yet compare with different values.
-/

namespace EntityQuery

inductive Formula (α : Type) where
  | atom (label : α)
  | all (parts : List (Formula α))
  | any (parts : List (Formula α))

namespace Formula

variable {α β γ : Type}

mutual

/-- The labels of the atoms from left to right. -/
def atoms : Formula α → List α
  | .atom label => [label]
  | .all parts => atomsOf parts
  | .any parts => atomsOf parts

def atomsOf : List (Formula α) → List α
  | [] => []
  | part :: rest => part.atoms ++ atomsOf rest

end

section Truth

variable {τ : Type} [Lattice τ] [BoundedOrder τ] (assigned : Nat → τ)

mutual

/-- The truth value of a formula before which `index` atoms stand. -/
def truth : Nat → Formula α → τ
  | index, .atom _ => assigned index
  | index, .all parts => truthOfAll index parts
  | index, .any parts => truthOfAny index parts

def truthOfAll : Nat → List (Formula α) → τ
  | _, [] => ⊤
  | index, part :: rest => part.truth index ⊓ truthOfAll (index + part.atoms.length) rest

def truthOfAny : Nat → List (Formula α) → τ
  | _, [] => ⊥
  | index, part :: rest => part.truth index ⊔ truthOfAny (index + part.atoms.length) rest

end

end Truth

def combined : Combinator → List (Formula α) → Formula α
  | .and => .all
  | .or => .any

/-- As many atoms, and the same truth value whatever those of the atoms are. -/
structure Agrees (formula : Formula α) (other : Formula β) : Prop where
  length_eq : formula.atoms.length = other.atoms.length
  truth_eq : ∀ (τ : Type) [Lattice τ] [BoundedOrder τ] (assigned : Nat → τ) (index : Nat),
    formula.truth assigned index = other.truth assigned index

theorem atoms_combined (combinator : Combinator) (parts : List (Formula α)) :
    (combined combinator parts).atoms = parts.flatMap atoms := by
  have hatoms : ∀ formulas : List (Formula α), atomsOf formulas = formulas.flatMap atoms := by
    intro formulas
    induction formulas with
    | nil => rfl
    | cons formula rest ih => rw [atomsOf, ih, List.flatMap_cons]
  cases combinator with
  | and => rw [combined, atoms, hatoms]
  | or => rw [combined, atoms, hatoms]

theorem length_atoms_congr {formulas : List (Formula α)} {others : List (Formula β)}
    (h : List.Forall₂ Agrees formulas others) :
    (formulas.flatMap atoms).length = (others.flatMap atoms).length := by
  induction h with
  | nil => rfl
  | cons hagrees _ ih =>
      rw [List.flatMap_cons, List.flatMap_cons, List.length_append, List.length_append,
        hagrees.length_eq, ih]

namespace Agrees

theorem refl (formula : Formula α) : formula.Agrees formula :=
  ⟨rfl, fun _ _ _ _ _ => rfl⟩

theorem symm {formula : Formula α} {other : Formula β} (h : formula.Agrees other) :
    other.Agrees formula :=
  ⟨h.length_eq.symm, fun τ _ _ assigned index => (h.truth_eq τ assigned index).symm⟩

theorem trans {formula : Formula α} {middle : Formula β} {other : Formula γ}
    (h : formula.Agrees middle) (hother : middle.Agrees other) : formula.Agrees other :=
  ⟨h.length_eq.trans hother.length_eq, fun τ _ _ assigned index =>
    (h.truth_eq τ assigned index).trans (hother.truth_eq τ assigned index)⟩

theorem combined (combinator : Combinator) {formulas : List (Formula α)} {others : List (Formula β)}
    (h : List.Forall₂ Agrees formulas others) :
    (combined combinator formulas).Agrees (Formula.combined combinator others) := by
  refine ⟨by rw [atoms_combined, atoms_combined, length_atoms_congr h], ?_⟩
  intro τ _ _ assigned index
  cases combinator with
  | and =>
      rw [Formula.combined, Formula.combined, truth, truth]
      induction h generalizing index with
      | nil => rfl
      | cons hagrees _ ih =>
          rw [truthOfAll, truthOfAll, hagrees.truth_eq, hagrees.length_eq, ih]
  | or =>
      rw [Formula.combined, Formula.combined, truth, truth]
      induction h generalizing index with
      | nil => rfl
      | cons hagrees _ ih =>
          rw [truthOfAny, truthOfAny, hagrees.truth_eq, hagrees.length_eq, ih]

end Agrees

/-- A group of one part is that part. -/
theorem combined_singleton_agrees (combinator : Combinator) (formula : Formula α) :
    (combined combinator [formula]).Agrees formula := by
  refine ⟨by rw [atoms_combined, List.flatMap_singleton], ?_⟩
  intro τ _ _ assigned index
  cases combinator with
  | and => rw [combined, truth, truthOfAll, truthOfAll, inf_top_eq]
  | or => rw [combined, truth, truthOfAny, truthOfAny, sup_bot_eq]

theorem truthOfAll_append {τ : Type} [Lattice τ] [BoundedOrder τ] (assigned : Nat → τ)
    (index : Nat) (left right : List (Formula α)) :
    truthOfAll assigned index (left ++ right) =
      truthOfAll assigned index left ⊓
        truthOfAll assigned (index + (left.flatMap atoms).length) right := by
  induction left generalizing index with
  | nil => simp [truthOfAll]
  | cons part left ih =>
      rw [List.cons_append, truthOfAll, truthOfAll, ih, List.flatMap_cons, List.length_append,
        inf_assoc, Nat.add_assoc]

theorem truthOfAny_append {τ : Type} [Lattice τ] [BoundedOrder τ] (assigned : Nat → τ)
    (index : Nat) (left right : List (Formula α)) :
    truthOfAny assigned index (left ++ right) =
      truthOfAny assigned index left ⊔
        truthOfAny assigned (index + (left.flatMap atoms).length) right := by
  induction left generalizing index with
  | nil => simp [truthOfAny]
  | cons part left ih =>
      rw [List.cons_append, truthOfAny, truthOfAny, ih, List.flatMap_cons, List.length_append,
        sup_assoc, Nat.add_assoc]

/-- Groups inside a group of their kind need no parentheses. -/
theorem combined_flatten_agrees (combinator : Combinator) (groups : List (List (Formula α))) :
    (combined combinator groups.flatten).Agrees
      (combined combinator (groups.map (combined combinator))) := by
  constructor
  · rw [atoms_combined, atoms_combined, List.flatMap_map, List.flatten_eq_flatMap,
      List.flatMap_assoc]
    exact congrArg List.length
      (List.flatMap_congr fun parts _ => (atoms_combined combinator parts).symm)
  · intro τ _ _ assigned index
    cases combinator with
    | and =>
        rw [combined, truth, truth]
        induction groups generalizing index with
        | nil => rfl
        | cons parts rest ih =>
            have hatoms : (all parts).atoms = parts.flatMap atoms := atoms_combined .and parts
            rw [List.flatten_cons, truthOfAll_append, List.map_cons, truthOfAll, truth, ih, hatoms]
    | or =>
        rw [combined, truth, truth]
        induction groups generalizing index with
        | nil => rfl
        | cons parts rest ih =>
            have hatoms : (any parts).atoms = parts.flatMap atoms := atoms_combined .or parts
            rw [List.flatten_cons, truthOfAny_append, List.map_cons, truthOfAny, truth, ih, hatoms]

/-- Parts may be replaced by others that are as true together. -/
theorem Agrees.combined_append {combinator : Combinator}
    {left left' right right' : List (Formula α)}
    (hleft : (Formula.combined combinator left).Agrees (Formula.combined combinator left'))
    (hright : (Formula.combined combinator right).Agrees (Formula.combined combinator right')) :
    (Formula.combined combinator (left ++ right)).Agrees
      (Formula.combined combinator (left' ++ right')) := by
  have hflat : ∀ first second : List (Formula α),
      (Formula.combined combinator (first ++ second)).Agrees (Formula.combined combinator
        [Formula.combined combinator first, Formula.combined combinator second]) := by
    intro first second
    have hgroups := combined_flatten_agrees combinator [first, second]
    rwa [List.flatten_cons, List.flatten_cons, List.flatten_nil, List.append_nil] at hgroups
  exact (hflat left right).trans
    ((Agrees.combined combinator (.cons hleft (.cons hright .nil))).trans
      (hflat left' right').symm)

end Formula

end EntityQuery
