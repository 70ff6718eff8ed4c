import EntityQuery.Proofs.Filter.Formula
import Mathlib.Data.Fintype.Order

/-!
# Formulas that hold

Where every label is judged, a formula holds or it does not.  This is its truth where the atoms at
all positions are assigned what their labels are judged, so formulas that agree and have the same
atoms hold together.
-/

namespace EntityQuery.Formula

variable {α : Type} (judge : α → Bool)

mutual

def holds : Formula α → Bool
  | .atom label => judge label
  | .all parts => allHold parts
  | .any parts => anyHolds parts

def allHold : List (Formula α) → Bool
  | [] => true
  | part :: rest => part.holds && allHold rest

def anyHolds : List (Formula α) → Bool
  | [] => false
  | part :: rest => part.holds || anyHolds rest

end

theorem holds_all (parts : List (Formula α)) :
    (all parts).holds judge = parts.all (holds judge) := by
  rw [holds]
  induction parts with
  | nil => rfl
  | cons part rest ih => rw [allHold, ih, List.all_cons]

/-- The positions from an index on are assigned what these labels are judged. -/
def Assigned (assigned : Nat → Bool) (index : Nat) (labels : List α) : Prop :=
  ∀ offset label, labels[offset]? = some label → assigned (index + offset) = judge label

variable {judge} {assigned : Nat → Bool} {index : Nat}

theorem Assigned.left {labels others : List α}
    (h : Assigned judge assigned index (labels ++ others)) :
    Assigned judge assigned index labels := by
  intro offset label hlabel
  have hoffset := (List.getElem?_eq_some_iff.mp hlabel).1
  exact h offset label ((List.getElem?_append_left hoffset).trans hlabel)

theorem Assigned.right {labels others : List α}
    (h : Assigned judge assigned index (labels ++ others)) :
    Assigned judge assigned (index + labels.length) others := by
  intro offset label hlabel
  rw [Nat.add_assoc]
  apply h (labels.length + offset) label
  rw [List.getElem?_append_right (Nat.le_add_right _ _), Nat.add_sub_cancel_left, hlabel]

mutual

theorem truth_eq_holds (formula : Formula α) {index : Nat}
    (h : Assigned judge assigned index formula.atoms) :
    formula.truth assigned index = formula.holds judge := by
  cases formula with
  | atom label =>
      rw [truth, holds]
      exact h 0 label rfl
  | all parts =>
      rw [truth, holds]
      exact truthOfAll_eq_allHold parts h
  | any parts =>
      rw [truth, holds]
      exact truthOfAny_eq_anyHolds parts h

theorem truthOfAll_eq_allHold (parts : List (Formula α)) {index : Nat}
    (h : Assigned judge assigned index (atomsOf parts)) :
    truthOfAll assigned index parts = allHold judge parts := by
  cases parts with
  | nil => rfl
  | cons part rest =>
      rw [atomsOf] at h
      rw [truthOfAll, allHold, truth_eq_holds part h.left, truthOfAll_eq_allHold rest h.right]
      rfl

theorem truthOfAny_eq_anyHolds (parts : List (Formula α)) {index : Nat}
    (h : Assigned judge assigned index (atomsOf parts)) :
    truthOfAny assigned index parts = anyHolds judge parts := by
  cases parts with
  | nil => rfl
  | cons part rest =>
      rw [atomsOf] at h
      rw [truthOfAny, anyHolds, truth_eq_holds part h.left, truthOfAny_eq_anyHolds rest h.right]
      rfl

end

theorem Agrees.holds_eq {formula other : Formula α} (h : formula.Agrees other)
    (hatoms : formula.atoms = other.atoms) (judge : α → Bool) :
    formula.holds judge = other.holds judge := by
  let assigned : Nat → Bool := fun index => formula.atoms[index]?.any judge
  have hassigned : Assigned judge assigned 0 formula.atoms := by
    intro offset label hlabel
    simp only [assigned, Nat.zero_add, hlabel, Option.any_some]
  rw [← truth_eq_holds formula hassigned, h.truth_eq, truth_eq_holds other (hatoms ▸ hassigned)]

end EntityQuery.Formula
