import EntityQuery.Proofs.Filter.Meaning
import EntityQuery.Proofs.Filter.Reading
import EntityQuery.Proofs.Path.Reach
import EntityQuery.Proofs.Statement.Markers

/-!
# The text of a filter

Where columns are those of a plain table, each rendered condition is read as one condition, a
rendered group as the group, and a rendered WHERE clause as the conjunction of its filters.
-/

namespace EntityQuery

open Text

/-! ### Conditions -/

/-- Columns stand for themselves, and the name that they are qualified with is a single word. -/
structure ColumnScope.IsPlain (scope : ColumnScope) : Prop where
  entity : scope.entity = none
  reference : ∀ c ∈ scope.reference.toList, c ≠ ' ' ∧ c ≠ '(' ∧ c ≠ ')'

namespace ColumnScope

variable {scope : ColumnScope}

theorem isPhrase_qualified (hscope : scope.IsPlain) {column : String}
    (hblank : ∀ c ∈ column.toList, c ≠ ' ') (hbalanced : Balanced column.toList) :
    IsPhrase (scope.qualified column) := by
  have hreference : Balanced scope.reference.toList :=
    balanced_of_forall_ne fun c hc => (hscope.reference c hc).2
  refine .of_word (c := '.') ?_ ?_ ?_ ?_
  · rw [qualified, String.toList_append, String.toList_append]
    exact balanced_append (balanced_append hreference (by decide)) hbalanced
  · rw [qualified, String.toList_append, String.toList_append]
    refine List.forall_mem_append.mpr ⟨List.forall_mem_append.mpr ⟨?_, ?_⟩, hblank⟩
    · exact fun c hc => (hscope.reference c hc).1
    · exact forall_mem_of_all (by decide)
  · rw [qualified, String.toList_append, String.toList_append]
    exact List.mem_append_left _ (List.mem_append_right _ (by decide))
  · intro combinator
    cases combinator <;> decide

theorem isPhrase_resolveChecked (hscope : scope.IsPlain) {context name column : String}
    (hname : Balanced name.toList) (h : scope.resolveChecked context name = .ok column) :
    IsPhrase column := by
  obtain ⟨hexpression, hresolve⟩ := resolveChecked_eq_ok.mp h
  have hblank : ∀ c ∈ name.toList, c ≠ ' ' := by
    rintro c hc rfl
    exact absurd (hexpression.parts _ hc) (by decide)
  rcases resolve_cases hresolve with ⟨rfl, hcall⟩ | rfl | ⟨rfl, -⟩ | ⟨entity, _, hentity, -⟩
  · refine .of_word hname hblank hcall fun combinator => ?_
    cases combinator <;> decide
  · exact isPhrase_qualified hscope (forall_mem_of_all (by decide)) (by decide)
  · unfold unmapped
    split
    · rename_i hpoint
      refine .of_word hname hblank (List.contains_iff_mem.mp hpoint) fun combinator => ?_
      cases combinator <;> decide
    · exact isPhrase_qualified hscope hblank hname
  · rw [hscope.entity] at hentity
    cases hentity

end ColumnScope

theorem Condition.isPhrase_decided (comparator : Comparator) : IsPhrase (decided comparator) := by
  constructor
  · cases comparator <;> decide
  · intro combinator
    cases comparator <;> cases combinator <;> decide

theorem Condition.two_le_length_decided (comparator : Comparator) :
    2 ≤ (outerWords (decided comparator).toList).length := by
  cases comparator <;> decide

theorem Comparator.isPhrase_sql (comparator : Comparator) : IsPhrase comparator.sql := by
  constructor
  · cases comparator <;> decide
  · intro combinator
    cases comparator <;> cases combinator <;> decide

namespace Dialect

variable (dialect : Dialect) (index : Nat)

theorem forall_mem_marker : ∀ c ∈ (dialect.markerStyle.marker index).toList,
    c ≠ ' ' ∧ c ≠ '(' ∧ c ≠ ')' := by
  obtain ⟨tail, htail, hgoes, -⟩ := dialect.exists_toList_markerAt index
  rw [marker_markerStyle, htail]
  refine List.forall_mem_cons.mpr ⟨by cases dialect <;> decide, fun c hc => ?_⟩
  have hcontinues := hgoes c hc
  refine ⟨?_, ?_, ?_⟩ <;>
  · rintro rfl
    revert hcontinues
    cases dialect <;> decide

theorem balanced_marker : Balanced (dialect.markerStyle.marker index).toList :=
  balanced_of_forall_ne fun c hc => (dialect.forall_mem_marker index c hc).2

theorem isPhrase_marker : IsPhrase (dialect.markerStyle.marker index) := by
  have hmarker := dialect.forall_mem_marker index
  refine .of_word (c := dialect.markerLead) (dialect.balanced_marker index)
    (fun c hc => (hmarker c hc).1) ?_ ?_
  · obtain ⟨tail, htail, -⟩ := dialect.exists_toList_markerAt index
    rw [marker_markerStyle, htail]
    exact List.mem_cons_self
  · intro combinator
    cases dialect <;> cases combinator <;> decide

theorem isPhrase_markerList (values : List Value) :
    IsPhrase (Pieces.sqlFrom dialect.markerStyle index (Condition.markerList values)) := by
  rw [Condition.markerList, Pieces.sqlFrom_enclosed]
  exact .enclosed
    (Condition.composed_markers composes_balanced dialect.balanced_marker values index)

end Dialect

theorem Condition.isFactor {scope : ColumnScope} (hscope : scope.IsPlain) {condition : Condition}
    (hfield : Balanced condition.field.toList) {pieces : Pieces}
    (h : condition.pieces scope = .ok pieces) (dialect : Dialect) (index : Nat) :
    Excerpt.IsFactor ⟨pieces.sqlFrom dialect.markerStyle index,
      [pieces.sqlFrom dialect.markerStyle index], .atom condition⟩ := by
  obtain ⟨column, hcolumn, hcases⟩ := pieces_cases h
  have hphrase := ColumnScope.isPhrase_resolveChecked hscope hfield hcolumn
  have hcompared := fun comparator : Comparator => hphrase.append comparator.isPhrase_sql
  rcases hcases with ⟨comparator, -, rfl⟩ | ⟨comparator, -, rfl⟩ |
    ⟨comparator, value, rest, -, rfl⟩ | ⟨comparator, value, -, rfl⟩
  · rw [Pieces.sqlFrom_text]
    exact Excerpt.isFactor_condition (hcompared comparator) hphrase.two_le_length_append
  · rw [Pieces.sqlFrom_text]
    exact Excerpt.isFactor_condition (isPhrase_decided comparator)
      (two_le_length_decided comparator)
  · rw [Pieces.sqlFrom]
    exact Excerpt.isFactor_condition
      ((hcompared comparator).append (dialect.isPhrase_markerList index _))
      (hcompared comparator).two_le_length_append
  · rw [Pieces.sqlFrom, Pieces.sqlFrom, Pieces.sqlFrom_nil, String.append_empty]
    exact Excerpt.isFactor_condition ((hcompared comparator).append (dialect.isPhrase_marker index))
      (hcompared comparator).two_le_length_append

end EntityQuery
