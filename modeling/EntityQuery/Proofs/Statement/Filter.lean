import EntityQuery.Proofs.Filter.Simplification
import EntityQuery.Proofs.Statement.Binder
import EntityQuery.Statement.Filter

/-!
# What a filter is written as

A filter is rendered as its pieces are written, whatever was bound before it.  The forms of a
condition in pieces are listed once, in `Condition.pieces_cases`.  From there on follow the values of
a filter, which are those of its conditions from left to right, and when a filter can be rendered,
which is a matter of each condition alone.
-/

namespace EntityQuery

namespace Condition

/-- The values that a condition is compared with in a statement: none for a test and none for a
comparison with null, the elements of a list, and else the value itself. -/
def boundValues (condition : Condition) : List Value :=
  match condition.comparator with
  | .isNull | .isNotNull | .isTrue | .isFalse => []
  | .eq | .ne =>
      match condition.value with
      | none | some .null => []
      | some value => [value]
  | .isIn | .notIn =>
      match condition.value with
      | none => []
      | some value => elements value
  | .gt | .gte | .lt | .lte | .like | .notLike => condition.value.toList

/-- The pieces of a list of markers. -/
def markerList (values : List Value) : Pieces :=
  Pieces.enclosed (Pieces.separated ", " (values.map fun value => [.value value]))

/-- The pieces of the condition on a column. -/
def piecesOn (column : String) (condition : Condition) : Result Pieces :=
  match condition.form with
  | .test comparator => return [.text (column ++ " " ++ comparator.sql)]
  | .membership comparator [] => return [.text (decided comparator)]
  | .membership comparator elements =>
      return .text (column ++ " " ++ comparator.sql ++ " ") :: markerList elements
  | .comparison comparator value =>
      return [.text (column ++ " " ++ comparator.sql ++ " "), .value value]
  | .incomplete => throw (.valueMissing condition.comparator.sql condition.field)

def pieces (scope : ColumnScope) (condition : Condition) : Result Pieces := do
  condition.piecesOn (← scope.resolveChecked "Criteria column" condition.field)

theorem run_renderOn (column : String) (condition : Condition) (binder : Binder) :
    (condition.renderOn column : Rendering Result String).run binder =
      (condition.piecesOn column).map binder.write := by
  rw [renderOn, piecesOn]
  cases condition.form with
  | test comparator => exact congrArg Except.ok (binder.write_text _).symm
  | membership comparator elements =>
      cases elements with
      | nil => exact congrArg Except.ok (binder.write_text _).symm
      | cons value rest =>
          dsimp only
          rw [StateT.run_bind, Rendering.run_mapM_markerFor]
          refine congrArg Except.ok ?_
          have hopening : " (" = " " ++ "(" := by decide
          rw [hopening, Binder.write_text_cons, markerList, Binder.write_enclosed,
            Binder.write_separated]
          simp only [Prod.map, id, String.append_assoc]
  | comparison comparator value =>
      dsimp only
      refine congrArg Except.ok ?_
      rw [Binder.write_text_cons, Binder.write_value]
      rfl
  | incomplete => rfl

/-- Whether the field is written: a comparison with no element is decided without it. -/
def writesField (condition : Condition) : Bool :=
  match condition.form with
  | .membership _ [] => false
  | _ => true

theorem exists_eq_append_of_renderOn {column text : String} {condition : Condition}
    {binder behind : Binder} (hwrites : condition.writesField = true)
    (h : (condition.renderOn column : Rendering Result String).run binder = .ok (text, behind)) :
    ∃ rest, text = column ++ " " ++ rest := by
  rw [writesField] at hwrites
  rw [run_renderOn, piecesOn] at h
  have hcompared : ∀ (comparator : Comparator) (rest : Pieces),
      Except.ok (binder.write (.text (column ++ " " ++ comparator.sql ++ " ") :: rest)) =
        (.ok (text, behind) : Result (String × Binder)) → ∃ rest, text = column ++ " " ++ rest := by
    intro comparator rest hwritten
    rw [Binder.write_text_cons] at hwritten
    obtain ⟨rfl, -⟩ := Prod.mk.inj (Except.ok.inj hwritten)
    refine ⟨comparator.sql ++ " " ++ rest.sqlFrom binder.markers.style binder.markers.count, ?_⟩
    simp only [String.append_assoc]
  cases hform : condition.form with
  | test comparator =>
      rw [hform] at h
      have hwritten := Except.ok.inj h
      rw [Binder.write_text] at hwritten
      obtain ⟨rfl, -⟩ := Prod.mk.inj hwritten
      exact ⟨comparator.sql, rfl⟩
  | membership comparator elements =>
      rw [hform] at h hwrites
      cases elements with
      | nil => cases hwrites
      | cons value rest => exact hcompared comparator _ h
  | comparison comparator value =>
      rw [hform] at h
      exact hcompared comparator _ h
  | incomplete =>
      rw [hform] at h
      cases h

theorem run_render (scope : ColumnScope) (condition : Condition) (binder : Binder) :
    (condition.render ColumnScope.resolveChecked scope).run binder =
      (condition.pieces scope).map binder.write := by
  rw [render, pieces]
  cases scope.resolveChecked "Criteria column" condition.field with
  | error error => rfl
  | ok column => exact condition.run_renderOn column binder

/-- Everything that a condition can be rendered as. -/
theorem pieces_cases {scope : ColumnScope} {condition : Condition} {pieces : Pieces}
    (h : condition.pieces scope = .ok pieces) :
    ∃ column, scope.resolveChecked "Criteria column" condition.field = .ok column ∧
      ((∃ comparator, condition.form = .test comparator ∧
          pieces = [.text (column ++ " " ++ comparator.sql)]) ∨
        (∃ comparator, condition.form = .membership comparator [] ∧
          pieces = [.text (decided comparator)]) ∨
        (∃ comparator value rest, condition.form = .membership comparator (value :: rest) ∧
          pieces = .text (column ++ " " ++ comparator.sql ++ " ") :: markerList (value :: rest)) ∨
        ∃ comparator value, condition.form = .comparison comparator value ∧
          pieces = [.text (column ++ " " ++ comparator.sql ++ " "), .value value]) := by
  rw [Condition.pieces, Result.bind_eq_ok] at h
  obtain ⟨column, hcolumn, h⟩ := h
  refine ⟨column, hcolumn, ?_⟩
  rw [piecesOn] at h
  cases hform : condition.form with
  | test comparator =>
      rw [hform] at h
      cases h
      exact .inl ⟨comparator, rfl, rfl⟩
  | membership comparator elements =>
      rw [hform] at h
      cases elements with
      | nil =>
          cases h
          exact .inr (.inl ⟨comparator, rfl, rfl⟩)
      | cons value rest =>
          cases h
          exact .inr (.inr (.inl ⟨comparator, value, rest, rfl, rfl⟩))
  | comparison comparator value =>
      rw [hform] at h
      cases h
      exact .inr (.inr (.inr ⟨comparator, value, rfl, rfl⟩))
  | incomplete =>
      rw [hform] at h
      cases h

/-- A condition can be rendered if its field can and a value is there that it needs. -/
theorem succeeds_pieces_iff {scope : ColumnScope} {condition : Condition} :
    Result.Succeeds (condition.pieces scope) ↔
      Result.Succeeds (scope.resolveChecked "Criteria column" condition.field) ∧
        condition.form ≠ .incomplete := by
  rw [Condition.pieces, Result.succeeds_bind]
  constructor
  · rintro ⟨column, hcolumn, hform⟩
    refine ⟨⟨column, hcolumn⟩, ?_⟩
    intro hincomplete
    rw [piecesOn, hincomplete] at hform
    exact Result.not_succeeds_throw _ hform
  · rintro ⟨⟨column, hcolumn⟩, hform⟩
    refine ⟨column, hcolumn, ?_⟩
    rw [piecesOn]
    cases hcase : condition.form with
    | test comparator => exact Result.succeeds_pure _
    | membership comparator elements => cases elements <;> exact Result.succeeds_pure _
    | comparison comparator value => exact Result.succeeds_pure _
    | incomplete => exact absurd hcase hform

theorem values_markerList (values : List Value) : (markerList values).values = values := by
  unfold markerList
  rw [Pieces.values_enclosed, Pieces.values_separated]
  induction values with
  | nil => rfl
  | cons value rest ih => rw [List.map_cons, List.flatMap_cons, ih]; rfl

/-- The values in the form of a condition. -/
def formValues : ConditionForm → List Value
  | .test _ | .incomplete => []
  | .membership _ elements => elements
  | .comparison _ value => [value]

theorem formValues_form {condition : Condition} :
    formValues condition.form = condition.boundValues := by
  obtain ⟨field, comparator, value⟩ := condition
  cases comparator <;> rcases value with _ | value <;> try rfl
  all_goals cases value <;> rfl

theorem values_pieces {scope : ColumnScope} {condition : Condition} {pieces : Pieces}
    (h : condition.pieces scope = .ok pieces) : pieces.values = condition.boundValues := by
  rw [← formValues_form]
  obtain ⟨column, -, hcases⟩ := pieces_cases h
  rcases hcases with ⟨comparator, hform, rfl⟩ | ⟨comparator, hform, rfl⟩ |
    ⟨comparator, value, rest, hform, rfl⟩ | ⟨comparator, value, hform, rfl⟩
  · rw [hform]
    rfl
  · rw [hform]
    rfl
  · rw [hform, Pieces.values_text_cons, values_markerList]
    rfl
  · rw [hform]
    rfl

end Condition

namespace Criteria

mutual

def pieces (scope : ColumnScope) (nested : Bool) : Criteria → Result Pieces
  | .condition leaf => leaf.pieces scope
  | .group combinator parts => do
      let rendered ← partsPieces scope parts
      let joined := Pieces.separated combinator.sql rendered
      return if nested && 1 < parts.length then Pieces.enclosed joined else joined

def partsPieces (scope : ColumnScope) : List Criteria → Result (List Pieces)
  | [] => .ok []
  | part :: rest => do
      let first ← part.pieces scope true
      let others ← partsPieces scope rest
      return first :: others

end

variable {scope : ColumnScope}

theorem partsPieces_eq_mapM (scope : ColumnScope) (parts : List Criteria) :
    partsPieces scope parts = parts.mapM (pieces scope true) := by
  induction parts with
  | nil => rfl
  | cons part rest ih => rw [partsPieces, ih, List.mapM_cons]

theorem pieces_condition (scope : ColumnScope) (nested : Bool) (leaf : Condition) :
    (condition leaf).pieces scope nested = leaf.pieces scope := by
  rw [pieces]

theorem renderParts_eq_mapM {m : Type → Type} [Monad m] [LawfulMonad m] [MonadExceptOf Error m]
    (lookup : Lookup m) (scope : ColumnScope) (parts : List Criteria) :
    renderParts lookup scope parts = parts.mapM (render lookup scope true) := by
  induction parts with
  | nil => rfl
  | cons part rest ih => rw [renderParts, ih, List.mapM_cons]

/-- By recursion over the tree, every part is written behind the values of the parts before it. -/
theorem run_render (scope : ColumnScope) (nested : Bool) (criteria : Criteria) (binder : Binder) :
    (criteria.render ColumnScope.resolveChecked scope nested).run binder =
      (criteria.pieces scope nested).map binder.write := by
  induction criteria using Criteria.induction generalizing nested binder with
  | condition leaf =>
      rw [render, pieces]
      exact leaf.run_render scope binder
  | group combinator parts ih =>
      rw [render, pieces, renderParts_eq_mapM, partsPieces_eq_mapM, StateT.run_bind,
        Rendering.run_mapM fun part hpart => ih part hpart true]
      cases parts.mapM (pieces scope true) with
      | error error => rfl
      | ok rendered =>
          refine congrArg Except.ok ?_
          split
          · rw [Binder.write_enclosed, Binder.write_separated]
            rfl
          · rw [Binder.write_separated]
            rfl

theorem pieces_group_eq_ok {nested : Bool} {combinator : Combinator} {parts : List Criteria}
    {rendered : Pieces} :
    (group combinator parts).pieces scope nested = .ok rendered ↔
      ∃ partPieces, parts.mapM (pieces scope true) = .ok partPieces ∧
        rendered =
          if nested && 1 < parts.length then
            Pieces.enclosed (Pieces.separated combinator.sql partPieces)
          else Pieces.separated combinator.sql partPieces := by
  rw [pieces, partsPieces_eq_mapM, Result.bind_eq_ok]
  simp only [Result.pure_eq_ok]
  exact exists_congr fun partPieces => and_congr Iff.rfl eq_comm

theorem values_pieces {nested : Bool} {criteria : Criteria} {rendered : Pieces}
    (h : criteria.pieces scope nested = .ok rendered) :
    rendered.values = criteria.conditions.flatMap Condition.boundValues := by
  induction criteria using Criteria.induction generalizing nested rendered with
  | condition leaf =>
      rw [pieces_condition] at h
      rw [Condition.values_pieces h, conditions_condition, List.flatMap_singleton]
  | group combinator parts ih =>
      obtain ⟨partPieces, hparts, rfl⟩ := pieces_group_eq_ok.mp h
      have hvalues : partPieces.flatMap Pieces.values =
          (parts.flatMap conditions).flatMap Condition.boundValues := by
        rw [Result.mapM_eq_ok] at hparts
        clear h
        induction hparts with
        | nil => rfl
        | @cons part first rest others hpart _ ihrest =>
            rw [List.flatMap_cons, List.flatMap_cons, List.flatMap_append,
              ih part List.mem_cons_self hpart,
              ihrest fun other hother => ih other (List.mem_cons_of_mem _ hother)]
      rw [conditions_group, ← hvalues]
      split
      · rw [Pieces.values_enclosed, Pieces.values_separated]
      · rw [Pieces.values_separated]

theorem succeeds_pieces_iff {nested : Bool} {criteria : Criteria} :
    Result.Succeeds (criteria.pieces scope nested) ↔
      ∀ condition ∈ criteria.conditions, Result.Succeeds (condition.pieces scope) := by
  induction criteria using Criteria.induction generalizing nested with
  | condition leaf => rw [pieces_condition, conditions_condition, List.forall_mem_singleton]
  | group combinator parts ih =>
      rw [pieces, partsPieces_eq_mapM,
        Result.succeeds_bind_of_forall fun _ => Result.succeeds_pure _, Result.succeeds_mapM,
        conditions_group, List.forall_mem_flatMap]
      exact forall₂_congr fun part hpart => ih part hpart

end Criteria

end EntityQuery
