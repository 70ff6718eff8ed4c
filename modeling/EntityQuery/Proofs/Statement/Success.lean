import EntityQuery.Proofs.Statement.Column
import EntityQuery.Proofs.Statement.Rendering
import EntityQuery.Proofs.Statement.Where

/-!
# When a statement can be rendered

A statement can be rendered when the text before its filter, the filter and the text behind it can.
Each of them is a matter of single names, and whether a name can be resolved is the same for all
dialects.  So a selection that can be rendered for one dialect can be rendered for all of them.
-/

namespace EntityQuery

theorem Condition.succeeds_pieces_congr {scope other : ColumnScope}
    (hschema : scope.schema = other.schema) (hentity : scope.entity = other.entity)
    (condition : Condition) :
    Result.Succeeds (condition.pieces scope) ↔ Result.Succeeds (condition.pieces other) := by
  rw [succeeds_pieces_iff, succeeds_pieces_iff]
  exact and_congr (ColumnScope.succeeds_resolveChecked_congr hschema hentity) Iff.rfl

namespace Selection

variable {schema : Schema} {style : NameStyle} {selection : Selection}

/-- The clause can be written if the conditions of the selection can in its scope and those of each
join in the scope of the join. -/
theorem succeeds_wherePieces_iff_forall :
    Result.Succeeds (selection.wherePieces schema style) ↔
      (∀ criteria, selection.query.criteria = some criteria →
        ∀ condition ∈ criteria.conditions,
          Result.Succeeds (condition.pieces (selection.scope schema style))) ∧
      ∀ join ∈ selection.query.joins.getD [], ∀ criteria, join.criteria = some criteria →
        ∀ condition ∈ criteria.conditions,
          Result.Succeeds (condition.pieces (join.scope schema style)) := by
  rw [succeeds_wherePieces_iff, scopedConditions, List.forall_mem_flatMap, sources,
    List.forall_mem_append]
  simp only [ScopedFilter.conditions, List.forall_mem_map, List.mem_filterMap,
    Option.mem_toList, Option.map_eq_some_iff]
  constructor
  · rintro ⟨hbase, hjoined⟩
    exact ⟨fun criteria hcriteria => hbase _ ⟨criteria, hcriteria, rfl⟩,
      fun join hjoin criteria hcriteria => hjoined _ ⟨join, hjoin, criteria, hcriteria, rfl⟩⟩
  · rintro ⟨hbase, hjoined⟩
    refine ⟨?_, ?_⟩
    · rintro _ ⟨criteria, hcriteria, rfl⟩
      exact hbase criteria hcriteria
    · rintro _ ⟨join, hjoin, criteria, hcriteria, rfl⟩
      exact hjoined join hjoin criteria hcriteria

theorem succeeds_wherePieces_congr (other : NameStyle) :
    Result.Succeeds (selection.wherePieces schema style) ↔
      Result.Succeeds (selection.wherePieces schema other) := by
  rw [succeeds_wherePieces_iff_forall, succeeds_wherePieces_iff_forall]
  refine and_congr ?_ ?_
  · refine forall₄_congr fun criteria _ condition _ => ?_
    refine Condition.succeeds_pieces_congr ?_ ?_ condition
    · rfl
    · rfl
  · refine forall₂_congr fun join _ => forall₄_congr fun criteria _ condition _ => ?_
    refine Condition.succeeds_pieces_congr ?_ ?_ condition
    · rfl
    · rfl

end Selection

namespace Renderer

variable {renderer other : Renderer} {selection : Selection}

theorem succeeds_render_iff {kind : StatementKind} :
    Result.Succeeds (renderer.render kind selection) ↔
      Result.Succeeds (renderer.opening selection kind) ∧
        Result.Succeeds (renderer.wherePieces selection) ∧
        Result.Succeeds (renderer.ending selection kind) := by
  unfold Result.Succeeds
  simp only [render_eq_ok]
  constructor
  · rintro ⟨_, opening, filter, ending, hopening, hfilter, hending, -⟩
    exact ⟨⟨opening, hopening⟩, ⟨filter, hfilter⟩, ⟨ending, hending⟩⟩
  · rintro ⟨⟨opening, hopening⟩, ⟨filter, hfilter⟩, ⟨ending, hending⟩⟩
    exact ⟨_, opening, filter, ending, hopening, hfilter, hending, rfl⟩

theorem succeeds_projection_iff :
    Result.Succeeds (renderer.projection selection) ↔
      ∀ column ∈ selection.query.columns,
        Result.Succeeds (projectedColumn (renderer.scope selection) column) := by
  dsimp only [projection]
  split
  · rename_i hempty
    rw [List.isEmpty_iff.mp hempty]
    simp
  · rw [Result.succeeds_bind_of_forall fun _ => Result.succeeds_pure _, Result.succeeds_mapM]

theorem succeeds_groupClause_iff :
    Result.Succeeds (renderer.groupClause selection) ↔
      ∀ column ∈ (selection.query.groups.getD .empty).columns,
        Result.Succeeds ((renderer.scope selection).resolveChecked "Group column" column) := by
  dsimp only [groupClause]
  split
  · rename_i hempty
    rw [List.isEmpty_iff.mp hempty]
    simp
  · rw [Result.succeeds_bind_of_forall fun _ => Result.succeeds_pure _, Result.succeeds_mapM]

theorem succeeds_orderClause_iff {windowed : Bool} :
    Result.Succeeds (renderer.orderClause selection windowed) ↔
      ∀ order ∈ selection.query.sorting.orders,
        Result.Succeeds
          ((renderer.scope selection).resolveChecked "Sort property" order.property) := by
  dsimp only [orderClause]
  split
  · rename_i hempty
    rw [List.isEmpty_iff.mp hempty]
    simp
  · rw [Result.succeeds_bind_of_forall fun _ => Result.succeeds_pure _, Result.succeeds_mapM]
    refine forall₂_congr fun order _ => ?_
    rw [Order.sql, Result.succeeds_bind_of_forall fun _ => Result.succeeds_pure _]

theorem succeeds_opening_iff {kind : StatementKind} :
    Result.Succeeds (renderer.opening selection kind) ↔
      (kind = .select → Result.Succeeds (renderer.projection selection)) := by
  cases kind with
  | select =>
      rw [opening, Result.succeeds_bind_of_forall fun _ => Result.succeeds_pure _]
      simp
  | count => simp [opening]
  | existence => simp [opening]

theorem succeeds_ending_iff {kind : StatementKind} :
    Result.Succeeds (renderer.ending selection kind) ↔
      (kind ≠ .existence → Result.Succeeds (renderer.groupClause selection)) ∧
        (kind = .select → ∀ order ∈ selection.query.sorting.orders,
          Result.Succeeds
            ((renderer.scope selection).resolveChecked "Sort property" order.property)) := by
  cases kind with
  | select =>
      dsimp only [ending]
      simp only [ne_eq, reduceCtorEq, not_false_eq_true, forall_const]
      rw [Result.succeeds_bind]
      constructor
      · rintro ⟨groups, hgroups, hrest⟩
        rw [Result.succeeds_bind_of_forall fun _ => Result.succeeds_pure _] at hrest
        exact ⟨⟨groups, hgroups⟩, succeeds_orderClause_iff.mp hrest⟩
      · rintro ⟨⟨groups, hgroups⟩, horder⟩
        refine ⟨groups, hgroups, ?_⟩
        rw [Result.succeeds_bind_of_forall fun _ => Result.succeeds_pure _]
        exact succeeds_orderClause_iff.mpr horder
  | count =>
      rw [ending, Result.succeeds_bind_of_forall fun _ => Result.succeeds_pure _]
      simp
  | existence => simp [ending]

/-- Whether a statement can be rendered does not depend on the dialect. -/
theorem succeeds_render_congr (hschema : renderer.schema = other.schema) (kind : StatementKind) :
    Result.Succeeds (renderer.render kind selection) ↔
      Result.Succeeds (other.render kind selection) := by
  have hentity : (renderer.scope selection).entity = (other.scope selection).entity := rfl
  have hscope : (renderer.scope selection).schema = (other.scope selection).schema := hschema
  rw [succeeds_render_iff, succeeds_render_iff]
  refine and_congr ?_ (and_congr ?_ ?_)
  · rw [succeeds_opening_iff, succeeds_opening_iff, succeeds_projection_iff,
      succeeds_projection_iff]
    refine imp_congr Iff.rfl (forall₂_congr fun column _ => ?_)
    cases column with
    | expression name => simp [projectedColumn]
    | quoted name => simp [projectedColumn]
    | plain name => exact ColumnScope.succeeds_resolve_congr hscope hentity
  · unfold Renderer.wherePieces
    rw [hschema]
    exact Selection.succeeds_wherePieces_congr _
  · rw [succeeds_ending_iff, succeeds_ending_iff, succeeds_groupClause_iff,
      succeeds_groupClause_iff]
    refine and_congr (imp_congr Iff.rfl ?_) (imp_congr Iff.rfl ?_)
    · exact forall₂_congr fun column _ =>
        ColumnScope.succeeds_resolveChecked_congr hscope hentity
    · exact forall₂_congr fun order _ =>
        ColumnScope.succeeds_resolveChecked_congr hscope hentity

end Renderer

end EntityQuery
