import EntityQuery.Proofs.Statement.Filter

/-!
# The WHERE clause

The clause is made of the criteria of the selection and those of its joins, each in the scope of
its names.  It is absent exactly when none of them holds a condition, and its values are those of
the conditions: first of the selection, then of each join in the order of the joins.
-/

namespace EntityQuery

namespace ScopedFilter

def pieces (combined : Bool) (filter : ScopedFilter) : Result Pieces := do
  let rendered ← filter.criteria.pieces filter.scope false
  return if combined && filter.criteria.isAlternative then Pieces.enclosed rendered else rendered

theorem run_render (combined : Bool) (filter : ScopedFilter) (binder : Binder) :
    (filter.render ColumnScope.resolveChecked combined).run binder =
      (filter.pieces combined).map binder.write := by
  rw [render, pieces, StateT.run_bind, Criteria.run_render]
  cases filter.criteria.pieces filter.scope false with
  | error error => rfl
  | ok rendered =>
      refine congrArg Except.ok ?_
      split
      · exact (binder.write_enclosed rendered).symm
      · rfl

def simplify? (filter : ScopedFilter) : Option ScopedFilter :=
  filter.criteria.simplify?.map (ScopedFilter.mk filter.scope)

/-- The conditions, each with the scope of its field. -/
def conditions (filter : ScopedFilter) : List (ColumnScope × Condition) :=
  filter.criteria.conditions.map (Prod.mk filter.scope)

theorem conditions_simplify? {filter simple : ScopedFilter} (h : filter.simplify? = some simple) :
    simple.conditions = filter.conditions := by
  obtain ⟨criteria, hcriteria, rfl⟩ := Option.map_eq_some_iff.mp h
  unfold conditions
  rw [Criteria.conditions_simplify? hcriteria]

theorem simplify?_eq_none_iff (filter : ScopedFilter) :
    filter.simplify? = none ↔ filter.conditions = [] := by
  rw [simplify?, Option.map_eq_none_iff, Criteria.simplify?_eq_none_iff,
    Criteria.isEmpty_iff_conditions_eq_nil, conditions, List.map_eq_nil_iff]

theorem flatMap_conditions_filterMap (filters : List ScopedFilter) :
    (filters.filterMap simplify?).flatMap conditions = filters.flatMap conditions := by
  induction filters with
  | nil => rfl
  | cons filter rest ih =>
      rw [List.filterMap_cons, List.flatMap_cons (x := filter), ← ih]
      cases hsimple : filter.simplify? with
      | none => rw [(simplify?_eq_none_iff filter).mp hsimple, List.nil_append]
      | some simple => rw [List.flatMap_cons, conditions_simplify? hsimple]

theorem values_pieces {combined : Bool} {filter : ScopedFilter} {rendered : Pieces}
    (h : filter.pieces combined = .ok rendered) :
    rendered.values = filter.conditions.flatMap fun entry => entry.2.boundValues := by
  rw [pieces, Result.bind_eq_ok] at h
  obtain ⟨inner, hinner, h⟩ := h
  have hvalues : inner.values = filter.conditions.flatMap fun entry => entry.2.boundValues := by
    rw [Criteria.values_pieces hinner, conditions, List.flatMap_map]
  rw [← Result.pure_eq_ok.mp h, ← hvalues]
  split
  · rw [Pieces.values_enclosed]
  · rfl

theorem succeeds_pieces_iff {combined : Bool} {filter : ScopedFilter} :
    Result.Succeeds (filter.pieces combined) ↔
      ∀ entry ∈ filter.conditions, Result.Succeeds (entry.2.pieces entry.1) := by
  rw [pieces, Result.succeeds_bind_of_forall fun _ => Result.succeeds_pure _,
    Criteria.succeeds_pieces_iff, conditions, List.forall_mem_map]

end ScopedFilter

namespace Selection

/-- The clause in pieces. -/
def wherePieces (schema : Schema) (style : NameStyle) (selection : Selection) : Result Pieces := do
  let filters := selection.filters schema style
  if filters.isEmpty then return []
  let rendered ← filters.mapM (ScopedFilter.pieces (1 < filters.length))
  return .text " WHERE " :: Pieces.separated " AND " rendered

theorem run_whereClause (schema : Schema) (style : NameStyle) (selection : Selection)
    (binder : Binder) :
    (selection.whereClause ColumnScope.resolveChecked schema style).run binder =
      (selection.wherePieces schema style).map binder.write := by
  dsimp only [whereClause, wherePieces]
  generalize selection.filters schema style = filters
  split
  · exact congrArg (fun behind => Except.ok ("", behind)) binder.after_nil.symm
  · rw [StateT.run_bind, Rendering.run_mapM fun filter _ => filter.run_render _]
    cases filters.mapM (ScopedFilter.pieces (1 < filters.length)) with
    | error error => rfl
    | ok rendered =>
        refine congrArg Except.ok ?_
        rw [Binder.write_text_cons, Binder.write_separated]
        rfl

/-- The criteria of the selection and of its joins as they were given. -/
def sources (schema : Schema) (style : NameStyle) (selection : Selection) : List ScopedFilter :=
  (selection.query.criteria.map (ScopedFilter.mk (selection.scope schema style))).toList ++
    (selection.query.joins.getD []).filterMap fun join =>
      join.criteria.map (ScopedFilter.mk (join.scope schema style))

/-- The criteria of the selection and then of each join. -/
def criteria (selection : Selection) : List Criteria :=
  selection.query.criteria.toList ++ (selection.query.joins.getD []).filterMap Join.criteria

/-- All conditions from left to right. -/
def conditions (selection : Selection) : List Condition :=
  selection.criteria.flatMap Criteria.conditions

/-- The values that a statement of the selection is run with. -/
def boundValues (selection : Selection) : List Value :=
  selection.conditions.flatMap Condition.boundValues

def scopedConditions (schema : Schema) (style : NameStyle) (selection : Selection) :
    List (ColumnScope × Condition) :=
  (selection.sources schema style).flatMap ScopedFilter.conditions

variable (schema : Schema) (style : NameStyle) (selection : Selection)

theorem map_criteria_sources :
    (selection.sources schema style).map ScopedFilter.criteria = selection.criteria := by
  unfold sources criteria
  rw [List.map_append, List.map_filterMap]
  congr 1
  · cases selection.query.criteria <;> rfl
  · refine List.filterMap_congr fun join _ => ?_
    cases join.criteria <;> rfl

theorem filters_eq :
    selection.filters schema style =
      (selection.sources schema style).filterMap ScopedFilter.simplify? := by
  unfold sources
  rw [List.filterMap_append, List.filterMap_filterMap]
  refine congrArg₂ (· ++ ·) ?_ ?_
  · cases hcriteria : selection.query.criteria with
    | none => rfl
    | some criteria =>
        cases hsimple : criteria.simplify? <;> simp [ScopedFilter.simplify?, hsimple]
  · refine List.filterMap_congr fun join _ => ?_
    cases join.criteria <;> rfl

theorem map_snd_scopedConditions :
    (selection.scopedConditions schema style).map Prod.snd = selection.conditions := by
  unfold scopedConditions conditions
  rw [← map_criteria_sources schema style, List.map_flatMap, List.flatMap_map]
  refine List.flatMap_congr fun filter _ => ?_
  unfold ScopedFilter.conditions
  rw [List.map_map]
  exact List.map_id _

theorem flatMap_conditions_filters :
    (selection.filters schema style).flatMap ScopedFilter.conditions =
      selection.scopedConditions schema style := by
  rw [filters_eq, ScopedFilter.flatMap_conditions_filterMap, scopedConditions]

theorem filters_eq_nil_iff : selection.filters schema style = [] ↔ selection.conditions = [] := by
  rw [filters_eq, List.filterMap_eq_nil_iff, ← map_snd_scopedConditions schema style,
    List.map_eq_nil_iff, scopedConditions, List.flatMap_eq_nil_iff]
  exact forall₂_congr fun filter _ => ScopedFilter.simplify?_eq_none_iff filter

variable {schema : Schema} {style : NameStyle} {selection : Selection}

/-- Names are looked up in the selection or in a join. -/
theorem scope_of_mem_filters {filter : ScopedFilter} (h : filter ∈ selection.filters schema style) :
    filter.scope = selection.scope schema style ∨
      ∃ join ∈ selection.query.joins.getD [], filter.scope = join.scope schema style := by
  unfold filters at h
  rcases List.mem_append.mp h with hbase | hjoined
  · obtain ⟨criteria, -, rfl⟩ := Option.map_eq_some_iff.mp (Option.mem_toList.mp hbase)
    exact .inl rfl
  · obtain ⟨join, hjoin, hsome⟩ := List.mem_filterMap.mp hjoined
    obtain ⟨criteria, -, rfl⟩ := Option.map_eq_some_iff.mp hsome
    exact .inr ⟨join, hjoin, rfl⟩

theorem mem_scopedConditions {entry : ColumnScope × Condition}
    (h : entry ∈ selection.scopedConditions schema style) :
    entry.2 ∈ selection.conditions ∧
      (entry.1 = selection.scope schema style ∨
        ∃ join ∈ selection.query.joins.getD [], entry.1 = join.scope schema style) := by
  constructor
  · rw [← map_snd_scopedConditions schema style]
    exact List.mem_map_of_mem h
  · rw [← flatMap_conditions_filters] at h
    obtain ⟨filter, hfilter, hentry⟩ := List.mem_flatMap.mp h
    obtain ⟨condition, -, rfl⟩ := List.mem_map.mp hentry
    exact scope_of_mem_filters hfilter

theorem wherePieces_eq_ok {pieces : Pieces} :
    selection.wherePieces schema style = .ok pieces ↔
      (selection.filters schema style = [] ∧ pieces = []) ∨
        (selection.filters schema style ≠ [] ∧ ∃ rendered,
          (selection.filters schema style).mapM
              (ScopedFilter.pieces (1 < (selection.filters schema style).length)) = .ok rendered ∧
            pieces = .text " WHERE " :: Pieces.separated " AND " rendered) := by
  dsimp only [wherePieces]
  generalize selection.filters schema style = filters
  cases filters with
  | nil =>
      rw [List.isEmpty_nil, if_pos rfl, Result.pure_eq_ok]
      simp [eq_comm]
  | cons filter rest =>
      rw [List.isEmpty_cons, if_neg Bool.false_ne_true, Result.bind_eq_ok]
      simp only [Result.pure_eq_ok, reduceCtorEq, false_and, false_or, ne_eq, not_false_eq_true,
        true_and]
      exact exists_congr fun rendered => and_congr Iff.rfl eq_comm

theorem values_wherePieces {pieces : Pieces}
    (h : selection.wherePieces schema style = .ok pieces) :
    pieces.values = selection.boundValues := by
  have hvalues : pieces.values =
      ((selection.filters schema style).flatMap ScopedFilter.conditions).flatMap
        fun entry => entry.2.boundValues := by
    rcases wherePieces_eq_ok.mp h with ⟨hnil, rfl⟩ | ⟨-, rendered, hrendered, rfl⟩
    · rw [hnil]
      rfl
    · rw [Result.mapM_eq_ok] at hrendered
      rw [Pieces.values_text_cons, Pieces.values_separated]
      generalize (1 < (selection.filters schema style).length : Bool) = combined at hrendered
      generalize selection.filters schema style = filters at hrendered
      clear h
      induction hrendered with
      | nil => rfl
      | cons hfilter _ ih =>
          rw [List.flatMap_cons, List.flatMap_cons, List.flatMap_append, ih,
            ScopedFilter.values_pieces hfilter]
  rw [hvalues, flatMap_conditions_filters, boundValues,
    ← map_snd_scopedConditions schema style, List.flatMap_map]

/-- The clause can be written if each condition can, whatever the tree around it. -/
theorem succeeds_wherePieces_iff :
    Result.Succeeds (selection.wherePieces schema style) ↔
      ∀ entry ∈ selection.scopedConditions schema style,
        Result.Succeeds (entry.2.pieces entry.1) := by
  rw [← flatMap_conditions_filters, List.forall_mem_flatMap]
  dsimp only [wherePieces]
  generalize selection.filters schema style = filters
  cases filters with
  | nil => simp
  | cons filter rest =>
      rw [List.isEmpty_cons, if_neg Bool.false_ne_true,
        Result.succeeds_bind_of_forall fun _ => Result.succeeds_pure _, Result.succeeds_mapM]
      exact forall₂_congr fun other _ => ScopedFilter.succeeds_pieces_iff

end Selection

end EntityQuery
