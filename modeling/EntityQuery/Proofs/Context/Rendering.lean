import EntityQuery.Context.Rendering
import EntityQuery.Proofs.Context.Report
import EntityQuery.Proofs.Statement.Filter
import Mathlib.Data.List.Forall2

/-!
# Statements given by inquiries

All that a statement asks a context for is what the names in it stand for.  So where the names of
two scopes come out alike, the one put to a context and the other read off a schema, the statements
do so too, clause by clause.  The filter is rendered along a binder, and is compared from every
binder on.
-/

namespace EntityQuery.Inquiry

variable {n : Nat} {registry : Registry n}

/-- Names of the one scope, put to a context, come out as names of the other do. -/
structure Agrees (registry : Registry n) (scope other : ColumnScope) : Prop where
  reference : scope.reference = other.reference
  style : scope.style = other.style
  column : ∀ name, Gives registry (column scope name) (other.resolve name)

theorem gives_mapM₂ {α β γ : Type} {step : α → Inquiry n γ} {results : β → Result γ}
    {inputs : List α} {others : List β}
    (h : List.Forall₂ (fun input other => Gives registry (step input) (results other))
      inputs others) : Gives registry (inputs.mapM step) (others.mapM results) := by
  induction h with
  | nil => exact gives_pure []
  | cons hfirst _ ih =>
      rw [List.mapM_cons, List.mapM_cons]
      exact hfirst.bind fun first _ => ih.bind fun rest _ => gives_pure (first :: rest)

theorem gives_mapM {α γ : Type} {step : α → Inquiry n γ} {results : α → Result γ}
    {inputs : List α} (h : ∀ input ∈ inputs, Gives registry (step input) (results input)) :
    Gives registry (inputs.mapM step) (inputs.mapM results) :=
  gives_mapM₂ (List.forall₂_same.mpr h)

/-! ### Renderings over a context -/

section Renderings

variable {α β : Type}

/-- From every binder on, the rendering over a context comes out as the other one. -/
def Renders (registry : Registry n) (asked : Rendering (Inquiry n) α) (known : Rendering Result α) :
    Prop :=
  ∀ binder, Gives registry (asked.run binder) (known.run binder)

theorem renders_pure (value : α) : Renders registry (pure value) (pure value) :=
  fun binder => gives_pure (value, binder)

theorem Renders.bind {asked : Rendering (Inquiry n) α} {known : Rendering Result α}
    {next : α → Rendering (Inquiry n) β} {rest : α → Rendering Result β}
    (h : Renders registry asked known) (hnext : ∀ value, Renders registry (next value) (rest value)) :
    Renders registry (asked >>= next) (known >>= rest) := by
  intro binder
  rw [StateT.run_bind, StateT.run_bind]
  exact (h binder).bind fun out _ => hnext out.1 out.2

theorem renders_liftM {inquiry : Inquiry n α} {result : Result α}
    (h : Gives registry inquiry result) :
    Renders registry (liftM inquiry) (liftM result) :=
  fun binder => h.bind fun value _ => gives_pure (value, binder)

theorem renders_markerFor (value : Value) :
    Renders registry (Rendering.markerFor value) (Rendering.markerFor value) :=
  fun binder => gives_pure (binder.bind value)

theorem renders_mapM₂ {γ : Type} {step : α → Rendering (Inquiry n) γ}
    {other : β → Rendering Result γ} {inputs : List α} {others : List β}
    (h : List.Forall₂ (fun input another => Renders registry (step input) (other another))
      inputs others) : Renders registry (inputs.mapM step) (others.mapM other) := by
  induction h with
  | nil => exact renders_pure []
  | cons hfirst _ ih =>
      rw [List.mapM_cons, List.mapM_cons]
      exact hfirst.bind fun first => ih.bind fun rest => renders_pure (first :: rest)

theorem renders_mapM {γ : Type} {step : α → Rendering (Inquiry n) γ} {other : α → Rendering Result γ}
    {inputs : List α} (h : ∀ input ∈ inputs, Renders registry (step input) (other input)) :
    Renders registry (inputs.mapM step) (inputs.mapM other) :=
  renders_mapM₂ (List.forall₂_same.mpr h)

theorem Renders.statement {asked : Rendering (Inquiry n) String} {known : Rendering Result String}
    (h : Renders registry asked known) (style : MarkerStyle) :
    Gives registry (asked.statement style) (known.statement style) :=
  (h (.start style)).bind fun _ _ => gives_pure _

end Renderings

/-! ### Names -/

theorem gives_storedColumn {scope : ColumnScope} {path : Path} (name : String)
    (hwell : registry.schema.WellFormed) (hschema : scope.schema = registry.schema)
    (hpath : registry.schema.HasPath path) :
    Gives registry (storedColumn scope name path) (scope.storedColumn name path) := by
  refine (gives_handOut hwell hpath).bind_ok ?_
  unfold ColumnScope.storedColumn
  rw [hschema]
  split
  · exact gives_throw _
  · refine (gives_tableOwner hwell hpath).bind fun owner _ => ?_
    dsimp only
    split
    · exact gives_throw _
    · exact (gives_ofResult _).bind fun column _ => gives_pure _

/-- The names of a scope over the schema of the context come out as the schema has them. -/
theorem agrees_self {scope : ColumnScope} (hwell : registry.schema.WellFormed)
    (hschema : scope.schema = registry.schema)
    (hentity : ∀ entity, scope.entity = some entity →
      registry.schema.entity? entity.id = some entity) : Agrees registry scope scope where
  reference := rfl
  style := rfl
  column := by
    intro name
    unfold column ColumnScope.resolve
    split
    · exact gives_pure name
    split
    · exact gives_pure scope.allColumns
    cases hscope : scope.entity with
    | none => exact gives_pure (scope.unmapped name)
    | some entity =>
        refine gives_schema.bind_ok ?_
        dsimp only
        rw [hschema]
        cases hresolve : registry.schema.resolve entity name with
        | ok path =>
            have hpath := (Schema.hasPath_resolve (hentity entity hscope) hresolve).1
            exact gives_storedColumn name hwell hschema hpath
        | error error =>
            dsimp only
            split
            · exact gives_pure (scope.unmapped name)
            · exact gives_throw error

theorem Agrees.of_resolve_eq {scope other another : ColumnScope} (h : Agrees registry scope other)
    (hreference : other.reference = another.reference) (hstyle : other.style = another.style)
    (hresolve : ∀ name, other.resolve name = another.resolve name) :
    Agrees registry scope another :=
  ⟨h.reference.trans hreference, h.style.trans hstyle, fun name => hresolve name ▸ h.column name⟩

/-! ### Clauses -/

section Clauses

variable {scope other : ColumnScope} (hscope : Agrees registry scope other)

include hscope

theorem gives_checkedColumn (label name : String) :
    Gives registry (checkedColumn scope label name) (other.resolveChecked label name) :=
  (gives_ofResult _).bind fun _ _ => hscope.column name

theorem gives_projectedColumn (name : Identifier) :
    Gives registry (projectedColumn scope name) (Renderer.projectedColumn other name) := by
  cases name with
  | expression expression => exact gives_pure expression
  | quoted name =>
      have hqualified : ∀ column, scope.qualified column = other.qualified column := by
        intro column
        rw [ColumnScope.qualified, ColumnScope.qualified, hscope.reference]
      rw [projectedColumn, Renderer.projectedColumn, hqualified, hscope.style]
      exact gives_pure _
  | plain name => exact hscope.column name

omit hscope in
theorem renders_renderOn (column : String) (condition : Condition) :
    Renders registry (condition.renderOn column) (condition.renderOn column) := by
  unfold Condition.renderOn
  cases condition.form with
  | test comparator => exact renders_pure _
  | membership comparator elements =>
      cases elements with
      | nil => exact renders_pure _
      | cons value rest =>
          exact (renders_mapM fun value _ => renders_markerFor value).bind fun _ => renders_pure _
  | comparison comparator value => exact (renders_markerFor value).bind fun _ => renders_pure _
  | incomplete => exact renders_liftM (gives_throw _)

theorem renders_condition (condition : Condition) :
    Renders registry (condition.render checkedColumn scope)
      (condition.render ColumnScope.resolveChecked other) :=
  (renders_liftM (gives_checkedColumn hscope _ _)).bind fun column =>
    renders_renderOn column condition

theorem renders_criteria (nested : Bool) (criteria : Criteria) :
    Renders registry (criteria.render checkedColumn scope nested)
      (criteria.render ColumnScope.resolveChecked other nested) := by
  induction criteria using Criteria.induction generalizing nested with
  | condition leaf =>
      rw [Criteria.render, Criteria.render]
      exact renders_condition hscope leaf
  | group combinator parts ih =>
      rw [Criteria.render, Criteria.render, Criteria.renderParts_eq_mapM,
        Criteria.renderParts_eq_mapM]
      exact (renders_mapM fun part hpart => ih part hpart true).bind fun _ => renders_pure _

omit hscope in
theorem renders_filter (combined : Bool) {filter another : ScopedFilter}
    (hscope : Agrees registry filter.scope another.scope)
    (hcriteria : filter.criteria = another.criteria) :
    Renders registry (filter.render checkedColumn combined)
      (another.render ColumnScope.resolveChecked combined) := by
  unfold ScopedFilter.render
  rw [hcriteria]
  exact (renders_criteria hscope false another.criteria).bind fun _ => renders_pure _

end Clauses

/-- The one selection, put to a context, is written as the other is by its renderer. -/
structure Matches (registry : Registry n) (renderer other : Renderer)
    (selection same : Selection) : Prop where
  dialect : renderer.dialect = other.dialect
  table : selection.table = same.table
  query : selection.query = same.query
  distinct : selection.distinct = same.distinct
  countTarget : renderer.countTarget selection = other.countTarget same
  scope : Agrees registry (renderer.scope selection) (other.scope same)

namespace Matches

variable {renderer other : Renderer} {selection same : Selection}
  (h : Matches registry renderer other selection same)

include h

theorem join (join : Join) :
    Agrees registry (join.scope renderer.schema renderer.dialect.nameStyle)
      (join.scope other.schema other.dialect.nameStyle) where
  reference := rfl
  style := congrArg Dialect.nameStyle h.dialect
  column := by
    intro name
    unfold column ColumnScope.resolve
    split
    · exact gives_pure _
    split
    · exact gives_pure _
    · exact gives_pure _

theorem filters :
    List.Forall₂ (fun filter another => filter.criteria = another.criteria ∧
        Agrees registry filter.scope another.scope)
      (selection.filters renderer.schema renderer.dialect.nameStyle)
      (same.filters other.schema other.dialect.nameStyle) := by
  unfold Selection.filters
  rw [h.query]
  refine List.rel_append ?_ ?_
  · cases same.query.criteria.bind Criteria.simplify? with
    | none => exact .nil
    | some criteria => exact .cons ⟨rfl, h.scope⟩ .nil
  · generalize same.query.joins.getD [] = joins
    induction joins with
    | nil => exact .nil
    | cons join joins ih =>
        rw [List.filterMap_cons, List.filterMap_cons]
        cases join.criteria.bind Criteria.simplify? with
        | none => exact ih
        | some criteria => exact .cons ⟨rfl, h.join join⟩ ih

theorem whereClause :
    Renders registry (whereClause renderer selection) (other.whereClause same) := by
  have hfilters := h.filters
  unfold Inquiry.whereClause Renderer.whereClause Selection.whereClause
  generalize selection.filters renderer.schema renderer.dialect.nameStyle = filters at hfilters
  generalize same.filters other.schema other.dialect.nameStyle = others at hfilters
  have hempty : filters.isEmpty = others.isEmpty := by cases hfilters <;> rfl
  simp only [hempty, hfilters.length_eq]
  split
  · exact renders_pure ""
  · refine (renders_mapM₂ (hfilters.imp fun filter another hboth => ?_)).bind fun _ => ?_
    · exact renders_filter _ hboth.2 hboth.1
    · exact renders_pure _

theorem projection : Gives registry (projection renderer selection) (other.projection same) := by
  unfold Inquiry.projection Renderer.projection
  rw [h.query]
  dsimp only
  split
  · rw [ColumnScope.allColumns, ColumnScope.allColumns, ColumnScope.qualified,
      ColumnScope.qualified, h.scope.reference]
    exact gives_pure _
  · refine (gives_mapM fun column _ => gives_projectedColumn h.scope column).bind fun columns _ => ?_
    exact gives_pure _

theorem groupClause : Gives registry (groupClause renderer selection) (other.groupClause same) := by
  unfold Inquiry.groupClause Renderer.groupClause
  rw [h.query]
  dsimp only
  split
  · exact gives_pure ""
  · refine (gives_mapM fun column _ => gives_checkedColumn h.scope _ column).bind
      fun rendered _ => ?_
    exact gives_pure _

theorem orderSql (order : Order) :
    Gives registry (orderSql renderer selection order)
      (order.sql other.dialect (other.scope same)) := by
  unfold Inquiry.orderSql Order.sql
  rw [h.dialect]
  exact (gives_checkedColumn h.scope _ _).bind fun column _ => gives_pure _

theorem orderClause (windowed : Bool) :
    Gives registry (orderClause renderer selection windowed) (other.orderClause same windowed) := by
  unfold Inquiry.orderClause Renderer.orderClause
  rw [h.query, h.dialect]
  dsimp only
  split
  · exact gives_pure _
  · exact (gives_mapM fun order _ => h.orderSql order).bind fun rendered _ => gives_pure _

/-! ### Statements -/

theorem fromClause : renderer.fromClause selection = other.fromClause same := by
  unfold Renderer.fromClause
  rw [h.dialect, h.table, h.query]

theorem sourceSql (filter groups : String) :
    renderer.sourceSql selection filter groups = other.sourceSql same filter groups := by
  unfold Renderer.sourceSql
  rw [h.fromClause]

theorem window? : renderer.window? selection = other.window? same := by
  unfold Renderer.window?
  rw [h.dialect, h.query]

theorem statement {asked : Rendering (Inquiry n) String} {known : Rendering Result String}
    (htext : Renders registry asked known) :
    Gives registry (renderer.statement asked) (other.statement known) := by
  unfold Renderer.statement
  rw [h.dialect]
  exact htext.statement _

theorem select : Gives registry (select renderer selection) (other.select same) := by
  refine h.statement ((renders_liftM h.projection).bind fun projection => ?_)
  refine h.whereClause.bind fun filter => ?_
  refine (renders_liftM h.groupClause).bind fun groups => ?_
  rw [h.window?, h.sourceSql]
  refine (renders_liftM (h.orderClause _)).bind fun order => ?_
  unfold Renderer.selectSql
  rw [h.distinct]
  exact renders_pure _

theorem count : Gives registry (count renderer selection) (other.count same) := by
  refine h.statement (h.whereClause.bind fun filter => ?_)
  refine (renders_liftM h.groupClause).bind fun groups => ?_
  unfold Renderer.countSql Renderer.countsGroups
  rw [h.sourceSql, h.countTarget, h.query, h.scope.reference]
  exact renders_pure _

theorem exists? : Gives registry (exists? renderer selection) (other.exists? same) := by
  refine h.statement (h.whereClause.bind fun filter => ?_)
  unfold Renderer.existsSql
  rw [h.dialect, h.fromClause]
  exact renders_pure _

end Matches

theorem gives_render {dialect : Dialect} {kind : StatementKind} {selection same : Selection}
    {other : Renderer} (h : Matches registry ⟨dialect, registry.schema⟩ other selection same) :
    Gives registry (render dialect kind selection) (other.render kind same) := by
  refine gives_schema.bind_ok ?_
  cases kind with
  | select => exact h.select
  | count => exact h.count
  | existence => exact h.exists?

/-- Over a context, a selection of a registered entity is written as the schema of the context has
it. -/
theorem matches_self {dialect : Dialect} {selection : Selection}
    (hwell : registry.schema.WellFormed)
    (hentity : ∀ entity, selection.entity = some entity →
      registry.schema.entity? entity.id = some entity) :
    Matches registry ⟨dialect, registry.schema⟩ ⟨dialect, registry.schema⟩ selection selection where
  dialect := rfl
  table := rfl
  query := rfl
  distinct := rfl
  countTarget := rfl
  scope := agrees_self hwell rfl hentity

/-- Without an entity, nothing is asked of a schema. -/
theorem matches_of_none {dialect : Dialect} {selection : Selection} {schema : Schema}
    (hwell : registry.schema.WellFormed) (hnone : selection.entity = none) :
    Matches registry ⟨dialect, registry.schema⟩ ⟨dialect, schema⟩ selection selection where
  dialect := rfl
  table := rfl
  query := rfl
  distinct := rfl
  countTarget := by
    unfold Renderer.countTarget
    rw [hnone]
    rfl
  scope := by
    have hself : Agrees registry (Renderer.scope ⟨dialect, registry.schema⟩ selection)
        (Renderer.scope ⟨dialect, registry.schema⟩ selection) := by
      refine agrees_self hwell rfl fun entity hentity => ?_
      cases hnone.symm.trans hentity
    refine hself.of_resolve_eq rfl rfl fun name => ?_
    have hscope : ∀ schema : Schema, (Renderer.scope ⟨dialect, schema⟩ selection).entity = none :=
      fun _ => hnone
    unfold ColumnScope.resolve
    rw [hscope, hscope]
    rfl

end EntityQuery.Inquiry
