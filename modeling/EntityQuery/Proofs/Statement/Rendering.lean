import EntityQuery.Proofs.Statement.Where
import EntityQuery.Statement.Select

/-!
# The common form of the three statements

Select, count and exists are rendered with one binder each, and still are one text before the
filter, the filter, and one text behind it.  Only the filter binds values, so all that concerns
markers and bindings is a matter of the filter.
-/

namespace EntityQuery

namespace Renderer

/-- The text before the filter. -/
def opening (renderer : Renderer) (selection : Selection) : StatementKind → Result String
  | .select => do
      let projection ← renderer.projection selection
      return "SELECT " ++ (if selection.distinct then "DISTINCT " else "") ++ projection ++ " " ++
        renderer.fromClause selection
  | .count =>
      .ok <| (if countsGroups selection then "SELECT COUNT(1) FROM (" else "") ++
        ("SELECT COUNT(" ++ renderer.countTarget selection ++ ") " ++
          renderer.fromClause selection)
  | .existence => .ok ("SELECT 1 " ++ renderer.fromClause selection)

/-- The text behind the filter. -/
def ending (renderer : Renderer) (selection : Selection) : StatementKind → Result String
  | .select => do
      let groups ← renderer.groupClause selection
      let window := renderer.dialect.limitClause? selection.query.limit selection.query.offset
      let order ← renderer.orderClause selection window.isSome
      return groups ++ order ++ windowClause window
  | .count => do
      let groups ← renderer.groupClause selection
      return groups ++
        (if countsGroups selection then ") " ++ (renderer.scope selection).reference else "")
  | .existence =>
      .ok <| (if renderer.dialect.windowNeedsOrder then emptyOrder else "") ++
        windowClause (renderer.dialect.limitClause? (some 1) 0)

def wherePieces (renderer : Renderer) (selection : Selection) : Result Pieces :=
  selection.wherePieces renderer.schema renderer.dialect.nameStyle

def finish (renderer : Renderer) (pieces : Pieces) : Statement :=
  pieces.toStatement renderer.dialect.markerStyle

theorem sql_finish (renderer : Renderer) (opening ending : String) (filter : Pieces) :
    (renderer.finish (.text opening :: filter ++ [.text ending])).sql =
      opening ++ Pieces.sqlFrom renderer.dialect.markerStyle 0 filter ++ ending := by
  rw [finish, Pieces.toStatement, List.cons_append, Pieces.sqlFrom, Pieces.sqlFrom_append,
    Pieces.sqlFrom_text, String.append_assoc]

theorem bindings_finish (renderer : Renderer) (opening ending : String) (filter : Pieces) :
    (renderer.finish (.text opening :: filter ++ [.text ending])).bindings =
      Pieces.bindingsFrom renderer.dialect.markerStyle 0 filter := by
  rw [finish, Pieces.toStatement, Pieces.bindingsFrom_eq, Pieces.bindingsFrom_eq]
  simp

/-- The text of the filter, whose markers are the first of the statement. -/
def filterSql (renderer : Renderer) (filter : Pieces) : String :=
  filter.sqlFrom renderer.dialect.markerStyle 0

def filterBindings (renderer : Renderer) (filter : Pieces) : List Binding :=
  filter.bindingsFrom renderer.dialect.markerStyle 0

/-- What is rendered before the filter binds nothing. -/
theorem statement_liftM_bind (renderer : Renderer) {α : Type} (first : Result α)
    (next : α → Rendering Result String) :
    renderer.statement (liftM first >>= next) =
      first >>= fun value => renderer.statement (next value) := by
  cases first <;> rfl

/-- Nor does what is rendered behind it. -/
theorem statement_whereClause_bind (renderer : Renderer) (selection : Selection)
    {next : String → Rendering Result String} {rest : String → Result String}
    (h : ∀ filter binder, (next filter).run binder = (rest filter).map fun sql => (sql, binder)) :
    renderer.statement (renderer.whereClause selection >>= next) = (do
      let filter ← renderer.wherePieces selection
      let sql ← rest (renderer.filterSql filter)
      return ⟨sql, renderer.filterBindings filter⟩) := by
  unfold Renderer.statement Rendering.statement whereClause wherePieces
  rw [StateT.run_bind, Selection.run_whereClause]
  cases selection.wherePieces renderer.schema renderer.dialect.nameStyle with
  | error error => rfl
  | ok filter =>
      change ((next (renderer.filterSql filter)).run _ >>= fun written =>
        pure (Statement.mk written.1 written.2.bindings)) = rest _ >>= _
      rw [h, filterBindings, Pieces.bindingsFrom_eq]
      cases rest (renderer.filterSql filter) <;> rfl

theorem select_eq (renderer : Renderer) (selection : Selection) :
    renderer.select selection = (do
      let projection ← renderer.projection selection
      let filter ← renderer.wherePieces selection
      let groups ← renderer.groupClause selection
      let order ← renderer.orderClause selection (renderer.window? selection).isSome
      return ⟨selectSql selection projection
          (renderer.sourceSql selection (renderer.filterSql filter) groups) order
          (renderer.window? selection), renderer.filterBindings filter⟩) := by
  rw [select, statement_liftM_bind]
  refine bind_congr fun projection => ?_
  let rest : String → Result String := fun filter => do
    let groups ← renderer.groupClause selection
    let order ← renderer.orderClause selection (renderer.window? selection).isSome
    return selectSql selection projection (renderer.sourceSql selection filter groups) order
      (renderer.window? selection)
  refine (@statement_whereClause_bind renderer selection _ rest ?_).trans ?_
  · intro filter binder
    dsimp only [rest]
    generalize renderer.orderClause selection _ = order
    cases renderer.groupClause selection with
    | error error => rfl
    | ok groups => cases order <;> rfl
  · simp only [rest, bind_assoc, pure_bind]

/-- A text of the filter and the groups. -/
theorem statement_grouped (renderer : Renderer) (selection : Selection)
    (sql : String → String → String) :
    renderer.statement (do
      let filter ← renderer.whereClause selection
      let groups ← renderer.groupClause selection
      return sql filter groups) = (do
      let filter ← renderer.wherePieces selection
      let groups ← renderer.groupClause selection
      return ⟨sql (renderer.filterSql filter) groups, renderer.filterBindings filter⟩) := by
  let rest : String → Result String := fun filter => do
    let groups ← renderer.groupClause selection
    return sql filter groups
  refine (@statement_whereClause_bind renderer selection _ rest ?_).trans ?_
  · intro filter binder
    dsimp only [rest]
    cases renderer.groupClause selection <;> rfl
  · simp only [rest, bind_assoc, pure_bind]

theorem count_eq (renderer : Renderer) (selection : Selection) :
    renderer.count selection = (do
      let filter ← renderer.wherePieces selection
      let groups ← renderer.groupClause selection
      return ⟨renderer.countSql selection
          (renderer.sourceSql selection (renderer.filterSql filter) groups),
        renderer.filterBindings filter⟩) :=
  renderer.statement_grouped selection fun filter groups =>
    renderer.countSql selection (renderer.sourceSql selection filter groups)

theorem exists?_eq (renderer : Renderer) (selection : Selection) :
    renderer.exists? selection = (do
      let filter ← renderer.wherePieces selection
      return ⟨renderer.existsSql selection (renderer.filterSql filter),
        renderer.filterBindings filter⟩) :=
  @statement_whereClause_bind renderer selection _
    (fun filter => pure (renderer.existsSql selection filter)) fun _ _ => rfl

theorem finish_eq (renderer : Renderer) (opening ending : String) (filter : Pieces) :
    renderer.finish (.text opening :: filter ++ [.text ending]) =
      ⟨opening ++ renderer.filterSql filter ++ ending, renderer.filterBindings filter⟩ :=
  congrArg₂ Statement.mk (sql_finish renderer opening ending filter)
    (bindings_finish renderer opening ending filter)

theorem render_eq (renderer : Renderer) (selection : Selection) (kind : StatementKind) :
    renderer.render kind selection = (do
      let opening ← renderer.opening selection kind
      let filter ← renderer.wherePieces selection
      let ending ← renderer.ending selection kind
      return renderer.finish (.text opening :: filter ++ [.text ending])) := by
  simp only [finish_eq]
  cases kind with
  | select =>
      simp only [render, select_eq, selectSql, sourceSql, window?, opening, ending, bind_assoc,
        pure_bind, String.append_assoc]
  | count =>
      rw [render, count_eq]
      refine bind_congr fun filter => ?_
      simp only [ending, bind_assoc, pure_bind]
      refine bind_congr fun groups => congrArg pure ?_
      by_cases hwraps : countsGroups selection = true
      · simp only [countSql, sourceSql, if_pos hwraps, String.append_assoc]
      · simp only [countSql, sourceSql, if_neg hwraps, String.empty_append, String.append_empty,
          String.append_assoc]
  | existence =>
      rw [render, exists?_eq]
      refine bind_congr fun filter => congrArg pure ?_
      simp only [existsSql, String.append_assoc]

theorem render_eq_ok {renderer : Renderer} {selection : Selection} {kind : StatementKind}
    {statement : Statement} :
    renderer.render kind selection = .ok statement ↔
      ∃ opening filter ending, renderer.opening selection kind = .ok opening ∧
        renderer.wherePieces selection = .ok filter ∧
        renderer.ending selection kind = .ok ending ∧
        renderer.finish (.text opening :: filter ++ [.text ending]) = statement := by
  simp only [render_eq, Result.bind_eq_ok, Result.pure_eq_ok]
  constructor
  · rintro ⟨opening, hopening, filter, hfilter, ending, hending, hstatement⟩
    exact ⟨opening, filter, ending, hopening, hfilter, hending, hstatement⟩
  · rintro ⟨opening, filter, ending, hopening, hfilter, hending, hstatement⟩
    exact ⟨opening, hopening, filter, hfilter, ending, hending, hstatement⟩

theorem ending_select_eq_ok {renderer : Renderer} {selection : Selection} {ending : String} :
    renderer.ending selection .select = .ok ending ↔
      ∃ groups order, renderer.groupClause selection = .ok groups ∧
        renderer.orderClause selection (renderer.dialect.limitClause? selection.query.limit
          selection.query.offset).isSome = .ok order ∧
        groups ++ order ++ windowClause (renderer.dialect.limitClause? selection.query.limit
          selection.query.offset) = ending := by
  dsimp only [Renderer.ending]
  simp only [Result.bind_eq_ok, Result.pure_eq_ok]
  constructor
  · rintro ⟨groups, hgroups, order, horder, hending⟩
    exact ⟨groups, order, hgroups, horder, hending⟩
  · rintro ⟨groups, order, hgroups, horder, hending⟩
    exact ⟨groups, hgroups, order, horder, hending⟩

theorem ending_count_eq_ok {renderer : Renderer} {selection : Selection} {ending : String} :
    renderer.ending selection .count = .ok ending ↔
      ∃ groups, renderer.groupClause selection = .ok groups ∧
        groups ++ (if countsGroups selection then
          ") " ++ (renderer.scope selection).reference else "") = ending := by
  rw [Renderer.ending, Result.bind_eq_ok]
  simp only [Result.pure_eq_ok]

end Renderer

end EntityQuery
