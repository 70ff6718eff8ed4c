import EntityQuery.Proofs.Statement.Success

/-!
# The clauses of a statement

A statement in full: which clauses it has, in which order, and with which values.  What stands
behind the filter in a select is its groups, its order and its window; a count has the groups and
an existence test has one row as its window.  The three have the tables, the filter and its values
in common, and the other two take nothing else from the query than the select does.
-/

namespace EntityQuery

/-- A clause that may be absent, and opens with its keyword if it is there. -/
def IsClause (keyword clause : String) : Prop :=
  clause = "" ∨ ∃ rest, clause = keyword ++ rest

/-- How the condition of a join is written. -/
inductive JoinCondition.Written : JoinCondition → String → Prop
  | on (pairs : List (String × String)) : Written (.on pairs)
      (" ON " ++ " AND ".intercalate (pairs.map fun pair => pair.1 ++ " = " ++ pair.2))
  | shared (columns : List String) : Written (.shared columns)
      (" USING (" ++ ", ".intercalate columns ++ ")")
  | absent : Written .absent ""

/-- How a join is written: its kind and its table, the alias if it has one, and its condition. -/
def Join.Written (join : Join) (text : String) : Prop :=
  ∃ naming condition, text = " " ++ join.kind.sql ++ " " ++ join.table ++ naming ++ condition ∧
    (join.aliasName = none → naming = "") ∧
    (∀ name, join.aliasName = some name → naming = " AS " ++ name) ∧
    join.condition.Written condition

/-- The FROM clause of the selection: its table, and behind it every join. -/
def Selection.IsFrom (style : NameStyle) (selection : Selection) (clause : String) : Prop :=
  ∃ joined, List.Forall₂ Join.Written (selection.query.joins.getD []) joined ∧
    clause = "FROM " ++ selection.table.sql style ++ String.join joined

/-- The window of a single row.  Where a window needs an order, any order will do. -/
def Dialect.firstRow : Dialect → String
  | .postgres | .mysql => " LIMIT 1"
  | .sqlserver => " ORDER BY (SELECT 1) OFFSET 0 ROWS FETCH NEXT 1 ROWS ONLY"

/-- The selection with other columns, another order, another window and with or without doubles. -/
def Selection.reshaped (selection : Selection) (columns : List Identifier) (sorting : Sorting)
    (limit : Option UInt64) (offset : UInt64) (distinct : Bool) : Selection :=
  { selection with query := { selection.query with columns, sorting, limit, offset }, distinct }

theorem Join.written_sql (join : Join) : join.Written (" " ++ join.sql) := by
  refine ⟨join.aliasName.elim "" (" AS " ++ ·), Join.conditionSql join.condition, ?_, ?_, ?_, ?_⟩
  · unfold Join.sql
    cases join.aliasName <;> simp only [Option.elim, String.append_assoc]
  · intro hnone
    rw [hnone]
    rfl
  · intro name hsome
    rw [hsome]
    rfl
  · cases join.condition with
    | on pairs => exact .on pairs
    | shared columns => exact .shared columns
    | absent => exact .absent

theorem Selection.wherePieces_form {schema : Schema} {style : NameStyle} {selection : Selection}
    {filter : Pieces} (h : selection.wherePieces schema style = .ok filter) :
    (selection.conditions = [] ∧ filter = []) ∨
      (selection.conditions ≠ [] ∧ ∃ body, filter = .text " WHERE " :: body) := by
  have hempty := selection.filters_eq_nil_iff schema style
  rcases wherePieces_eq_ok.mp h with ⟨hnil, rfl⟩ | ⟨hne, rendered, -, rfl⟩
  · exact .inl ⟨hempty.mp hnil, rfl⟩
  · exact .inr ⟨hempty.not.mp hne, _, rfl⟩

theorem Query.hasGroups_eq_false_iff (query : Query) :
    query.hasGroups = false ↔ (query.groups.getD .empty).columns = [] := by
  unfold hasGroups
  cases query.groups with
  | none => exact iff_of_true rfl rfl
  | some groups => simp [Groups.isEmpty]

namespace Renderer

variable {renderer : Renderer} {selection : Selection} {statement : Statement}

theorem isFrom_fromClause (renderer : Renderer) (selection : Selection) :
    selection.IsFrom renderer.dialect.nameStyle (renderer.fromClause selection) := by
  refine ⟨_, ?_, rfl⟩
  rw [List.forall₂_map_right_iff]
  exact List.forall₂_same.mpr fun join _ => join.written_sql

theorem firstRow_eq (dialect : Dialect) :
    (if dialect.windowNeedsOrder then emptyOrder else "") ++
      windowClause (dialect.limitClause? (some 1) 0) = dialect.firstRow := by
  cases dialect <;> decide

/-! ### Clauses that may be absent -/

theorem isClause_filterSql {filter : Pieces} (h : renderer.wherePieces selection = .ok filter) :
    IsClause " WHERE " (renderer.filterSql filter) ∧
      (renderer.filterSql filter = "" ↔ selection.conditions = []) := by
  rcases Selection.wherePieces_form h with ⟨hnone, rfl⟩ | ⟨hsome, body, rfl⟩
  · exact ⟨.inl rfl, iff_of_true rfl hnone⟩
  · refine ⟨.inr ⟨Pieces.sqlFrom _ 0 body, rfl⟩, iff_of_false ?_ hsome⟩
    intro hempty
    exact absurd (String.append_eq_empty_iff.mp hempty).1 (by decide)

theorem isClause_groupClause {groups : String} (h : renderer.groupClause selection = .ok groups) :
    IsClause " GROUP BY " groups ∧ (groups = "" ↔ selection.query.hasGroups = false) := by
  rw [Query.hasGroups_eq_false_iff, ← List.isEmpty_iff]
  dsimp only [groupClause] at h
  split at h
  · rename_i hempty
    rw [← Result.pure_eq_ok.mp h]
    exact ⟨.inl rfl, iff_of_true rfl hempty⟩
  · rename_i hempty
    rw [Result.bind_eq_ok] at h
    obtain ⟨columns, -, h⟩ := h
    rw [← Result.pure_eq_ok.mp h]
    refine ⟨.inr ⟨_, rfl⟩, iff_of_false ?_ hempty⟩
    intro hnone
    exact absurd (String.append_eq_empty_iff.mp hnone).1 (by decide)

theorem isClause_orderClause {windowed : Bool} {order : String}
    (h : renderer.orderClause selection windowed = .ok order) : IsClause " ORDER BY " order := by
  dsimp only [orderClause] at h
  split at h
  · rw [← Result.pure_eq_ok.mp h]
    split
    · exact .inr ⟨"(SELECT 1)", by decide⟩
    · exact .inl rfl
  · rw [Result.bind_eq_ok] at h
    obtain ⟨orders, -, h⟩ := h
    rw [← Result.pure_eq_ok.mp h]
    exact .inr ⟨_, rfl⟩

/-! ### Whole statements -/

theorem select_eq_ok :
    renderer.select selection = .ok statement ↔
      ∃ projection filter groups order, renderer.projection selection = .ok projection ∧
        renderer.wherePieces selection = .ok filter ∧
        renderer.groupClause selection = .ok groups ∧
        renderer.orderClause selection (renderer.window? selection).isSome = .ok order ∧
        statement = ⟨selectSql selection projection
          (renderer.sourceSql selection (renderer.filterSql filter) groups) order
          (renderer.window? selection), renderer.filterBindings filter⟩ := by
  simp only [select_eq, Result.bind_eq_ok, Result.pure_eq_ok]
  constructor
  · rintro ⟨projection, hprojection, filter, hfilter, groups, hgroups, order, horder, rfl⟩
    exact ⟨projection, filter, groups, order, hprojection, hfilter, hgroups, horder, rfl⟩
  · rintro ⟨projection, filter, groups, order, hprojection, hfilter, hgroups, horder, rfl⟩
    exact ⟨projection, hprojection, filter, hfilter, groups, hgroups, order, horder, rfl⟩

theorem count_eq_ok :
    renderer.count selection = .ok statement ↔
      ∃ filter groups, renderer.wherePieces selection = .ok filter ∧
        renderer.groupClause selection = .ok groups ∧
        statement = ⟨renderer.countSql selection
          (renderer.sourceSql selection (renderer.filterSql filter) groups),
          renderer.filterBindings filter⟩ := by
  simp only [count_eq, Result.bind_eq_ok, Result.pure_eq_ok]
  constructor
  · rintro ⟨filter, hfilter, groups, hgroups, rfl⟩
    exact ⟨filter, groups, hfilter, hgroups, rfl⟩
  · rintro ⟨filter, groups, hfilter, hgroups, rfl⟩
    exact ⟨filter, hfilter, groups, hgroups, rfl⟩

theorem existsSql_eq (filter : String) :
    renderer.existsSql selection filter =
      "SELECT 1 " ++ renderer.fromClause selection ++ filter ++ renderer.dialect.firstRow := by
  rw [← firstRow_eq, existsSql]
  simp only [String.append_assoc]

theorem exists?_eq_ok :
    renderer.exists? selection = .ok statement ↔
      ∃ filter, renderer.wherePieces selection = .ok filter ∧
        statement = ⟨"SELECT 1 " ++ renderer.fromClause selection ++ renderer.filterSql filter ++
          renderer.dialect.firstRow, renderer.filterBindings filter⟩ := by
  simp only [exists?_eq, Result.bind_eq_ok, Result.pure_eq_ok, existsSql_eq]
  exact exists_congr fun filter => and_congr Iff.rfl eq_comm

/-! ### The same rows -/

/-- Counts and existence tests read neither the projection nor the order nor the window. -/
theorem render_reshaped {kind : StatementKind} (hkind : kind ≠ .select) (renderer : Renderer)
    (selection : Selection) (columns : List Identifier) (sorting : Sorting)
    (limit : Option UInt64) (offset : UInt64) (distinct : Bool) :
    renderer.render kind (selection.reshaped columns sorting limit offset distinct) =
      renderer.render kind selection := by
  cases kind with
  | select => exact absurd rfl hkind
  | count => rfl
  | existence => rfl

/-- A count and an existence test succeed where the select does.  They are about its rows: the
three have their tables, their filter and their values in common, and the count has the groups. -/
theorem statements_share_source (renderer : Renderer) (selection : Selection) :
    (∀ selected, renderer.select selection = .ok selected →
      ∃ projection filter groups order counted found,
        selection.IsFrom renderer.dialect.nameStyle (renderer.fromClause selection) ∧
        IsClause " WHERE " filter ∧ (filter = "" ↔ selection.conditions = []) ∧
        IsClause " GROUP BY " groups ∧ (groups = "" ↔ selection.query.hasGroups = false) ∧
        IsClause " ORDER BY " order ∧ renderer.projection selection = .ok projection ∧
        selected.sql = "SELECT " ++ (if selection.distinct then "DISTINCT " else "") ++
          projection ++ " " ++ (renderer.fromClause selection ++ filter ++ groups) ++ order ++
          windowClause (renderer.dialect.limitClause? selection.query.limit
            selection.query.offset) ∧
        renderer.exists? selection = .ok found ∧
        found.sql = "SELECT 1 " ++ renderer.fromClause selection ++ filter ++
          renderer.dialect.firstRow ∧
        renderer.count selection = .ok counted ∧
        (let source := renderer.fromClause selection ++ filter ++ groups
          let rows := "SELECT COUNT(" ++ renderer.countTarget selection ++ ") " ++ source
          counted.sql =
            if selection.query.hasGroups = true ∧ selection.query.hasJoin = false then
              "SELECT COUNT(1) FROM (" ++ rows ++ ") " ++ (renderer.scope selection).reference
            else rows) ∧
        counted.bindings = selected.bindings ∧ found.bindings = selected.bindings) ∧
      ∀ columns sorting limit offset distinct,
        renderer.count (selection.reshaped columns sorting limit offset distinct) =
            renderer.count selection ∧
          renderer.exists? (selection.reshaped columns sorting limit offset distinct) =
            renderer.exists? selection := by
  constructor
  · intro selected hselect
    obtain ⟨projection, filter, groups, order, hprojection, hfilter, hgroups, horder, rfl⟩ :=
      select_eq_ok.mp hselect
    obtain ⟨hwhere, hwhereEmpty⟩ := isClause_filterSql hfilter
    obtain ⟨hgrouped, hgroupedEmpty⟩ := isClause_groupClause hgroups
    have hcount := count_eq_ok.mpr ⟨filter, groups, hfilter, hgroups, rfl⟩
    have hexists := exists?_eq_ok.mpr ⟨filter, hfilter, rfl⟩
    refine ⟨projection, renderer.filterSql filter, groups, order, _, _,
      isFrom_fromClause renderer selection, hwhere, hwhereEmpty, hgrouped, hgroupedEmpty,
      isClause_orderClause horder, hprojection, rfl, hexists, rfl, hcount, ?_, rfl, rfl⟩
    dsimp only [countSql, sourceSql, countsGroups]
    refine if_congr ?_ rfl rfl
    rw [Bool.and_eq_true, Bool.not_eq_true']
  · intro columns sorting limit offset distinct
    have hcount : StatementKind.count ≠ .select := by decide
    have hexistence : StatementKind.existence ≠ .select := by decide
    exact ⟨render_reshaped hcount renderer selection columns sorting limit offset distinct,
      render_reshaped hexistence renderer selection columns sorting limit offset distinct⟩

set_option maxRecDepth 4096 in
/-- Groups without a join are counted in a subquery, where the order of the select is left out.
Behind joins the statement that groups the rows counts them as well. -/
theorem statements_share_source_of_grouped :
    let renderer := Renderer.mk .sqlserver (.empty .standard)
    let query := { (Query.ofCriteria (.compare .gt "age" (.integer 6))).groupBy ⟨["city"]⟩ with
      columns := [.plain "city"], sorting := ⟨[.of .descending "city"]⟩ }
    let selection := (Selection.ofTable ⟨.plain "users", none⟩).withQuery query
    let bindings := [Binding.mk 0 "@P0" (.integer 6)]
    let selected := Statement.mk
      ("SELECT users.city FROM users WHERE users.age > @P0 GROUP BY users.city " ++
        "ORDER BY users.city DESC") bindings
    let counted := Statement.mk
      ("SELECT COUNT(1) FROM (SELECT COUNT(*) FROM users WHERE users.age > @P0 " ++
        "GROUP BY users.city) users") bindings
    let found := Statement.mk
      ("SELECT 1 FROM users WHERE users.age > @P0 " ++
        "ORDER BY (SELECT 1) OFFSET 0 ROWS FETCH NEXT 1 ROWS ONLY") bindings
    let orders := (Join.mk .inner "orders" (some "o") (.on [("users.id", "o.user")]) none).withCriteria
      (.compare .eq "paid" (.boolean true))
    let joined := selection.withQuery
      (query.joining [orders, ⟨.left, "cities", none, .shared ["city", "state"], none⟩])
    let tables := "FROM users INNER JOIN orders AS o ON users.id = o.user " ++
      "LEFT OUTER JOIN cities USING (city, state)"
    let clauses := tables ++ " WHERE users.age > @P0 AND o.paid = @P1 GROUP BY users.city"
    let values := [Binding.mk 0 "@P0" (.integer 6), ⟨1, "@P1", .boolean true⟩]
    let grouped := Statement.mk ("SELECT COUNT(*) " ++ clauses) values
    (renderer.select selection = .ok selected ∧ renderer.count selection = .ok counted ∧
      renderer.exists? selection = .ok found ∧ selection.query.hasGroups = true ∧
      selection.query.hasJoin = false ∧
      ∃ filter groups, IsClause " WHERE " filter ∧ IsClause " GROUP BY " groups ∧
        found.sql = "SELECT 1 " ++ "FROM users" ++ filter ++ renderer.dialect.firstRow ∧
        counted.sql = "SELECT COUNT(1) FROM (" ++ ("SELECT COUNT(" ++ "*" ++ ") " ++
          ("FROM users" ++ filter ++ groups)) ++ ") " ++ "users") ∧
      renderer.select joined = .ok ⟨"SELECT users.city " ++ clauses ++ " ORDER BY users.city DESC",
        values⟩ ∧ renderer.count joined = .ok grouped ∧
      joined.IsFrom renderer.dialect.nameStyle tables ∧
      ∃ filter groups, IsClause " WHERE " filter ∧ IsClause " GROUP BY " groups ∧
        grouped.sql = "SELECT COUNT(" ++ "*" ++ ") " ++ (tables ++ filter ++ groups) := by
  intro renderer query selection bindings selected counted found orders joined tables clauses values
    grouped
  constructor
  · have hselect : renderer.select selection = .ok selected := by
      rw [select_eq]
      rfl
    have hcount : renderer.count selection = .ok counted := by
      rw [count_eq]
      rfl
    have hfound : renderer.exists? selection = .ok found := by
      rw [exists?_eq]
      rfl
    obtain ⟨projection, filter, groups, order, counts, finds, -, hwhere, -, hgroups, -, -, -, -,
      hfinds, hfindsSql, hcounts, hcountsSql, -, -⟩ :=
      (statements_share_source renderer selection).1 selected hselect
    obtain rfl := Except.ok.inj (hcount.symm.trans hcounts)
    obtain rfl := Except.ok.inj (hfound.symm.trans hfinds)
    have hcounted := hcountsSql.trans (if_pos ⟨rfl, rfl⟩)
    exact ⟨hselect, hcount, hfound, rfl, rfl, filter, groups, hwhere, hgroups, hfindsSql, hcounted⟩
  · have hselect : renderer.select joined = .ok
        ⟨"SELECT users.city " ++ clauses ++ " ORDER BY users.city DESC", values⟩ := by
      rw [select_eq]
      rfl
    have hcount : renderer.count joined = .ok grouped := by
      rw [count_eq]
      rfl
    obtain ⟨projection, filter, groups, order, counts, finds, hfrom, hwhere, -, hgroups, -, -, -, -,
      -, -, hcounts, hcountsSql, -, -⟩ :=
      (statements_share_source renderer joined).1 _ hselect
    obtain rfl := Except.ok.inj (hcount.symm.trans hcounts)
    have hcounted := hcountsSql.trans (if_neg fun hnone => absurd hnone.2 (by decide))
    exact ⟨hselect, hcount, hfrom, filter, groups, hwhere, hgroups, hcounted⟩

end Renderer

end EntityQuery
