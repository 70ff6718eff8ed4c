import EntityQuery.Proofs.Statement.Clauses

/-!
# The source of a statement

The FROM, WHERE and GROUP BY clauses decide, with their values, which rows there are; what is
selected of them, in which order and from where to where does not.  Select and count are both
written around the same clauses, so the rows that the one finds are those that the other counts.
-/

namespace EntityQuery

namespace Statement

/-- A select statement around the clauses of the source, with the values of the source and with a
window clause at its end. -/
def Selects (statement source : Statement) (window : String) : Prop :=
  statement.bindings = source.bindings ∧
    ∃ columns order, statement.sql = "SELECT " ++ columns ++ " " ++ source.sql ++ order ++ window

/-- A count statement around the clauses of the source, which may count groups in a subquery. -/
def Counts (statement source : Statement) : Prop :=
  statement.bindings = source.bindings ∧
    ∃ target, statement.sql = "SELECT COUNT(" ++ target ++ ") " ++ source.sql ∨
      ∃ reference, statement.sql =
        "SELECT COUNT(1) FROM (SELECT COUNT(" ++ target ++ ") " ++ source.sql ++ ") " ++ reference

end Statement

namespace Renderer

/-- The FROM, WHERE and GROUP BY clauses with their values. -/
def source (renderer : Renderer) (selection : Selection) : Result Statement :=
  renderer.statement do
    let filter ← renderer.whereClause selection
    let groups ← renderer.groupClause selection
    return renderer.sourceSql selection filter groups

variable {renderer : Renderer} {selection : Selection} {source statement : Statement}

theorem source_eq_ok :
    renderer.source selection = .ok source ↔
      ∃ filter groups, renderer.wherePieces selection = .ok filter ∧
        renderer.groupClause selection = .ok groups ∧
        source = ⟨renderer.sourceSql selection (renderer.filterSql filter) groups,
          renderer.filterBindings filter⟩ := by
  rw [Renderer.source, statement_grouped]
  simp only [Result.bind_eq_ok, Result.pure_eq_ok]
  constructor
  · rintro ⟨filter, hfilter, groups, hgroups, rfl⟩
    exact ⟨filter, groups, hfilter, hgroups, rfl⟩
  · rintro ⟨filter, groups, hfilter, hgroups, rfl⟩
    exact ⟨filter, hfilter, groups, hgroups, rfl⟩

theorem selects_source (h : renderer.select selection = .ok statement)
    (hsource : renderer.source selection = .ok source) :
    statement.Selects source (windowClause
      (renderer.dialect.limitClause? selection.query.limit selection.query.offset)) := by
  obtain ⟨projection, filter, groups, order, -, hfilter, hgroups, -, rfl⟩ := select_eq_ok.mp h
  obtain ⟨_, _, hsameFilter, hsameGroups, rfl⟩ := source_eq_ok.mp hsource
  obtain rfl := Except.ok.inj (hfilter.symm.trans hsameFilter)
  obtain rfl := Except.ok.inj (hgroups.symm.trans hsameGroups)
  refine ⟨rfl, (if selection.distinct then "DISTINCT " else "") ++ projection, order, ?_⟩
  simp only [selectSql, window?, String.append_assoc]

theorem counts_source (h : renderer.count selection = .ok statement)
    (hsource : renderer.source selection = .ok source) : statement.Counts source := by
  obtain ⟨filter, groups, hfilter, hgroups, rfl⟩ := count_eq_ok.mp h
  obtain ⟨_, _, hsameFilter, hsameGroups, rfl⟩ := source_eq_ok.mp hsource
  obtain rfl := Except.ok.inj (hfilter.symm.trans hsameFilter)
  obtain rfl := Except.ok.inj (hgroups.symm.trans hsameGroups)
  refine ⟨rfl, renderer.countTarget selection, ?_⟩
  unfold countSql
  by_cases hwraps : countsGroups selection = true
  · have hheads : "SELECT COUNT(1) FROM (" ++ "SELECT COUNT(" =
        "SELECT COUNT(1) FROM (SELECT COUNT(" := by decide
    refine .inr ⟨(renderer.scope selection).reference, ?_⟩
    rw [if_pos hwraps, ← hheads]
    simp only [String.append_assoc]
  · rw [if_neg hwraps]
    exact .inl rfl

/-! ### Success -/

theorem succeeds_source_iff :
    Result.Succeeds (renderer.source selection) ↔
      Result.Succeeds (renderer.wherePieces selection) ∧
        Result.Succeeds (renderer.groupClause selection) := by
  unfold Result.Succeeds
  simp only [source_eq_ok]
  constructor
  · rintro ⟨_, filter, groups, hfilter, hgroups, -⟩
    exact ⟨⟨filter, hfilter⟩, ⟨groups, hgroups⟩⟩
  · rintro ⟨⟨filter, hfilter⟩, ⟨groups, hgroups⟩⟩
    exact ⟨_, filter, groups, hfilter, hgroups, rfl⟩

theorem succeeds_source_of_select (h : Result.Succeeds (renderer.select selection)) :
    Result.Succeeds (renderer.source selection) := by
  have hrender : Result.Succeeds (renderer.render .select selection) := h
  obtain ⟨-, hfilter, hending⟩ := succeeds_render_iff.mp hrender
  exact succeeds_source_iff.mpr ⟨hfilter, (succeeds_ending_iff.mp hending).1 (by decide)⟩

/-- Nothing else can fail when rows are counted. -/
theorem succeeds_count_iff :
    Result.Succeeds (renderer.count selection) ↔ Result.Succeeds (renderer.source selection) := by
  change Result.Succeeds (renderer.render .count selection) ↔ _
  rw [succeeds_render_iff, succeeds_source_iff, succeeds_opening_iff, succeeds_ending_iff]
  simp

/-- The source is a matter of the criteria, the joins and the groups. -/
theorem source_withQuery_congr {query other : Query} (hcriteria : query.criteria = other.criteria)
    (hjoins : query.joins = other.joins) (hgroups : query.groups = other.groups) :
    renderer.source (selection.withQuery query) = renderer.source (selection.withQuery other) := by
  cases query
  cases other
  cases hcriteria
  cases hjoins
  cases hgroups
  rfl

end Renderer

end EntityQuery
