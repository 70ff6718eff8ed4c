import EntityQuery.Proofs.Statement.Names

/-!
# The parentheses of a statement

Groups of conditions, lists and calls stand in parentheses, and so the meaning of a statement rests
on them.  Where the names in it are balanced the whole statement is, and a name leaves the
parentheses around it alone.  Checks of names do not see to that: they let single parentheses pass,
and then a name may end the group that it stands in.
-/

namespace EntityQuery

open Text

namespace Renderer

/-- If the names in a statement are balanced, no part of the statement closes more parentheses than
were opened, and all of them are closed in the end.  Those that are open before a name are not
closed in it, and behind the name no other ones are open. -/
theorem balanced_render {renderer : Renderer} {kind : StatementKind} {selection : Selection}
    {statement : Statement} (hnamed : selection.FromNamed)
    (hcolumns : kind = .select → selection.query.columns = [])
    (hnames : ∀ name ∈ selection.writtenNames kind, Balanced name.toList)
    (hrender : renderer.render kind selection = .ok statement) :
    (∀ before, before <+: statement.sql.toList → before.count ')' ≤ before.count '(') ∧
      statement.sql.toList.count '(' = statement.sql.toList.count ')' ∧
      ∀ name ∈ selection.writtenNames kind, ∀ left right,
        statement.sql.toList = left ++ name.toList ++ right →
          ∃ depth, left.foldlM depthBehind? 0 = some depth ∧
            (∀ part, part <+: name.toList → ∃ more,
              (left ++ part).foldlM depthBehind? 0 = some (depth + more)) ∧
            (left ++ name.toList).foldlM depthBehind? 0 = some depth ∧
            right.foldlM depthBehind? depth = some 0 := by
  have hbalanced : Balanced statement.sql.toList :=
    composed_render composes_balanced hnamed hnames renderer.dialect.balanced_marker hcolumns
      hrender
  refine ⟨fun before hbefore => hbalanced.count_le_of_prefix hbefore, hbalanced.count_eq, ?_⟩
  intro name hname left right hsplit
  rw [hsplit] at hbalanced
  exact hbalanced.around (hnames name hname)

set_option maxRecDepth 4096 in
/-- The calls in a filter and in an order are balanced, and the group around the filter stays. -/
theorem balanced_render_of_calls :
    let renderer := Renderer.mk .postgres (.empty .standard)
    let criteria := Criteria.group .and [.compare .eq "tenant" (.integer 7),
      .group .or [.compare .eq "lower(name)" (.text "x"), .compare .eq "admin" (.boolean true)]]
    let query := { Query.ofCriteria criteria with sorting := ⟨[.of .ascending "date(created)"]⟩ }
    let selection := (Selection.ofTable ⟨.plain "users", none⟩).withQuery query
    let sql := "SELECT users.* FROM users WHERE users.tenant = $1 AND " ++
      "(lower(name) = $2 OR users.admin = $3) ORDER BY date(created) ASC"
    ∃ statement, renderer.render .select selection = .ok statement ∧ selection.FromNamed ∧
      selection.query.columns = [] ∧
      (∀ name ∈ selection.writtenNames .select, Balanced name.toList) ∧ statement.sql = sql ∧
      (∀ before, before <+: sql.toList → before.count ')' ≤ before.count '(') ∧
      sql.toList.count '(' = sql.toList.count ')' := by
  intro renderer criteria query selection sql
  have hname : Table.ofName? "users" = .ok ⟨.plain "users", none⟩ := rfl
  have hnamed : selection.FromNamed := ⟨.ofName hname, rfl, fun _ hjoin => nomatch hjoin⟩
  have hwritten : selection.writtenNames .select =
    ["tenant", "lower(name)", "admin", "date(created)"] := rfl
  have hnames : ∀ name ∈ selection.writtenNames .select, Balanced name.toList := by
    rw [hwritten]
    decide
  have hrender : renderer.render .select selection = .ok ⟨sql, _⟩ :=
    (renderer.select_eq selection).trans rfl
  obtain ⟨hbefore, htotal, -⟩ := balanced_render hnamed (fun _ => rfl) hnames hrender
  exact ⟨_, hrender, hnamed, rfl, hnames, rfl, hbefore, htotal⟩

set_option maxRecDepth 4096 in
/-- A name with a single parenthesis is accepted, and it ends the group of alternatives: what is
written behind it closes a parenthesis that was never opened. -/
theorem render_of_unbalanced_name :
    let renderer := Renderer.mk .postgres (.empty .standard)
    let criteria := Criteria.group .and [.compare .eq "tenant" (.integer 7),
      .group .or [.compare .eq "name" (.text "x"), .compare .eq "admin)" (.boolean true)]]
    let selection := (Selection.ofTable ⟨.plain "users", none⟩).withQuery (.ofCriteria criteria)
    let sql := "SELECT users.* FROM users WHERE users.tenant = $1 AND " ++
      "(users.name = $2 OR users.admin) = $3)"
    ∃ statement, selection.FromNamed ∧ selection.query.columns = [] ∧
      renderer.render .select selection = .ok statement ∧ statement.sql = sql ∧
      ¬ ((∀ before, before <+: sql.toList → before.count ')' ≤ before.count '(') ∧
        sql.toList.count '(' = sql.toList.count ')') := by
  intro renderer criteria selection sql
  have hname : Table.ofName? "users" = .ok ⟨.plain "users", none⟩ := rfl
  have hnamed : selection.FromNamed := ⟨.ofName hname, rfl, fun _ hjoin => nomatch hjoin⟩
  have hrender : renderer.render .select selection = .ok ⟨sql, _⟩ :=
    (renderer.select_eq selection).trans rfl
  refine ⟨_, hnamed, rfl, hrender, rfl, ?_⟩
  rintro ⟨-, htotal⟩
  exact absurd htotal (by decide)

end Renderer

end EntityQuery
