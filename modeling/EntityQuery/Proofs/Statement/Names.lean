import EntityQuery.Proofs.Statement.Clauses
import EntityQuery.Proofs.Statement.Composition
import EntityQuery.Proofs.Statement.FilterText

/-!
# What names bring into a statement

A name gets into a statement as it is, if a check lets it.  In a statement about a named table
every name is checked, by one of two checks and some of them only while the statement is rendered.
What holds of the names that are written and of the markers, and is kept when a statement is put
together, holds of the statement.  So its characters are known in advance, whatever the names and
the values are.
-/

namespace EntityQuery

open Text

/-- A selection from a table that the query names itself, with joins from their constructors. -/
structure Selection.FromNamed (selection : Selection) : Prop where
  table : selection.table.Named
  entity : selection.entity = none
  joins : ∀ join ∈ selection.query.joins.getD [], join.Built

namespace Selection

/-- The names that are written into a statement and may be calls.  Those of tables, of aliases and
of shared columns are identifiers. -/
def writtenNames (kind : StatementKind) (selection : Selection) : List String :=
  (selection.conditions.filter Condition.writesField).map Condition.field ++
    (selection.query.joins.getD []).flatMap Join.expressions ++
    (if kind = .existence then [] else (selection.query.groups.getD .empty).columns) ++
    (if kind = .select then selection.query.sorting.orders.map Order.property else [])

theorem mem_writtenNames {kind : StatementKind} {selection : Selection} {name : String} :
    name ∈ selection.writtenNames kind ↔
      (∃ condition ∈ selection.conditions, condition.writesField = true ∧ condition.field = name) ∨
        (∃ join ∈ selection.query.joins.getD [], name ∈ join.expressions) ∨
        (kind ≠ .existence ∧ name ∈ (selection.query.groups.getD .empty).columns) ∨
        (kind = .select ∧ ∃ order ∈ selection.query.sorting.orders, order.property = name) := by
  unfold writtenNames
  cases kind <;> simp [and_assoc]

end Selection

namespace Renderer

variable {renderer : Renderer} {kind : StatementKind} {selection : Selection}
  {statement : Statement}

/-- A statement can be rendered only if every name in it is accepted. -/
theorem isExpression_of_mem_writtenNames (hnamed : selection.FromNamed)
    (hrender : renderer.render kind selection = .ok statement) {name : String}
    (hname : name ∈ selection.writtenNames kind) : Name.IsExpression name := by
  obtain ⟨-, hfilter, hending⟩ := succeeds_render_iff.mp ⟨statement, hrender⟩
  obtain ⟨hgroups, horders⟩ := succeeds_ending_iff.mp hending
  have haccepted : ∀ {scope : ColumnScope} {context : String},
      Result.Succeeds (scope.resolveChecked context name) → Name.IsExpression name := by
    rintro scope context ⟨column, hcolumn⟩
    exact (ColumnScope.resolveChecked_eq_ok.mp hcolumn).1
  rcases Selection.mem_writtenNames.mp hname with ⟨condition, hcondition, -, rfl⟩ |
    ⟨join, hjoin, hname⟩ | ⟨hkind, hname⟩ | ⟨hkind, order, horder, rfl⟩
  · rw [← Selection.map_snd_scopedConditions renderer.schema renderer.dialect.nameStyle,
      List.mem_map] at hcondition
    obtain ⟨⟨scope, condition⟩, hentry, rfl⟩ := hcondition
    have hpieces := Selection.succeeds_wherePieces_iff.mp hfilter _ hentry
    exact haccepted (Condition.succeeds_pieces_iff.mp hpieces).1
  · exact (hnamed.joins join hjoin).checked.isExpression_of_mem_expressions hname
  · exact haccepted (succeeds_groupClause_iff.mp (hgroups hkind) name hname)
  · exact haccepted (horders hkind order horder)

/-! ### Whole statements -/

section Composition

variable {P : String → Prop} (hP : Text.Composes P)

include hP

theorem composed_countSql (htarget : P (renderer.countTarget selection)) {source : String}
    (hsource : P source) (hreference : P (renderer.scope selection).reference) :
    P (renderer.countSql selection source) := by
  have hspace : P " " := hP.word rfl
  have hcall : ∀ target, P target → P ("SELECT COUNT(" ++ target ++ ")") := by
    intro target htarget
    have hsplit : "SELECT COUNT(" = "SELECT COUNT" ++ "(" := by decide
    have hcall : P ("SELECT COUNT" ++ ("(" ++ target ++ ")")) :=
      hP.append (hP.word rfl) (hP.enclosed htarget)
    simpa only [hsplit, String.append_assoc] using hcall
  have hcounted : P ("SELECT COUNT(" ++ renderer.countTarget selection ++ ") " ++ source) := by
    have hsplit : ") " = ")" ++ " " := by decide
    have hrows := hP.append (hP.append (hcall _ htarget) hspace) hsource
    simpa only [hsplit, String.append_assoc] using hrows
  unfold countSql
  by_cases hwraps : countsGroups selection = true
  · rw [if_pos hwraps]
    have hopening : "SELECT COUNT(1) FROM (" = "SELECT COUNT(" ++ "1" ++ ")" ++ " FROM " ++ "(" := by
      decide
    have hclosing : ") " = ")" ++ " " := by decide
    have hone : P ("SELECT COUNT(" ++ "1" ++ ")" ++ " FROM ") :=
      hP.append (hcall "1" (hP.word rfl)) (hP.word rfl)
    have hwrapped := hP.append (hP.append (hP.append hone (hP.enclosed hcounted)) hspace) hreference
    rw [hopening]
    simpa only [hclosing, String.append_assoc] using hwrapped
  · rw [if_neg hwraps]
    exact hcounted

theorem composed_firstRow (dialect : Dialect) : P dialect.firstRow := by
  rw [← firstRow_eq]
  apply hP.append
  · split
    · exact composed_emptyOrder hP
    · exact hP.empty
  · exact composed_windowClause hP

section Named

variable (hnamed : selection.FromNamed)

include hnamed

theorem composed_reference (style : NameStyle) : P (selection.table.reference.sql style) := by
  obtain ⟨name, hname, hchecked⟩ := hnamed.table.reference
  rw [hname]
  exact hP.of_isIdentifier hchecked

theorem composed_table (style : NameStyle) : P (selection.table.sql style) := by
  obtain ⟨name, hname, hchecked, halias⟩ := hnamed.table.checked
  unfold Table.sql
  cases hsome : selection.table.aliasName with
  | none =>
      rw [hname]
      exact hP.of_isIdentifier hchecked
  | some identifier =>
      obtain ⟨other, rfl, hother⟩ := halias identifier hsome
      rw [hname]
      exact hP.append (hP.append (hP.of_isIdentifier hchecked) (hP.word rfl))
        (hP.of_isIdentifier hother)

omit hnamed in
theorem composed_column {scope : ColumnScope} (hentity : scope.entity = none)
    (hreference : P scope.reference) {context name column : String} (hname : P name)
    (hresolved : scope.resolveChecked context name = .ok column) : P column := by
  apply ColumnScope.composed_resolve hP hreference ?_ hname
    (ColumnScope.resolveChecked_eq_ok.mp hresolved).2
  intro entity hsome
  rw [hentity] at hsome
  cases hsome

variable (hnames : ∀ name ∈ selection.writtenNames kind, P name)

include hnames

theorem composed_tables : P (renderer.fromClause selection) := by
  apply composed_fromClause hP (composed_table hP hnamed _)
  intro join hjoin
  apply Join.composed_sql hP (hnamed.joins join hjoin).checked
  intro name hname
  exact hnames name (Selection.mem_writtenNames.mpr (.inr (.inl ⟨join, hjoin, hname⟩)))

theorem composed_filter (hmarker : ∀ index, P (renderer.dialect.markerStyle.marker index))
    {filter : Pieces} (hfilter : renderer.wherePieces selection = .ok filter) :
    P (renderer.filterSql filter) := by
  refine Selection.composed_wherePieces (hP.sqlFrom renderer.dialect.markerStyle) ?_ hfilter 0
  rintro ⟨scope, condition⟩ hentry pieces hpieces index
  obtain ⟨hcondition, hscope⟩ := Selection.mem_scopedConditions hentry
  apply Condition.composed_pieces hP hmarker ?_ hpieces
  intro hwritten column hresolved
  have hname : P condition.field :=
    hnames _ (Selection.mem_writtenNames.mpr (.inl ⟨condition, hcondition, hwritten, rfl⟩))
  rcases hscope with rfl | ⟨join, hjoin, rfl⟩
  · exact composed_column hP hnamed.entity (composed_reference hP hnamed _) hname hresolved
  · have hjoined : P join.reference :=
      hP.of_isIdentifier (hnamed.joins join hjoin).checked.reference
    exact composed_column hP rfl hjoined hname hresolved

theorem composed_groups (hkind : kind ≠ .existence) {groups : String}
    (hgroups : renderer.groupClause selection = .ok groups) : P groups := by
  apply composed_groupClause hP ?_ hgroups
  intro name hname column hresolved
  have hwritten := Selection.mem_writtenNames.mpr (.inr (.inr (.inl ⟨hkind, hname⟩)))
  exact composed_column hP hnamed.entity (composed_reference hP hnamed _) (hnames name hwritten)
    hresolved

theorem composed_order (hkind : kind = .select) {windowed : Bool} {clause : String}
    (horder : renderer.orderClause selection windowed = .ok clause) : P clause := by
  apply composed_orderClause hP ?_ horder
  intro order horder column hresolved
  have hwritten := Selection.mem_writtenNames.mpr (.inr (.inr (.inr ⟨hkind, order, horder, rfl⟩)))
  exact composed_column hP hnamed.entity (composed_reference hP hnamed _)
    (hnames order.property hwritten) hresolved

/-- A property that composes holds of a statement about a named table if it holds of the markers
and of the names that are written. -/
theorem composed_render (hmarker : ∀ index, P (renderer.dialect.markerStyle.marker index))
    (hcolumns : kind = .select → selection.query.columns = [])
    (hrender : renderer.render kind selection = .ok statement) : P statement.sql := by
  have hreference : P (renderer.scope selection).reference := composed_reference hP hnamed _
  have hfrom : P (renderer.fromClause selection) := composed_tables hP hnamed hnames
  have hsource : kind ≠ .existence → ∀ {filter groups},
      renderer.wherePieces selection = .ok filter → renderer.groupClause selection = .ok groups →
        P (renderer.sourceSql selection (renderer.filterSql filter) groups) := by
    intro hkind filter groups hfilter hgroups
    exact hP.append (hP.append hfrom (composed_filter hP hnamed hnames hmarker hfilter))
      (composed_groups hP hnamed hnames hkind hgroups)
  cases kind with
  | select =>
      obtain ⟨projection, filter, groups, order, hprojection, hfilter, hgroups, horder, rfl⟩ :=
        select_eq_ok.mp hrender
      have hprojected : P projection := by
        apply composed_projection hP hreference ?_ hprojection
        rw [hcolumns rfl]
        simp
      have hdistinct : P (if selection.distinct then "DISTINCT " else "") := by
        split <;> exact hP.word rfl
      have hhead : P ("SELECT " ++ (if selection.distinct then "DISTINCT " else "") ++ projection) :=
        hP.append (hP.append (hP.word rfl) hdistinct) hprojected
      have hspace : P " " := hP.word rfl
      have hrows := hP.append (hP.append hhead hspace) (hsource (by decide) hfilter hgroups)
      have hordered := composed_order hP hnamed hnames rfl horder
      exact hP.append (hP.append hrows hordered) (composed_windowClause hP)
  | count =>
      obtain ⟨filter, groups, hfilter, hgroups, rfl⟩ := count_eq_ok.mp hrender
      have htarget : P (renderer.countTarget selection) := by
        have hstar : P "*" := hP.word rfl
        unfold countTarget
        rw [hnamed.entity]
        exact hstar
      exact composed_countSql hP htarget (hsource (by decide) hfilter hgroups) hreference
  | existence =>
      obtain ⟨filter, hfilter, rfl⟩ := exists?_eq_ok.mp hrender
      have hfiltered := composed_filter hP hnamed hnames hmarker hfilter
      exact hP.append (hP.append (hP.append (hP.word rfl) hfrom) hfiltered)
        (composed_firstRow hP renderer.dialect)

end Named

end Composition

end Renderer

/-! ### The characters of a statement -/

/-- Letters, digits, what separates names and operators, and the lead of a marker. -/
def Dialect.isWritten (dialect : Dialect) (c : Char) : Bool :=
  Name.isAsciiLetter c || Name.isAsciiDigit c || " _.,()=<>!*".toList.contains c ||
    c == dialect.markerLead

theorem Dialect.isWritten_of_isSyntax (dialect : Dialect) (c : Char) (h : Name.isSyntax c = true) :
    dialect.isWritten c = true := by
  have hmarks : " _.,()=<>!*".toList = [' ', '_', '.', ',', '(', ')', '=', '<', '>', '!', '*'] := by
    decide
  simp only [Name.isSyntax, Name.isExpressionPart, Name.isPart, Bool.or_eq_true, beq_iff_eq] at h
  simp only [isWritten, hmarks, Bool.or_eq_true, List.contains_iff_mem, List.mem_cons]
  tauto

theorem Dialect.isWritten_of_mem_marker (dialect : Dialect) (index : Nat) :
    Consists (fun c => dialect.isWritten c = true) (dialect.markerStyle.marker index) := by
  obtain ⟨tail, htail, hgoes, -⟩ := dialect.exists_toList_markerAt index
  intro c hc
  rw [marker_markerStyle, htail] at hc
  rcases List.mem_cons.mp hc with rfl | hc
  · simp [isWritten]
  · have hpart : Name.isPart c = true := by
      have hcontinues := hgoes c hc
      cases dialect with
      | postgres => exact hcontinues
      | mysql => cases hcontinues
      | sqlserver => exact hcontinues
    apply isWritten_of_isSyntax
    exact Name.isSyntax_of_isExpressionPart (Name.isExpressionPart_of_isPart hpart)

theorem Dialect.isWritten_eq_false (dialect : Dialect) {c : Char}
    (h : c ∈ "\x27\"\x60;-/\\\t\n\r".toList) : dialect.isWritten c = false := by
  have hall : ("\x27\"\x60;-/\\\t\n\r".toList.all fun c => !dialect.isWritten c) = true := by
    cases dialect <;> rfl
  simpa using List.all_eq_true.mp hall c h

/-- Whatever a query about a named table is made of, its statements are written with letters,
digits and a few marks.  There is no quote among them, no comment and no end of a statement. -/
theorem Renderer.isWritten_of_render {renderer : Renderer} {kind : StatementKind}
    {selection : Selection} {statement : Statement} (hnamed : selection.FromNamed)
    (hcolumns : kind = .select → selection.query.columns = [])
    (hrender : renderer.render kind selection = .ok statement) :
    (∀ c ∈ statement.sql.toList, Name.isAsciiLetter c = true ∨ Name.isAsciiDigit c = true ∨
        c ∈ " _.,()=<>!*".toList ∨ c = renderer.dialect.markerLead) ∧
      ∀ c ∈ "\x27\"\x60;-/\\\t\n\r".toList, c ∉ statement.sql.toList := by
  have hsyntax := renderer.dialect.isWritten_of_isSyntax
  have hnames : ∀ name ∈ selection.writtenNames kind,
      Consists (fun c => renderer.dialect.isWritten c = true) name := by
    intro name hname
    exact consists_of_isExpression hsyntax (isExpression_of_mem_writtenNames hnamed hrender hname)
  have hwritten : Consists (fun c => renderer.dialect.isWritten c = true) statement.sql :=
    composed_render (composes_consists hsyntax) hnamed hnames
      renderer.dialect.isWritten_of_mem_marker hcolumns hrender
  constructor
  · intro c hc
    have hclass := hwritten c hc
    simp only [Dialect.isWritten, Bool.or_eq_true, List.contains_iff_mem, beq_iff_eq] at hclass
    rwa [or_assoc, or_assoc] at hclass
  · intro c hforbidden hc
    have hclass : renderer.dialect.isWritten c = true := hwritten c hc
    rw [renderer.dialect.isWritten_eq_false hforbidden] at hclass
    cases hclass

set_option maxRecDepth 4096 in
/-- A text with a quote and a comment is bound, and the statement shows its marker. -/
theorem Renderer.isWritten_of_render_of_quoted_text :
    let renderer := Renderer.mk .mysql (.empty .standard)
    let criteria := Criteria.group .and [.compare .eq "name" (.text "x\x27; --"),
      .compare .isIn "lower(city)" (.array [.text "\"", .text "/*"])]
    let selection := (Selection.ofTable ⟨.plain "users", some (.plain "u")⟩).withQuery
      { (Query.ofCriteria criteria).groupBy ⟨["date(created_at)"]⟩ with
        joins := some [⟨.left, "orders", none, .on [("u.id", "orders.owner")], none⟩] }
    let sql := "SELECT COUNT(*) FROM users AS u LEFT OUTER JOIN orders ON u.id = orders.owner " ++
      "WHERE u.name = ? AND lower(city) IN (?, ?) GROUP BY date(created_at)"
    ∃ statement, renderer.render .count selection = .ok statement ∧ selection.FromNamed ∧
      statement.sql = sql ∧ ∀ c ∈ "\x27\"\x60;-/\\\t\n\r".toList, c ∉ sql.toList := by
  intro renderer criteria selection sql
  have hname : Table.ofName? "users" = .ok ⟨.plain "users", none⟩ := rfl
  have halias : Table.withAlias? ⟨.plain "users", none⟩ "u" =
      .ok ⟨.plain "users", some (.plain "u")⟩ := rfl
  have hbuilt : Join.on? .left "orders" "u.id" "orders.owner" =
      .ok ⟨.left, "orders", none, .on [("u.id", "orders.owner")], none⟩ := rfl
  have hnamed : selection.FromNamed := {
    table := .withAlias (.ofName hname) halias
    entity := rfl
    joins := by
      intro join hjoin
      rw [List.mem_singleton.mp hjoin]
      exact .on hbuilt }
  have hkind : StatementKind.count = .select → selection.query.columns = [] := fun _ => rfl
  have hrender : renderer.render .count selection = .ok ⟨sql, _⟩ := rfl
  exact ⟨_, hrender, hnamed, rfl, (isWritten_of_render hnamed hkind hrender).2⟩

end EntityQuery
