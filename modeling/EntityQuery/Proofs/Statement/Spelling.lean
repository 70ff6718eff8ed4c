import EntityQuery.Proofs.Statement.Composition

/-!
# The characters of a statement

Keywords, operators and checked names are written with syntax characters.  What else gets into the
text of a statement comes from names that no check restricts: those of the table, of the projection
and of the stored columns.  So if a class of characters holds all syntax characters and those of
the unchecked names, then it holds all characters of the statement.
-/

namespace EntityQuery

open Text

section

variable {p : Char → Prop}

/-- The unchecked names behind a scope are written with characters of the class. -/
structure ColumnScope.Spelled (p : Char → Prop) (scope : ColumnScope) : Prop where
  reference : Consists p scope.reference
  stored : ∀ entity, scope.entity = some entity → ∀ name path column,
    scope.schema.resolve entity name = .ok path → path.columnName = .ok column →
      Consists p (column.sql scope.style)

def Pieces.Spelled (p : Char → Prop) (pieces : Pieces) : Prop :=
  ∀ content, Piece.text content ∈ pieces → Consists p content

/-- The unchecked names of a selection are written with characters of the class, and its joins hold
checked names. -/
structure Selection.Spelled (p : Char → Prop) (schema : Schema) (style : NameStyle)
    (selection : Selection) : Prop where
  table : Consists p (selection.table.sql style)
  scope : (selection.scope schema style).Spelled p
  projection : ∀ column ∈ selection.query.columns, Consists p (column.sql style)
  identifier : ∀ property, selection.entity.bind Entity.identifier? = some property →
    Consists p (property.column.sql style)
  joins : ∀ join ∈ selection.query.joins.getD [], join.Checked

namespace Pieces

theorem spelled_nil : Spelled p [] := by
  intro content hmem
  cases hmem

theorem spelled_text_cons {content : String} {rest : Pieces} :
    Spelled p (.text content :: rest) ↔ Consists p content ∧ Spelled p rest := by
  constructor
  · intro h
    exact ⟨h content List.mem_cons_self, fun other hother =>
      h other (List.mem_cons_of_mem _ hother)⟩
  · rintro ⟨hcontent, hrest⟩ other hother
    rcases List.mem_cons.mp hother with heq | hother
    · cases heq
      exact hcontent
    · exact hrest other hother

theorem spelled_value_cons {content : Value} {rest : Pieces} :
    Spelled p (.value content :: rest) ↔ Spelled p rest := by
  constructor
  · intro h other hother
    exact h other (List.mem_cons_of_mem _ hother)
  · intro h other hother
    rcases List.mem_cons.mp hother with heq | hother
    · cases heq
    · exact h other hother

theorem spelled_append {left right : Pieces} :
    Spelled p (left ++ right) ↔ Spelled p left ∧ Spelled p right := by
  simp only [Spelled, List.mem_append, or_imp, forall_and]

theorem spelled_separated {separator : String} {parts : List Pieces}
    (hseparator : Consists p separator) (h : ∀ part ∈ parts, Spelled p part) :
    Spelled p (separated separator parts) := by
  induction parts with
  | nil => exact spelled_nil
  | cons part rest ih =>
      obtain ⟨hpart, hrest⟩ := List.forall_mem_cons.mp h
      cases rest with
      | nil => exact hpart
      | cons next rest =>
          rw [separated_cons_cons, spelled_append, spelled_text_cons]
          exact ⟨hpart, hseparator, ih hrest⟩

end Pieces

variable (hclass : ∀ c, Name.isSyntax c = true → p c)

include hclass

theorem Pieces.composes_spelled : Pieces.Composes (Spelled p) where
  separated := by
    intro combinator parts hparts
    refine spelled_separated ?_ hparts
    cases combinator <;> exact consists_of_isSyntax hclass (by decide)
  enclosed := by
    intro pieces hpieces
    rw [enclosed, spelled_append, spelled_text_cons, spelled_text_cons]
    exact ⟨⟨consists_of_isSyntax hclass (by decide), hpieces⟩,
      consists_of_isSyntax hclass (by decide), spelled_nil⟩
  clause := by
    intro pieces hpieces
    exact spelled_text_cons.mpr ⟨consists_of_isSyntax hclass (by decide), hpieces⟩

/-! ### Filters -/

theorem ColumnScope.consists_resolveChecked {scope : ColumnScope} (hscope : scope.Spelled p)
    {context name column : String} (h : scope.resolveChecked context name = .ok column) :
    Consists p column := by
  obtain ⟨hname, hresolve⟩ := resolveChecked_eq_ok.mp h
  exact composed_resolve (composes_consists hclass) hscope.reference hscope.stored
    (consists_of_isExpression hclass hname) hresolve

theorem Pieces.spelled_markerList (values : List Value) :
    (Condition.markerList values).Spelled p := by
  apply (composes_spelled hclass).enclosed
  refine spelled_separated (consists_of_isSyntax hclass (by decide)) ?_
  intro part hpart
  obtain ⟨value, -, rfl⟩ := List.mem_map.mp hpart
  exact spelled_value_cons.mpr spelled_nil

theorem Condition.spelled_pieces {scope : ColumnScope} (hscope : scope.Spelled p)
    {condition : Condition} {pieces : Pieces} (h : condition.pieces scope = .ok pieces) :
    pieces.Spelled p := by
  obtain ⟨column, hcolumn, hcases⟩ := pieces_cases h
  have hspelled := ColumnScope.consists_resolveChecked hclass hscope hcolumn
  have hspace : Consists p " " := consists_of_isSyntax hclass (by decide)
  have hcomparator : ∀ comparator : Comparator, Consists p comparator.sql := by
    intro comparator
    exact comparator.composed_sql (composes_consists hclass)
  rcases hcases with ⟨comparator, -, rfl⟩ | ⟨comparator, -, rfl⟩ |
    ⟨comparator, value, rest, -, rfl⟩ | ⟨comparator, value, -, rfl⟩
  · rw [Pieces.spelled_text_cons, consists_append, consists_append]
    exact ⟨⟨⟨hspelled, hspace⟩, hcomparator comparator⟩, Pieces.spelled_nil⟩
  · rw [Pieces.spelled_text_cons]
    refine ⟨?_, Pieces.spelled_nil⟩
    unfold decided
    split <;> exact consists_of_isSyntax hclass (by decide)
  · rw [Pieces.spelled_text_cons, consists_append, consists_append, consists_append]
    exact ⟨⟨⟨⟨hspelled, hspace⟩, hcomparator comparator⟩, hspace⟩,
      Pieces.spelled_markerList hclass _⟩
  · rw [Pieces.spelled_text_cons, consists_append, consists_append, consists_append,
      Pieces.spelled_value_cons]
    exact ⟨⟨⟨⟨hspelled, hspace⟩, hcomparator comparator⟩, hspace⟩,
      Pieces.spelled_nil⟩

theorem Join.spelled_scope {join : Join} (hjoin : join.Checked) (schema : Schema)
    (style : NameStyle) : (join.scope schema style).Spelled p where
  reference := consists_of_isIdentifier hclass hjoin.reference
  stored := by
    intro entity hentity
    cases hentity

theorem Selection.spelled_wherePieces {schema : Schema} {style : NameStyle}
    {selection : Selection} (hselection : selection.Spelled p schema style) {pieces : Pieces}
    (h : selection.wherePieces schema style = .ok pieces) : pieces.Spelled p := by
  refine composed_wherePieces (Pieces.composes_spelled hclass) ?_ h
  rintro ⟨scope, condition⟩ hentry rendered hrendered
  apply Condition.spelled_pieces hclass ?_ hrendered
  rcases (mem_scopedConditions hentry).2 with rfl | ⟨join, hjoin, rfl⟩
  · exact hselection.scope
  · exact Join.spelled_scope hclass (hselection.joins join hjoin) schema style

/-! ### The text around the filter -/

theorem Join.consists_sql {join : Join} (hjoin : join.Checked) : Consists p join.sql := by
  apply composed_sql (composes_consists hclass) hjoin
  intro name hname
  exact consists_of_isExpression hclass (hjoin.isExpression_of_mem_expressions hname)

namespace Renderer

variable {renderer : Renderer} {selection : Selection}
  (hselection : selection.Spelled p renderer.schema renderer.dialect.nameStyle)

include hselection

theorem consists_fromClause : Consists p (renderer.fromClause selection) := by
  apply composed_fromClause (composes_consists hclass) hselection.table
  intro join hjoin
  exact Join.consists_sql hclass (hselection.joins join hjoin)

theorem consists_projection {projection : String}
    (h : renderer.projection selection = .ok projection) : Consists p projection := by
  have hP := composes_consists hclass
  apply composed_projection hP hselection.scope.reference ?_ h
  intro column hcolumn text hok
  have hname := hselection.projection column hcolumn
  cases column with
  | expression name =>
      cases hok
      exact hname
  | quoted name =>
      cases hok
      exact ColumnScope.composed_qualified hP hselection.scope.reference hname
  | plain name =>
      exact ColumnScope.composed_resolve hP hselection.scope.reference hselection.scope.stored
        hname hok

theorem consists_countTarget : Consists p (renderer.countTarget selection) := by
  unfold countTarget
  cases hproperty : selection.entity.bind Entity.identifier? with
  | none =>
      change Consists p "*"
      exact consists_of_isSyntax hclass (by decide)
  | some property =>
      exact ColumnScope.composed_qualified (composes_consists hclass) hselection.scope.reference
        (hselection.identifier property hproperty)

theorem consists_groupClause {groups : String}
    (h : renderer.groupClause selection = .ok groups) : Consists p groups := by
  apply composed_groupClause (composes_consists hclass) ?_ h
  intro name _ column hcolumn
  exact ColumnScope.consists_resolveChecked hclass hselection.scope hcolumn

theorem consists_orderClause {windowed : Bool} {order : String}
    (h : renderer.orderClause selection windowed = .ok order) : Consists p order := by
  apply composed_orderClause (composes_consists hclass) ?_ h
  intro order _ column hcolumn
  exact ColumnScope.consists_resolveChecked hclass hselection.scope hcolumn

theorem consists_opening {kind : StatementKind} {opening : String}
    (h : renderer.opening selection kind = .ok opening) : Consists p opening := by
  have hfrom := consists_fromClause hclass hselection
  have hfixed : ∀ text : String, text.toList.all Name.isSyntax = true → Consists p text :=
    fun _ => consists_of_isSyntax hclass
  cases kind with
  | select =>
      rw [Renderer.opening, Result.bind_eq_ok] at h
      obtain ⟨projection, hprojection, h⟩ := h
      rw [← Result.pure_eq_ok.mp h]
      simp only [consists_append]
      refine ⟨⟨⟨⟨hfixed _ (by decide), ?_⟩,
        consists_projection hclass hselection hprojection⟩, hfixed _ (by decide)⟩, hfrom⟩
      split <;> exact hfixed _ (by decide)
  | count =>
      cases h
      simp only [consists_append]
      refine ⟨?_, ⟨⟨hfixed _ (by decide), consists_countTarget hclass hselection⟩,
        hfixed _ (by decide)⟩, hfrom⟩
      split <;> exact hfixed _ (by decide)
  | existence =>
      cases h
      rw [consists_append]
      exact ⟨hfixed _ (by decide), hfrom⟩

theorem consists_ending {kind : StatementKind} {ending : String}
    (h : renderer.ending selection kind = .ok ending) : Consists p ending := by
  cases kind with
  | select =>
      obtain ⟨groups, order, hgroups, horder, rfl⟩ := ending_select_eq_ok.mp h
      rw [consists_append, consists_append]
      exact ⟨⟨consists_groupClause hclass hselection hgroups,
        consists_orderClause hclass hselection horder⟩,
        composed_windowClause (composes_consists hclass)⟩
  | count =>
      obtain ⟨groups, hgroups, rfl⟩ := ending_count_eq_ok.mp h
      rw [consists_append]
      refine ⟨consists_groupClause hclass hselection hgroups, ?_⟩
      split
      · rw [consists_append]
        exact ⟨consists_of_isSyntax hclass (by decide), hselection.scope.reference⟩
      · exact consists_empty
  | existence =>
      cases h
      rw [consists_append]
      refine ⟨?_, composed_windowClause (composes_consists hclass)⟩
      split <;> exact consists_of_isSyntax hclass (by decide)

end Renderer

end

end EntityQuery
