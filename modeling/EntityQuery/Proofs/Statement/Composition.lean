import EntityQuery.Proofs.Statement.Column
import EntityQuery.Proofs.Statement.Rendering
import EntityQuery.Proofs.Statement.Where
import EntityQuery.Proofs.Text.Nesting

/-!
# How a statement is put together

A statement is made of a few fixed words and of the texts of names and markers, in two ways: one
text is written behind another, and a text is written in parentheses.  So a property that words have
and that both ways keep is a property of a whole clause as soon as the names and the markers in the
clause have it.
-/

namespace EntityQuery

open Text

/-- The characters of fixed words, of operators, of numbers and of plain names. -/
def Name.isWordPart (c : Char) : Bool :=
  isSyntax c && c != '(' && c != ')'

theorem Name.isWordPart_of_isPart {c : Char} (h : isPart c = true) : isWordPart c = true := by
  have hsyntax := isSyntax_of_isExpressionPart (isExpressionPart_of_isPart h)
  have hopening : c ≠ '(' := by
    rintro rfl
    exact absurd h (by decide)
  have hclosing : c ≠ ')' := by
    rintro rfl
    exact absurd h (by decide)
  simp [isWordPart, hsyntax, hopening, hclosing]

/-- A property of texts that is kept when texts are put together. -/
structure Text.Composes (P : String → Prop) : Prop where
  word : ∀ {text : String}, text.toList.all Name.isWordPart = true → P text
  append : ∀ {first second : String}, P first → P second → P (first ++ second)
  enclosed : ∀ {text : String}, P text → P ("(" ++ text ++ ")")

namespace Text.Composes

variable {P : String → Prop} (hP : Composes P)

include hP

theorem empty : P "" := hP.word rfl

theorem join {texts : List String} (h : ∀ text ∈ texts, P text) : P (String.join texts) := by
  induction texts with
  | nil => exact hP.empty
  | cons first rest ih =>
      obtain ⟨hfirst, hrest⟩ := List.forall_mem_cons.mp h
      rw [String.join_cons]
      exact hP.append hfirst (ih hrest)

theorem intercalate {separator : String} (hseparator : P separator) {texts : List String}
    (h : ∀ text ∈ texts, P text) : P (separator.intercalate texts) := by
  induction texts with
  | nil => exact hP.empty
  | cons first rest ih =>
      obtain ⟨hfirst, hrest⟩ := List.forall_mem_cons.mp h
      cases rest with
      | nil => simpa using hfirst
      | cons next rest =>
          rw [String.intercalate_cons_cons]
          exact hP.append (hP.append hfirst hseparator) (ih hrest)

theorem of_forall_isPart {text : String} (h : ∀ c ∈ text.toList, Name.isPart c = true) :
    P text :=
  hP.word (List.all_eq_true.mpr fun c hc => Name.isWordPart_of_isPart (h c hc))

theorem of_isIdentifier {name : String} (h : Name.IsIdentifier name) : P name :=
  hP.of_forall_isPart h.parts

theorem of_nat (n : Nat) : P (toString n) :=
  hP.of_forall_isPart fun _ => isPart_of_mem_toString

end Text.Composes

theorem Text.composes_consists {p : Char → Prop} (hclass : ∀ c, Name.isSyntax c = true → p c) :
    Composes (Consists p) where
  word := by
    intro text htext c hc
    have hword := List.all_eq_true.mp htext c hc
    simp only [Name.isWordPart, Bool.and_eq_true] at hword
    exact hclass c hword.1.1
  append := fun hfirst hsecond => consists_append.mpr ⟨hfirst, hsecond⟩
  enclosed := by
    intro text htext
    have hopening : Consists p "(" := consists_of_isSyntax hclass (by decide)
    have hclosing : Consists p ")" := consists_of_isSyntax hclass (by decide)
    exact consists_append.mpr ⟨consists_append.mpr ⟨hopening, htext⟩, hclosing⟩

theorem Text.composes_balanced : Composes fun text => Balanced text.toList where
  word := by
    intro text htext
    apply balanced_of_forall_ne
    intro c hc
    have hword := List.all_eq_true.mp htext c hc
    simp only [Name.isWordPart, Bool.and_eq_true, bne_iff_ne] at hword
    exact ⟨hword.1.2, hword.2⟩
  append := by
    intro first second hfirst hsecond
    rw [String.toList_append]
    exact balanced_append hfirst hsecond
  enclosed := by
    intro text htext
    rw [String.toList_append, String.toList_append]
    exact balanced_enclosed htext

/-- A property of pieces that is kept when filters are put together. -/
structure Pieces.Composes (Q : Pieces → Prop) : Prop where
  separated : ∀ (combinator : Combinator) {parts : List Pieces}, (∀ part ∈ parts, Q part) →
    Q (separated combinator.sql parts)
  enclosed : ∀ {pieces : Pieces}, Q pieces → Q (enclosed pieces)
  clause : ∀ {pieces : Pieces}, Q pieces → Q (.text " WHERE " :: pieces)

/-! ### Filters -/

section Filters

variable {Q : Pieces → Prop} (hQ : Pieces.Composes Q)

include hQ

theorem Criteria.composed_pieces {scope : ColumnScope} {criteria : Criteria}
    (hconditions : ∀ condition ∈ criteria.conditions, ∀ pieces,
      condition.pieces scope = .ok pieces → Q pieces)
    {nested : Bool} {rendered : Pieces} (h : criteria.pieces scope nested = .ok rendered) :
    Q rendered := by
  induction criteria using Criteria.induction generalizing nested rendered with
  | condition leaf =>
      rw [pieces_condition] at h
      rw [conditions_condition, List.forall_mem_singleton] at hconditions
      exact hconditions rendered h
  | group combinator parts ih =>
      rw [conditions_group, List.forall_mem_flatMap] at hconditions
      obtain ⟨partPieces, hparts, rfl⟩ := pieces_group_eq_ok.mp h
      have hjoined : Q (Pieces.separated combinator.sql partPieces) := by
        apply hQ.separated
        intro rendered hrendered
        obtain ⟨part, hpart, hok⟩ := Result.exists_of_mem_mapM hparts hrendered
        exact ih part hpart (hconditions part hpart) hok
      split
      · exact hQ.enclosed hjoined
      · exact hjoined

theorem ScopedFilter.composed_pieces {filter : ScopedFilter}
    (hconditions : ∀ entry ∈ filter.conditions, ∀ pieces,
      entry.2.pieces entry.1 = .ok pieces → Q pieces)
    {combined : Bool} {rendered : Pieces} (h : filter.pieces combined = .ok rendered) :
    Q rendered := by
  rw [ScopedFilter.conditions, List.forall_mem_map] at hconditions
  rw [ScopedFilter.pieces, Result.bind_eq_ok] at h
  obtain ⟨inner, hinner, h⟩ := h
  have hcomposed := Criteria.composed_pieces hQ hconditions hinner
  rw [← Result.pure_eq_ok.mp h]
  split
  · exact hQ.enclosed hcomposed
  · exact hcomposed

theorem Selection.composed_wherePieces {schema : Schema} {style : NameStyle}
    {selection : Selection}
    (hconditions : ∀ entry ∈ selection.scopedConditions schema style, ∀ pieces,
      entry.2.pieces entry.1 = .ok pieces → Q pieces)
    {pieces : Pieces} (h : selection.wherePieces schema style = .ok pieces) : Q pieces := by
  rw [← flatMap_conditions_filters, List.forall_mem_flatMap] at hconditions
  rcases wherePieces_eq_ok.mp h with ⟨-, rfl⟩ | ⟨-, rendered, hrendered, rfl⟩
  · have hnone : ∀ part ∈ ([] : List Pieces), Q part := by simp
    exact hQ.separated .and hnone
  · apply hQ.clause
    apply hQ.separated .and
    intro part hpart
    obtain ⟨filter, hfilter, hok⟩ := Result.exists_of_mem_mapM hrendered hpart
    exact ScopedFilter.composed_pieces hQ (hconditions filter hfilter) hok

end Filters

/-! ### Names that are written -/

/-- The expressions of the join condition, which are written as they are. -/
def Join.expressions (join : Join) : List String :=
  match join.condition with
  | .on pairs => pairs.flatMap fun (left, right) => [left, right]
  | .shared _ | .absent => []

theorem Join.Checked.isExpression_of_mem_expressions {join : Join} (h : join.Checked)
    {name : String} (hname : name ∈ join.expressions) : Name.IsExpression name := by
  have hchecked := h.condition
  unfold Join.expressions at hname
  cases hform : join.condition with
  | on pairs =>
      simp only [hform, List.mem_flatMap] at hname hchecked
      obtain ⟨pair, hpair, hname⟩ := hname
      obtain ⟨hleft, hright⟩ := hchecked.2 pair hpair
      simp only [List.mem_cons, List.not_mem_nil, or_false] at hname
      rcases hname with rfl | rfl
      · exact hleft
      · exact hright
  | shared columns => simp [hform] at hname
  | absent => simp [hform] at hname

/-! ### Columns -/

variable {P : String → Prop} (hP : Text.Composes P)

include hP

namespace ColumnScope

variable {scope : ColumnScope}

theorem composed_qualified (hreference : P scope.reference) {column : String} (hcolumn : P column) :
    P (scope.qualified column) := by
  have hpoint : P "." := hP.word rfl
  exact hP.append (hP.append hreference hpoint) hcolumn

theorem composed_unmapped (hreference : P scope.reference) {name : String} (hname : P name) :
    P (scope.unmapped name) := by
  unfold unmapped
  split
  · exact hname
  · exact composed_qualified hP hreference hname

theorem composed_resolve (hreference : P scope.reference)
    (hstored : ∀ entity, scope.entity = some entity → ∀ name path column,
      scope.schema.resolve entity name = .ok path → path.columnName = .ok column →
        P (column.sql scope.style))
    {name column : String} (hname : P name) (h : scope.resolve name = .ok column) : P column := by
  rcases resolve_cases h with ⟨rfl, -⟩ | rfl | ⟨rfl, -⟩ | ⟨entity, path, hentity, hpath, hcolumn⟩
  · exact hname
  · exact composed_qualified hP hreference (hP.word rfl)
  · exact composed_unmapped hP hreference hname
  · obtain ⟨-, -, identifier, -, -, hidentifier, rfl⟩ := storedColumn_eq_ok.mp hcolumn
    exact composed_qualified hP hreference
      (hstored entity hentity name path identifier hpath hidentifier)

end ColumnScope

/-! ### Conditions -/

theorem Text.Composes.sqlFrom (style : MarkerStyle) :
    Pieces.Composes fun pieces => ∀ index, P (pieces.sqlFrom style index) where
  separated := by
    intro combinator parts hparts index
    rw [Pieces.sqlFrom_separated]
    refine hP.intercalate (hP.word (by cases combinator <;> rfl)) ?_
    induction parts generalizing index with
    | nil => simp [Pieces.textsFrom]
    | cons part rest ih =>
        obtain ⟨hpart, hrest⟩ := List.forall_mem_cons.mp hparts
        exact List.forall_mem_cons.mpr ⟨hpart index, ih hrest _⟩
  enclosed := by
    intro pieces hpieces index
    rw [Pieces.sqlFrom_enclosed]
    exact hP.enclosed (hpieces index)
  clause := by
    intro pieces hpieces index
    exact hP.append (hP.word rfl) (hpieces index)

theorem Comparator.composed_sql (comparator : Comparator) : P comparator.sql := by
  apply hP.word
  cases comparator <;> rfl

theorem Condition.composed_markers {style : MarkerStyle}
    (hmarker : ∀ index, P (style.marker index)) (values : List Value) (index : Nat) :
    P (Pieces.sqlFrom style index
      (Pieces.separated ", " (values.map fun value => [.value value]))) := by
  rw [Pieces.sqlFrom_separated]
  refine hP.intercalate (hP.word rfl) ?_
  induction values generalizing index with
  | nil => simp [Pieces.textsFrom]
  | cons value rest ih =>
      rw [List.map_cons, Pieces.textsFrom, List.forall_mem_cons]
      refine ⟨?_, ih _⟩
      rw [Pieces.sqlFrom, Pieces.sqlFrom_nil, String.append_empty]
      exact hmarker index

theorem Condition.composed_markerList {style : MarkerStyle}
    (hmarker : ∀ index, P (style.marker index)) (values : List Value) (index : Nat) :
    P (Pieces.sqlFrom style index (markerList values)) := by
  rw [markerList, Pieces.sqlFrom_enclosed]
  exact hP.enclosed (composed_markers hP hmarker values index)

theorem Condition.composed_pieces {style : MarkerStyle}
    (hmarker : ∀ index, P (style.marker index)) {scope : ColumnScope} {condition : Condition}
    (hcolumn : condition.writesField = true → ∀ column,
      scope.resolveChecked "Criteria column" condition.field = .ok column → P column)
    {pieces : Pieces} (h : condition.pieces scope = .ok pieces) (index : Nat) :
    P (pieces.sqlFrom style index) := by
  have hspace : P " " := hP.word rfl
  obtain ⟨column, hresolved, hcases⟩ := pieces_cases h
  have hcompared : condition.writesField = true → ∀ comparator : Comparator,
      P (column ++ " " ++ comparator.sql) := by
    intro hwritten comparator
    exact hP.append (hP.append (hcolumn hwritten column hresolved) hspace)
      (comparator.composed_sql hP)
  rcases hcases with ⟨comparator, hform, rfl⟩ | ⟨comparator, -, rfl⟩ |
    ⟨comparator, value, rest, hform, rfl⟩ | ⟨comparator, value, hform, rfl⟩
  · rw [Pieces.sqlFrom_text]
    exact hcompared (by rw [writesField, hform]) comparator
  · rw [Pieces.sqlFrom_text]
    apply hP.word
    unfold decided
    split <;> rfl
  · rw [Pieces.sqlFrom]
    exact hP.append (hP.append (hcompared (by rw [writesField, hform]) comparator) hspace)
      (composed_markerList hP hmarker _ index)
  · rw [Pieces.sqlFrom, Pieces.sqlFrom, Pieces.sqlFrom_nil, String.append_empty]
    exact hP.append (hP.append (hcompared (by rw [writesField, hform]) comparator) hspace)
      (hmarker index)

/-! ### Clauses -/

theorem Join.composed_sql {join : Join} (hjoin : join.Checked)
    (hexpressions : ∀ name ∈ join.expressions, P name) : P join.sql := by
  have hspace : P " " := hP.word rfl
  have hkind : P join.kind.sql := by
    apply hP.word
    cases join.kind <;> rfl
  have hcondition : P (conditionSql join.condition) := by
    have hchecked := hjoin.condition
    unfold Join.expressions at hexpressions
    cases hform : join.condition with
    | on pairs =>
        simp only [hform, List.forall_mem_flatMap] at hexpressions
        refine hP.append (hP.word rfl) (hP.intercalate (hP.word rfl) ?_)
        intro text htext
        obtain ⟨pair, hpair, rfl⟩ := List.mem_map.mp htext
        have hleft : P pair.1 := hexpressions pair hpair _ (by simp)
        have hright : P pair.2 := hexpressions pair hpair _ (by simp)
        exact hP.append (hP.append hleft (hP.word rfl)) hright
    | shared columns =>
        rw [hform] at hchecked
        have hsplit : " USING (" = " USING " ++ "(" := by decide
        have hjoined : P (", ".intercalate columns) := hP.intercalate (hP.word rfl)
          fun column hcolumn => hP.of_isIdentifier (hchecked.2 column hcolumn)
        have hshared : P (" USING " ++ ("(" ++ ", ".intercalate columns ++ ")")) :=
          hP.append (hP.word rfl) (hP.enclosed hjoined)
        simpa only [conditionSql, hsplit, String.append_assoc] using hshared
    | absent => exact hP.empty
  have hhead : P (join.kind.sql ++ " " ++ join.table) :=
    hP.append (hP.append hkind hspace) (hP.of_isIdentifier hjoin.table)
  unfold Join.sql
  refine hP.append (hP.append hhead ?_) hcondition
  split
  · rename_i name hname
    exact hP.append (hP.word rfl) (hP.of_isIdentifier (hjoin.aliasName name hname))
  · exact hP.empty

theorem Dialect.composed_limitClause? {dialect : Dialect} {limit : Option UInt64}
    {offset : UInt64} {clause : String} (h : dialect.limitClause? limit offset = some clause) :
    P clause := by
  have hnumber : ∀ word : UInt64, P (toString word) := fun word => hP.of_nat word.toNat
  have hlimit : ∀ word : UInt64, P ("LIMIT " ++ toString word) := fun word =>
    hP.append (hP.word rfl) (hnumber word)
  have hoffset : ∀ word : UInt64, P ("OFFSET " ++ toString word) := fun word =>
    hP.append (hP.word rfl) (hnumber word)
  unfold limitClause? at h
  cases dialect with
  | postgres =>
      cases limit with
      | none =>
          simp only at h
          split at h <;> cases h
          exact hoffset offset
      | some limit =>
          simp only at h
          split at h <;> cases h
          · exact hlimit limit
          · exact hP.append (hP.append (hlimit limit) (hP.word rfl)) (hnumber offset)
  | mysql =>
      cases limit with
      | none =>
          simp only at h
          split at h <;> cases h
          exact hP.append (hlimit offset) (hP.word rfl)
      | some limit =>
          simp only at h
          split at h <;> cases h
          · exact hlimit limit
          · exact hP.append (hP.append (hlimit offset) (hP.word rfl)) (hnumber limit)
  | sqlserver =>
      cases limit with
      | none =>
          simp only at h
          split at h <;> cases h
          exact hP.append (hoffset offset) (hP.word rfl)
      | some limit =>
          cases h
          exact hP.append (hP.append (hP.append (hoffset offset) (hP.word rfl)) (hnumber limit))
            (hP.word rfl)

namespace Renderer

variable {renderer : Renderer} {selection : Selection}

theorem composed_fromClause (htable : P (selection.table.sql renderer.dialect.nameStyle))
    (hjoins : ∀ join ∈ selection.query.joins.getD [], P join.sql) :
    P (renderer.fromClause selection) := by
  refine hP.append (hP.append (hP.word rfl) htable) (hP.join ?_)
  intro text htext
  obtain ⟨join, hjoin, rfl⟩ := List.mem_map.mp htext
  exact hP.append (hP.word rfl) (hjoins join hjoin)

theorem composed_projection (hreference : P (renderer.scope selection).reference)
    (hcolumns : ∀ column ∈ selection.query.columns, ∀ text,
      projectedColumn (renderer.scope selection) column = .ok text → P text)
    {projection : String} (h : renderer.projection selection = .ok projection) : P projection := by
  dsimp only [Renderer.projection] at h
  split at h
  · rw [← Result.pure_eq_ok.mp h]
    exact ColumnScope.composed_qualified hP hreference (hP.word rfl)
  · rw [Result.bind_eq_ok] at h
    obtain ⟨columns, hrendered, h⟩ := h
    rw [← Result.pure_eq_ok.mp h]
    refine hP.intercalate (hP.word rfl) ?_
    intro text htext
    obtain ⟨column, hcolumn, hok⟩ := Result.exists_of_mem_mapM hrendered htext
    exact hcolumns column hcolumn text hok

theorem composed_groupClause
    (hcolumns : ∀ name ∈ (selection.query.groups.getD .empty).columns, ∀ column,
      (renderer.scope selection).resolveChecked "Group column" name = .ok column → P column)
    {groups : String} (h : renderer.groupClause selection = .ok groups) : P groups := by
  dsimp only [groupClause] at h
  split at h
  · rw [← Result.pure_eq_ok.mp h]
    exact hP.empty
  · rw [Result.bind_eq_ok] at h
    obtain ⟨columns, hrendered, h⟩ := h
    rw [← Result.pure_eq_ok.mp h]
    refine hP.append (hP.word rfl) (hP.intercalate (hP.word rfl) ?_)
    intro text htext
    obtain ⟨name, hname, hok⟩ := Result.exists_of_mem_mapM hrendered htext
    exact hcolumns name hname text hok

theorem composed_emptyOrder : P emptyOrder := by
  have hsplit : emptyOrder = " ORDER BY " ++ ("(" ++ "SELECT 1" ++ ")") := by decide
  rw [hsplit]
  exact hP.append (hP.word rfl) (hP.enclosed (hP.word rfl))

theorem composed_orderClause
    (hcolumns : ∀ order ∈ selection.query.sorting.orders, ∀ column,
      (renderer.scope selection).resolveChecked "Sort property" order.property = .ok column →
        P column)
    {windowed : Bool} {clause : String} (h : renderer.orderClause selection windowed = .ok clause) :
    P clause := by
  dsimp only [orderClause] at h
  split at h
  · rw [← Result.pure_eq_ok.mp h]
    split
    · exact composed_emptyOrder hP
    · exact hP.empty
  · rw [Result.bind_eq_ok] at h
    obtain ⟨orders, hrendered, h⟩ := h
    rw [← Result.pure_eq_ok.mp h]
    refine hP.append (hP.word rfl) (hP.intercalate (hP.word rfl) ?_)
    intro text htext
    obtain ⟨order, horder, hok⟩ := Result.exists_of_mem_mapM hrendered htext
    rw [Order.sql, Result.bind_eq_ok] at hok
    obtain ⟨column, hcolumn, hok⟩ := hok
    have hdirection : P order.direction.sql := by
      apply hP.word
      cases order.direction <;> rfl
    have hnulls : P (Order.nullsSql renderer.dialect order.nulls) := by
      apply hP.word
      cases order.nulls <;> cases renderer.dialect <;> rfl
    rw [← Result.pure_eq_ok.mp hok]
    exact hP.append (hP.append (hP.append (hcolumns order horder column hcolumn) (hP.word rfl))
      hdirection) hnulls

theorem composed_windowClause {dialect : Dialect} {limit : Option UInt64} {offset : UInt64} :
    P (windowClause (dialect.limitClause? limit offset)) := by
  cases hclause : dialect.limitClause? limit offset with
  | none => exact hP.empty
  | some clause => exact hP.append (hP.word rfl) (Dialect.composed_limitClause? hP hclause)

end Renderer

end EntityQuery
