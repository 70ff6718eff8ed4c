import EntityQuery.Proofs.Filter.Alike
import EntityQuery.Proofs.Statement.Rendering
import EntityQuery.Proofs.Statement.Where

/-!
# Values leave no trace in the text

Two selections that differ in the values of their conditions only, as `Selection.Alike` says, are
run side by side.  Every step of the one fails when the step of the other does and with the same
error, and what is rendered are the same texts with values at the same places.  So both statements
have the same text, the same markers and the same positions.
-/

namespace EntityQuery

/-! ### Selections -/

/-- The joins differ in the values of their criteria only. -/
structure Join.Alike (first second : Join) : Prop where
  kind : first.kind = second.kind
  table : first.table = second.table
  aliasName : first.aliasName = second.aliasName
  condition : first.condition = second.condition
  criteria : Option.Rel Criteria.Alike first.criteria second.criteria

structure Query.Alike (first second : Query) : Prop where
  criteria : Option.Rel Criteria.Alike first.criteria second.criteria
  columns : first.columns = second.columns
  joins : Option.Rel (List.Forall₂ Join.Alike) first.joins second.joins
  groups : first.groups = second.groups
  sorting : first.sorting = second.sorting
  limit : first.limit = second.limit
  offset : first.offset = second.offset

/-- The selections differ in the values of the criteria of the query and of its joins only. -/
structure Selection.Alike (first second : Selection) : Prop where
  table : first.table = second.table
  entity : first.entity = second.entity
  query : first.query.Alike second.query
  distinct : first.distinct = second.distinct

/-- The text is the same, and so are the positions and the markers of the bindings. -/
structure Statement.SameText (first second : Statement) : Prop where
  sql : first.sql = second.sql
  markers : first.bindings.map (fun binding => (binding.index, binding.marker)) =
    second.bindings.map fun binding => (binding.index, binding.marker)

/-! ### Pieces -/

/-- Texts are the same, and values stand at the same places. -/
inductive Piece.Alike : Piece → Piece → Prop
  | text (content : String) : Alike (.text content) (.text content)
  | value (first second : Value) : Alike (.value first) (.value second)

namespace Pieces

def Alike (first second : Pieces) : Prop :=
  List.Forall₂ Piece.Alike first second

theorem alike_text (content : String) : Alike [.text content] [.text content] :=
  .cons (.text content) .nil

theorem Alike.append {first second left right : Pieces} (h : Alike first second)
    (hrest : Alike left right) : Alike (first ++ left) (second ++ right) :=
  List.rel_append h hrest

theorem Alike.text_cons {first second : Pieces} (h : Alike first second) (content : String) :
    Alike (.text content :: first) (.text content :: second) :=
  .cons (.text content) h

theorem Alike.enclosed {first second : Pieces} (h : Alike first second) :
    Alike (enclosed first) (enclosed second) :=
  (h.append (alike_text ")")).text_cons "("

theorem Alike.enclosedIf {first second : Pieces} (h : Alike first second) (condition : Prop)
    [Decidable condition] :
    Alike (if condition then Pieces.enclosed first else first)
      (if condition then Pieces.enclosed second else second) := by
  by_cases hcondition : condition
  · rw [if_pos hcondition, if_pos hcondition]
    exact h.enclosed
  · rw [if_neg hcondition, if_neg hcondition]
    exact h

theorem alike_separated (separator : String) {parts others : List Pieces}
    (h : List.Forall₂ Alike parts others) :
    Alike (separated separator parts) (separated separator others) := by
  induction h with
  | nil => exact .nil
  | @cons part other parts others hpart hparts ih =>
      cases hparts with
      | nil => exact hpart
      | cons hnext hrest =>
          rw [separated_cons_cons, separated_cons_cons]
          exact hpart.append (ih.text_cons separator)

variable {first second : Pieces} (h : Alike first second) (style : MarkerStyle)

include h

theorem Alike.sqlFrom (index : Nat) : sqlFrom style index first = sqlFrom style index second := by
  induction h generalizing index with
  | nil => rfl
  | cons hpiece _ ih =>
      cases hpiece with
      | text content => rw [Pieces.sqlFrom, Pieces.sqlFrom, ih]
      | value value other => rw [Pieces.sqlFrom, Pieces.sqlFrom, ih]

theorem Alike.markers (index : Nat) :
    (bindingsFrom style index first).map (fun binding => (binding.index, binding.marker)) =
      (bindingsFrom style index second).map fun binding => (binding.index, binding.marker) := by
  induction h generalizing index with
  | nil => rfl
  | cons hpiece _ ih =>
      cases hpiece with
      | text content => rw [bindingsFrom, bindingsFrom, ih]
      | value value other =>
          rw [bindingsFrom, bindingsFrom, List.map_cons, List.map_cons, ih]

theorem Alike.toStatement :
    (Pieces.toStatement style first).SameText (Pieces.toStatement style second) :=
  ⟨h.sqlFrom style 0, h.markers style 0⟩

end Pieces

open Result (Related)

/-! ### Conditions and criteria -/

theorem Pieces.alike_markerList {values others : List Value}
    (h : values.length = others.length) :
    Pieces.Alike (Condition.markerList values) (Condition.markerList others) := by
  apply Alike.enclosed
  apply alike_separated
  rw [List.forall₂_map_left_iff, List.forall₂_map_right_iff, List.forall₂_iff_get]
  exact ⟨h, fun index _ _ => .cons (.value _ _) .nil⟩

theorem Condition.Alike.pieces {first second : Condition} (h : first.Alike second)
    (scope : ColumnScope) :
    Related Pieces.Alike (first.pieces scope) (second.pieces scope) := by
  unfold Condition.pieces
  rw [h.field]
  apply (Related.refl (fun _ => rfl) (scope.resolveChecked _ second.field)).bind
  rintro column _ rfl
  unfold piecesOn
  rw [h.field, h.comparator]
  have hform := h.form
  generalize first.form = form at hform ⊢
  generalize second.form = other at hform ⊢
  cases hform with
  | test comparator => exact .ok (Pieces.alike_text _)
  | @membership comparator elements others hlength =>
      cases elements with
      | nil =>
          obtain rfl := List.eq_nil_of_length_eq_zero hlength.symm
          exact .ok (Pieces.alike_text _)
      | cons value rest =>
          cases others with
          | nil => cases hlength
          | cons other others => exact .ok ((Pieces.alike_markerList hlength).text_cons _)
  | comparison comparator value other =>
      exact .ok (.cons (.text _) (.cons (.value value other) .nil))
  | incomplete => exact .error _

theorem Criteria.Alike.pieces {first second : Criteria} (h : first.Alike second)
    (scope : ColumnScope) (nested : Bool) :
    Related Pieces.Alike (first.pieces scope nested) (second.pieces scope nested) := by
  refine Criteria.Alike.induction (motive := fun first second => ∀ nested,
    Related Pieces.Alike (first.pieces scope nested) (second.pieces scope nested)) ?_ ?_ h nested
  · intro first second hleaf nested
    rw [pieces_condition, pieces_condition]
    exact hleaf.pieces scope
  · intro combinator parts others hparts ih nested
    rw [Criteria.pieces, Criteria.pieces, partsPieces_eq_mapM, partsPieces_eq_mapM]
    apply (Related.mapM (ih.imp fun _ _ hpart => hpart true)).bind
    intro rendered related hrendered
    rw [hparts.length_eq]
    exact .ok ((Pieces.alike_separated combinator.sql hrendered).enclosedIf _)

/-! ### Filters -/

/-- The criteria differ in their values, and the names in them are resolved in the same scope. -/
structure ScopedFilter.Alike (first second : ScopedFilter) : Prop where
  scope : first.scope = second.scope
  criteria : first.criteria.Alike second.criteria

theorem Criteria.Alike.isAlternative {first second : Criteria} (h : first.Alike second) :
    first.isAlternative = second.isAlternative := by
  cases h with
  | condition => rfl
  | group combinator hparts => cases combinator <;> rfl

theorem ScopedFilter.Alike.pieces {first second : ScopedFilter} (h : first.Alike second)
    (combined : Bool) : Related Pieces.Alike (first.pieces combined) (second.pieces combined) := by
  unfold ScopedFilter.pieces
  rw [h.scope, h.criteria.isAlternative]
  apply (h.criteria.pieces second.scope false).bind
  intro rendered related hrendered
  exact .ok (hrendered.enclosedIf _)

theorem ScopedFilter.Alike.simplify? {first second : ScopedFilter} (h : first.Alike second) :
    Option.Rel ScopedFilter.Alike first.simplify? second.simplify? := by
  unfold ScopedFilter.simplify?
  rw [h.scope]
  have hsimple := h.criteria.simplify?
  generalize first.criteria.simplify? = simple at hsimple ⊢
  generalize second.criteria.simplify? = other at hsimple ⊢
  cases hsimple with
  | none => exact .none
  | some hsimple => exact .some ⟨rfl, hsimple⟩

/-- Criteria that restrict in the same scope. -/
theorem ScopedFilter.alike_map (scope : ColumnScope) {first second : Option Criteria}
    (h : Option.Rel Criteria.Alike first second) :
    Option.Rel ScopedFilter.Alike (first.map (ScopedFilter.mk scope))
      (second.map (ScopedFilter.mk scope)) := by
  cases h with
  | none => exact .none
  | some hcriteria => exact .some ⟨rfl, hcriteria⟩

theorem Join.Alike.scope {first second : Join} (h : first.Alike second) (schema : Schema)
    (style : NameStyle) : first.scope schema style = second.scope schema style := by
  unfold Join.scope Join.reference
  rw [h.table, h.aliasName]

namespace Selection

variable {first second : Selection} (h : first.Alike second)

include h

theorem Alike.scope (schema : Schema) (style : NameStyle) :
    first.scope schema style = second.scope schema style := by
  unfold Selection.scope
  rw [h.table, h.entity]

theorem Alike.joins :
    List.Forall₂ Join.Alike (first.query.joins.getD []) (second.query.joins.getD []) := by
  have hjoins := h.query.joins
  generalize first.query.joins = joins at hjoins ⊢
  generalize second.query.joins = others at hjoins ⊢
  cases hjoins with
  | none => exact .nil
  | some hjoins => exact hjoins

theorem Alike.sources (schema : Schema) (style : NameStyle) :
    List.Forall₂ ScopedFilter.Alike (first.sources schema style)
      (second.sources schema style) := by
  unfold Selection.sources
  rw [h.scope]
  apply List.rel_append
  · have hbase := ScopedFilter.alike_map (second.scope schema style) h.query.criteria
    generalize first.query.criteria.map _ = filter at hbase ⊢
    generalize second.query.criteria.map _ = other at hbase ⊢
    cases hbase with
    | none => exact .nil
    | some hfilter => exact .cons hfilter .nil
  · refine List.rel_filterMap ?_ h.joins
    intro join other hjoin
    dsimp only
    rw [hjoin.scope]
    exact ScopedFilter.alike_map _ hjoin.criteria

theorem Alike.filters (schema : Schema) (style : NameStyle) :
    List.Forall₂ ScopedFilter.Alike (first.filters schema style)
      (second.filters schema style) := by
  rw [filters_eq, filters_eq]
  exact List.rel_filterMap (fun _ _ hfilter => hfilter.simplify?) (h.sources schema style)

theorem Alike.wherePieces (schema : Schema) (style : NameStyle) :
    Related Pieces.Alike (first.wherePieces schema style) (second.wherePieces schema style) := by
  dsimp only [Selection.wherePieces]
  have hfilters := h.filters schema style
  generalize first.filters schema style = filters at hfilters ⊢
  generalize second.filters schema style = others at hfilters ⊢
  rw [hfilters.length_eq]
  have hrendered := Related.mapM (hfilters.imp fun _ _ hfilter =>
    hfilter.pieces (1 < others.length))
  cases hfilters with
  | nil => exact .ok .nil
  | cons hfilter hrest =>
      apply hrendered.bind
      intro rendered related hparts
      exact .ok ((Pieces.alike_separated " AND " hparts).text_cons " WHERE ")

end Selection

/-! ### The text around the filter -/

theorem Join.Alike.sql {first second : Join} (h : first.Alike second) : first.sql = second.sql := by
  unfold Join.sql
  rw [h.kind, h.table, h.aliasName, h.condition]

namespace Renderer

variable {first second : Selection} (h : first.Alike second) (renderer : Renderer)

include h

theorem fromClause_of_alike : renderer.fromClause first = renderer.fromClause second := by
  have htexts : (first.query.joins.getD []).map (fun join => " " ++ join.sql) =
      (second.query.joins.getD []).map fun join => " " ++ join.sql := by
    rw [← List.forall₂_eq_eq_eq, List.forall₂_map_left_iff, List.forall₂_map_right_iff]
    exact h.joins.imp fun _ _ hjoin => congrArg (" " ++ ·) hjoin.sql
  unfold fromClause
  rw [h.table, htexts]

theorem scope_of_alike : renderer.scope first = renderer.scope second :=
  h.scope renderer.schema renderer.dialect.nameStyle

omit renderer in
theorem countsGroups_of_alike : countsGroups first = countsGroups second := by
  have hjoin : first.query.hasJoin = second.query.hasJoin := by
    have hjoins := h.query.joins
    unfold Query.hasJoin
    generalize first.query.joins = joins at hjoins ⊢
    generalize second.query.joins = others at hjoins ⊢
    cases hjoins with
    | none => rfl
    | some hjoins => cases hjoins <;> rfl
  unfold countsGroups Query.hasGroups
  rw [h.query.groups, hjoin]

theorem groupClause_of_alike : renderer.groupClause first = renderer.groupClause second := by
  unfold groupClause
  rw [renderer.scope_of_alike h, h.query.groups]

theorem opening_of_alike (kind : StatementKind) :
    renderer.opening first kind = renderer.opening second kind := by
  cases kind with
  | select =>
      unfold Renderer.opening projection
      rw [renderer.scope_of_alike h, renderer.fromClause_of_alike h, h.query.columns, h.distinct]
  | count =>
      unfold Renderer.opening countTarget
      rw [renderer.scope_of_alike h, renderer.fromClause_of_alike h, countsGroups_of_alike h,
        h.entity]
  | existence =>
      unfold Renderer.opening
      rw [renderer.fromClause_of_alike h]

theorem ending_of_alike (kind : StatementKind) :
    renderer.ending first kind = renderer.ending second kind := by
  cases kind with
  | select =>
      unfold Renderer.ending orderClause
      rw [renderer.scope_of_alike h, renderer.groupClause_of_alike h, h.query.sorting,
        h.query.limit, h.query.offset]
  | count =>
      unfold Renderer.ending
      rw [renderer.scope_of_alike h, renderer.groupClause_of_alike h, countsGroups_of_alike h]
  | existence => rfl

end Renderer

/-- Selections that differ in the values of their conditions are rendered to statements with the
same text, the same positions and the same markers, or fail with the same error. -/
theorem Renderer.related_render_of_alike {first second : Selection} (h : first.Alike second)
    (renderer : Renderer) (kind : StatementKind) :
    Related Statement.SameText (renderer.render kind first) (renderer.render kind second) := by
  rw [render_eq, render_eq, renderer.opening_of_alike h, renderer.ending_of_alike h]
  apply (Related.refl (fun _ => rfl) (renderer.opening second kind)).bind
  rintro opening _ rfl
  apply (h.wherePieces renderer.schema renderer.dialect.nameStyle).bind
  intro filter other hfilter
  apply (Related.refl (fun _ => rfl) (renderer.ending second kind)).bind
  rintro ending _ rfl
  have hpieces : Pieces.Alike (.text opening :: filter ++ [.text ending])
      (.text opening :: other ++ [.text ending]) :=
    (hfilter.text_cons opening).append (Pieces.alike_text ending)
  exact .ok (hpieces.toStatement renderer.dialect.markerStyle)

/-- A text with a quote in the place of a plain one, a single value in the place of a list of one,
and a null where it is not looked for; the criteria of a join has a value of another type. -/
theorem Renderer.related_render_of_quoted_text :
    let renderer := Renderer.mk .sqlserver (.empty .standard)
    let selection := fun name city age paid : Value =>
      let join := (Join.mk .cross "orders" none .absent none).withCriteria
        (.compare .ne "paid" paid)
      let criteria := Criteria.group .or [.compare .eq "name" name,
        .group .and [.compare .isIn "city" city, .compare .gt "age" age]]
      (Selection.ofTable ⟨.plain "users", none⟩).withQuery
        ((Query.ofCriteria criteria).joining [join])
    let first := selection (.text "x") (.array [.text "B"]) (.integer 6) (.boolean true)
    let second := selection (.text "' OR 1 = 1 --") (.text "C") .null (.integer 0)
    first.Alike second ∧
      Related Statement.SameText (renderer.render .count first) (renderer.render .count second) ∧
      (renderer.render .count second).map Statement.sql = .ok
        ("SELECT COUNT(*) FROM users CROSS JOIN orders WHERE (users.name = @P0 OR " ++
          "(users.city IN (@P1) AND users.age > @P2)) AND orders.paid != @P3") := by
  intro renderer selection first second
  have hcompare : ∀ {a b : Condition}, a.Alike b → Criteria.Alike (.condition a) (.condition b) :=
    Criteria.Alike.condition
  have hcriteria : Option.Rel Criteria.Alike first.query.criteria second.query.criteria := by
    refine .some (.group .or (.cons (hcompare ?_) (.cons (.group .and
      (.cons (hcompare ?_) (.cons (hcompare ?_) .nil))) .nil)))
    · exact ⟨rfl, rfl, rfl, by decide, by decide⟩
    · exact ⟨rfl, rfl, rfl, by decide, by decide⟩
    · exact ⟨rfl, rfl, rfl, by decide, by decide⟩
  have hjoin : Option.Rel (List.Forall₂ Join.Alike) first.query.joins second.query.joins := by
    refine .some (.cons ⟨rfl, rfl, rfl, rfl, .some (hcompare ?_)⟩ .nil)
    exact ⟨rfl, rfl, rfl, by decide, by decide⟩
  have halike : first.Alike second :=
    ⟨rfl, rfl, ⟨hcriteria, rfl, hjoin, rfl, rfl, rfl, rfl⟩, rfl⟩
  refine ⟨halike, related_render_of_alike halike renderer .count, ?_⟩
  rw [render, count_eq]
  rfl

end EntityQuery
