import EntityQuery.Proofs.Statement.Failure

/-!
# What a statement over a table is refused for

Where no entity stands behind a table, a statement is refused for two reasons only: a name that may
not be written into it, or a comparison without the value that it needs.  Each condition is looked
at, however deep it stands in groups that are left out of the statement, and also if its elements
decide it; the sorting is looked at for the rows themselves only.
-/

namespace EntityQuery

open Name Result

/-- The condition stands somewhere in the tree. -/
inductive Condition.IsIn (condition : Condition) : Criteria → Prop
  | leaf : IsIn condition (.condition condition)
  | part {combinator : Combinator} {parts : List Criteria} {part : Criteria} (hpart : part ∈ parts)
      (hin : IsIn condition part) : IsIn condition (.group combinator parts)

theorem Criteria.mem_conditions_iff {condition : Condition} {criteria : Criteria} :
    condition ∈ criteria.conditions ↔ condition.IsIn criteria := by
  induction criteria using Criteria.induction with
  | condition leaf =>
      rw [conditions_condition, List.mem_singleton]
      constructor
      · rintro rfl
        exact .leaf
      · rintro ⟨⟩
        rfl
  | group combinator parts ih =>
      rw [conditions_group, List.mem_flatMap]
      constructor
      · rintro ⟨part, hpart, hcondition⟩
        exact .part hpart ((ih part hpart).mp hcondition)
      · rintro (_ | ⟨hpart, hin⟩)
        exact ⟨_, hpart, (ih _ hpart).mpr hin⟩

namespace Condition

/-- The field may be written into a statement, and a value is there unless the comparison can do
without. -/
structure IsAcceptable (condition : Condition) : Prop where
  field : checkExpression "Criteria column" condition.field = .ok ()
  value : condition.value = none →
    condition.comparator ∈ [.eq, .ne, .isNull, .isNotNull, .isTrue, .isFalse]

theorem form_ne_incomplete_iff {condition : Condition} :
    condition.form ≠ .incomplete ↔ (condition.value = none →
      condition.comparator ∈ [.eq, .ne, .isNull, .isNotNull, .isTrue, .isFalse]) := by
  obtain ⟨field, comparator, value⟩ := condition
  cases value with
  | none => cases comparator <;> simp [form]
  | some value =>
      simp only [reduceCtorEq, false_implies, iff_true]
      cases comparator with
      | eq | ne => cases value <;> simp [form]
      | _ => simp [form]

end Condition

theorem ColumnScope.succeeds_resolveChecked_of_none {scope : ColumnScope}
    (h : scope.entity = none) {label name : String} :
    Succeeds (scope.resolveChecked label name) ↔ checkExpression label name = .ok () := by
  rw [resolveChecked, succeeds_bind]
  have hresolve : Succeeds (scope.resolve name) := by
    unfold resolve
    rw [h]
    split
    · exact succeeds_ok _
    split
    · exact succeeds_ok _
    · exact succeeds_ok _
  constructor
  · rintro ⟨⟨⟩, hcheck, -⟩
    exact hcheck
  · exact fun hcheck => ⟨(), hcheck, hresolve⟩

theorem Condition.succeeds_pieces_of_none {scope : ColumnScope} (h : scope.entity = none)
    {condition : Condition} :
    Succeeds (condition.pieces scope) ↔ condition.IsAcceptable := by
  rw [succeeds_pieces_iff, ColumnScope.succeeds_resolveChecked_of_none h, form_ne_incomplete_iff]
  exact ⟨fun ⟨hfield, hvalue⟩ => ⟨hfield, hvalue⟩, fun ⟨hfield, hvalue⟩ => ⟨hfield, hvalue⟩⟩

namespace Selection

/-- The condition stands in the criteria of the selection or in those of one of its joins. -/
def Restricts (selection : Selection) (condition : Condition) : Prop :=
  (∃ criteria, selection.query.criteria = some criteria ∧ condition.IsIn criteria) ∨
    ∃ join ∈ selection.query.joins.getD [], ∃ criteria, join.criteria = some criteria ∧
      condition.IsIn criteria

theorem succeeds_wherePieces_of_none {schema : Schema} {style : NameStyle} {selection : Selection}
    (h : selection.entity = none) :
    Succeeds (selection.wherePieces schema style) ↔
      ∀ condition, selection.Restricts condition → condition.IsAcceptable := by
  rw [succeeds_wherePieces_iff_forall]
  have hbase : (selection.scope schema style).entity = none := h
  have hjoined : ∀ join : Join, (join.scope schema style).entity = none := fun _ => rfl
  simp only [Condition.succeeds_pieces_of_none hbase, Condition.succeeds_pieces_of_none (hjoined _),
    Criteria.mem_conditions_iff]
  constructor
  · rintro ⟨hown, hjoined⟩ condition
      (⟨criteria, hcriteria, hin⟩ | ⟨join, hmem, criteria, hcriteria, hin⟩)
    · exact hown criteria hcriteria condition hin
    · exact hjoined join hmem criteria hcriteria condition hin
  · intro hall
    refine ⟨fun criteria hcriteria condition hin => ?_,
      fun join hmem criteria hcriteria condition hin => ?_⟩
    · exact hall condition (.inl ⟨criteria, hcriteria, hin⟩)
    · exact hall condition (.inr ⟨join, hmem, criteria, hcriteria, hin⟩)

end Selection

namespace Renderer

variable (renderer : Renderer) {selection : Selection}

theorem succeeds_groupClause_of_built (hentity : selection.entity = none)
    (hgroups : ∀ groups, selection.query.groups = some groups → groups.Built) :
    Succeeds (renderer.groupClause selection) := by
  rw [succeeds_groupClause_iff]
  intro column hcolumn
  rw [ColumnScope.succeeds_resolveChecked_of_none hentity, checkExpression_eq_ok_iff]
  cases hsome : selection.query.groups with
  | none =>
      rw [hsome] at hcolumn
      exact absurd hcolumn List.not_mem_nil
  | some groups =>
      rw [hsome] at hcolumn
      exact (hgroups groups hsome).checked column hcolumn

/-- What is checked for each kind of statement. -/
theorem succeeds_render_of_none (hentity : selection.entity = none)
    (hcolumns : selection.query.columns = [])
    (hgroups : ∀ groups, selection.query.groups = some groups → groups.Built)
    (kind : StatementKind) :
    Succeeds (renderer.render kind selection) ↔
      (∀ condition, selection.Restricts condition → condition.IsAcceptable) ∧
        (kind = .select → ∀ order ∈ selection.query.sorting.orders,
          checkExpression "Sort property" order.property = .ok ()) := by
  have hprojection : Succeeds (renderer.projection selection) := by
    rw [succeeds_projection_iff, hcolumns]
    exact fun _ hcolumn => absurd hcolumn List.not_mem_nil
  have hgroup := succeeds_groupClause_of_built renderer hentity hgroups
  have hscope : (renderer.scope selection).entity = none := hentity
  rw [succeeds_render_iff, succeeds_opening_iff, succeeds_ending_iff]
  simp only [ColumnScope.succeeds_resolveChecked_of_none hscope]
  rw [Renderer.wherePieces, Selection.succeeds_wherePieces_of_none hentity]
  constructor
  · rintro ⟨-, hconditions, -, horders⟩
    exact ⟨hconditions, horders⟩
  · rintro ⟨hconditions, horders⟩
    exact ⟨fun _ => hprojection, hconditions, fun _ => hgroup, horders⟩

/-- Over a table without an entity, all columns can be selected if each condition of the selection
and of its joins is acceptable and so is each property in the sorting, and rows can be counted and
looked for if each condition is.  What cannot be rendered is the fault of an argument. -/
theorem succeeds_iff_isAcceptable (hentity : selection.entity = none)
    (hcolumns : selection.query.columns = [])
    (hgroups : ∀ groups, selection.query.groups = some groups → groups.Built) :
    (Succeeds (renderer.select selection) ↔
      (∀ condition, selection.Restricts condition → condition.IsAcceptable) ∧
        ∀ order ∈ selection.query.sorting.orders,
          checkExpression "Sort property" order.property = .ok ()) ∧
    (Succeeds (renderer.count selection) ↔
      ∀ condition, selection.Restricts condition → condition.IsAcceptable) ∧
    (Succeeds (renderer.exists? selection) ↔
      ∀ condition, selection.Restricts condition → condition.IsAcceptable) ∧
    ∀ kind error, renderer.render kind selection = .error error →
      error.kind = .invalidArgument := by
  have hrender := succeeds_render_of_none renderer hentity hcolumns hgroups
  refine ⟨(hrender .select).trans ?_, (hrender .count).trans ?_, (hrender .existence).trans ?_, ?_⟩
  · exact and_congr_right fun _ => ⟨fun horders => horders rfl, fun horders _ => horders⟩
  · exact and_iff_left nofun
  · exact and_iff_left nofun
  · exact failsAs_render (ColumnScope.blames_of_none hentity)

/-- The field of an empty list is looked at, although the list decides the condition and stands in
groups of which nothing is written. -/
theorem succeeds_iff_isAcceptable_of_empty_list :
    let renderer := Renderer.mk .sqlserver (.empty .standard)
    let criteria (field : String) := Criteria.group .or [.empty, .group .and [.group .or
      [.compare .isIn field (.array [])]]]
    let selection (field property : String) := (Selection.ofTable ⟨.plain "users", none⟩).withQuery
      { Query.empty.groupBy ⟨["date(born)"]⟩ with
        joins := some [⟨.cross, "orders", none, .absent, some (criteria field)⟩]
        sorting := ⟨[.of .ascending property]⟩ }
    Groups.of? ["date(born)"] = .ok ⟨["date(born)"]⟩ ∧
    Succeeds (renderer.select (selection "state" "age")) ∧
    ¬ Succeeds (renderer.select (selection "state" "age desc")) ∧
    Succeeds (renderer.count (selection "state" "age desc")) ∧
    ¬ Succeeds (renderer.exists? (selection "a b" "age")) := by
  intro renderer criteria selection
  have hof : Groups.of? ["date(born)"] = .ok ⟨["date(born)"]⟩ := rfl
  have hgroups : ∀ groups, some (Groups.mk ["date(born)"]) = some groups → groups.Built := by
    rintro _ ⟨⟩
    exact .of hof
  have hrestricts : ∀ field property, (selection field property).Restricts
      (.compare .isIn field (.array [])) := by
    intro field property
    refine .inr ⟨_, List.mem_singleton_self _, criteria field, rfl, ?_⟩
    exact Criteria.mem_conditions_iff.mp (List.mem_singleton_self _)
  have honly : ∀ field property condition, (selection field property).Restricts condition →
      condition = .compare .isIn field (.array []) := by
    rintro field property condition (⟨_, ⟨⟩, -⟩ | ⟨join, hjoin, _, hcriteria, hin⟩)
    obtain rfl := List.mem_singleton.mp hjoin
    cases hcriteria
    exact List.mem_singleton.mp (Criteria.mem_conditions_iff.mpr hin)
  have hsafe : (Condition.compare .isIn "state" (.array [])).IsAcceptable := ⟨rfl, nofun⟩
  have haccepted : ∀ property condition, (selection "state" property).Restricts condition →
      condition.IsAcceptable := by
    intro property condition hcondition
    rwa [honly _ _ _ hcondition]
  have hiff := fun field property =>
    @succeeds_iff_isAcceptable renderer (selection field property) rfl rfl hgroups
  refine ⟨hof, (hiff "state" "age").1.mpr ⟨haccepted _, ?_⟩, ?_,
    (hiff "state" "age desc").2.1.mpr (haccepted _), ?_⟩
  · intro order horder
    rw [List.mem_singleton.mp horder]
    rfl
  · rw [(hiff "state" "age desc").1]
    rintro ⟨-, horders⟩
    exact nomatch horders _ (List.mem_singleton_self _)
  · rw [(hiff "a b" "age").2.2.1]
    intro hconditions
    exact nomatch (hconditions _ (hrestricts _ _)).field

end Renderer

end EntityQuery
