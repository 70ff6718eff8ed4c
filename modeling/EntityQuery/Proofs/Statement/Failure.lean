import EntityQuery.Proofs.Path.Stored
import EntityQuery.Proofs.Statement.Success

/-!
# Why a statement cannot be rendered

Over a well-formed schema the arguments are to blame whenever a statement cannot be rendered: a name
that may not be inlined or is not stored with the entity, or a value that is missing.  One name that
cannot be resolved is enough.
-/

namespace EntityQuery

open Result

namespace Schema.WellFormed

variable {schema : Schema} {root entity : Entity} (hwell : schema.WellFormed)

include hwell

/-- A name leads nowhere because there is no such property or because it is simple; that the entity
a property refers to is missing is no case. -/
theorem failsAs_walk {whole : String} {names : List String}
    (hentity : schema.entity? entity.id = some entity) :
    FailsAs .invalidArgument (schema.walk whole entity names) := by
  induction names generalizing entity with
  | nil => exact failsAs_ok []
  | cons name names ih =>
      rw [walk.eq_def]
      cases hproperty : entity.property? name with
      | none =>
          simp only [hproperty]
          exact failsAs_error_iff.mpr rfl
      | some property =>
          simp only [hproperty]
          cases names with
          | nil => exact failsAs_ok _
          | cons next names =>
              cases htarget : property.shape.target? with
              | none => exact failsAs_error_iff.mpr rfl
              | some id =>
                  obtain ⟨related, hrelated⟩ := hwell.exists_target entity.id entity hentity
                    property (mem_properties_of_property? hproperty) id htarget
                  have hid : schema.entity? related.id = some related := by
                    rw [hwell.id_eq id related hrelated, hrelated]
                  simp only [required_eq_ok_iff.mpr hrelated]
                  refine (failsAs_ok related).bind fun other hother => ?_
                  cases hother
                  exact (ih hid).bind fun segments _ => failsAs_ok _

theorem failsAs_resolve (text : String) (hroot : schema.entity? root.id = some root) :
    FailsAs .invalidArgument (schema.resolve root text) := by
  unfold resolve
  split
  · exact failsAs_ok _
  · exact (hwell.failsAs_walk hroot).bind fun segments _ => failsAs_ok _

end Schema.WellFormed

namespace ColumnScope

variable {scope : ColumnScope}

/-- Names of the scope fail as arguments do. -/
def Blames (scope : ColumnScope) : Prop :=
  ∀ name, FailsAs .invalidArgument (scope.resolve name)

theorem blames_of_none (h : scope.entity = none) : scope.Blames := by
  intro name
  unfold resolve
  rw [h]
  split
  · exact failsAs_ok _
  split
  · exact failsAs_ok _
  · exact failsAs_ok _

theorem blames_of_some {entity : Entity} (hwell : scope.schema.WellFormed)
    (hscope : scope.entity = some entity)
    (hentity : scope.schema.entity? entity.id = some entity) : scope.Blames := by
  intro name
  unfold resolve
  rw [hscope]
  split
  · exact failsAs_ok _
  split
  · exact failsAs_ok _
  dsimp only
  cases hresolve : scope.schema.resolve entity name with
  | error error =>
      have hkind := hwell.failsAs_resolve name hentity error hresolve
      simp only [hkind, if_true]
      exact failsAs_ok _
  | ok path =>
      have hpath := (Schema.hasPath_resolve hentity hresolve).1
      by_cases hstored : path.IsStored
      · obtain ⟨leaf, parents, hclimb, -⟩ := id hstored
        simp only [storedColumn_of_isStored name hwell hpath hstored hclimb]
        exact failsAs_ok _
      · simp only [storedColumn_of_not_isStored name hwell hpath hstored]
        exact failsAs_error_iff.mpr rfl

theorem Blames.resolveChecked (h : scope.Blames) (label name : String) :
    FailsAs .invalidArgument (scope.resolveChecked label name) := by
  refine FailsAs.bind ?_ fun _ _ => h name
  unfold checkExpression
  cases Name.checkExpression label name with
  | error cause => exact failsAs_error_iff.mpr rfl
  | ok value => exact failsAs_ok _

end ColumnScope

theorem Condition.failsAs_pieces {scope : ColumnScope} (h : scope.Blames) (condition : Condition) :
    FailsAs .invalidArgument (condition.pieces scope) := by
  refine (h.resolveChecked _ _).bind fun column _ => ?_
  unfold piecesOn
  cases condition.form with
  | test comparator => exact failsAs_ok _
  | membership comparator elements => cases elements <;> exact failsAs_ok _
  | comparison comparator value => exact failsAs_ok _
  | incomplete => exact failsAs_error_iff.mpr rfl

theorem Criteria.failsAs_pieces {scope : ColumnScope} (h : scope.Blames) (nested : Bool)
    (criteria : Criteria) : FailsAs .invalidArgument (criteria.pieces scope nested) := by
  induction criteria using Criteria.induction generalizing nested with
  | condition leaf =>
      rw [pieces_condition]
      exact leaf.failsAs_pieces h
  | group combinator parts ih =>
      rw [pieces, partsPieces_eq_mapM]
      exact (failsAs_mapM fun part hpart => ih part hpart true).bind fun _ _ => failsAs_ok _

theorem Selection.failsAs_wherePieces {schema : Schema} {style : NameStyle} {selection : Selection}
    (h : (selection.scope schema style).Blames) :
    FailsAs .invalidArgument (selection.wherePieces schema style) := by
  have hfilters : ∀ filter ∈ selection.filters schema style, filter.scope.Blames := by
    unfold filters
    rw [List.forall_mem_append]
    constructor
    · simp only [Option.mem_toList, Option.map_eq_some_iff]
      rintro _ ⟨criteria, -, rfl⟩
      exact h
    · simp only [List.mem_filterMap, Option.map_eq_some_iff]
      rintro _ ⟨join, -, criteria, -, rfl⟩
      exact ColumnScope.blames_of_none rfl
  dsimp only [wherePieces]
  split
  · exact failsAs_ok _
  · refine (failsAs_mapM fun filter hfilter => ?_).bind fun _ _ => failsAs_ok _
    exact (Criteria.failsAs_pieces (hfilters filter hfilter) _ _).bind fun _ _ => failsAs_ok _

/-- The statement of this kind writes the name as a column of the selection. -/
def Selection.Uses (selection : Selection) (kind : StatementKind) (name : String) : Prop :=
  (∃ criteria, selection.query.criteria = some criteria ∧
      ∃ condition ∈ criteria.conditions, condition.field = name) ∨
    (kind ≠ .existence ∧ name ∈ (selection.query.groups.getD .empty).columns) ∨
    (kind = .select ∧ ∃ order ∈ selection.query.sorting.orders, order.property = name)

namespace Renderer

variable {renderer : Renderer} {selection : Selection}

theorem failsAs_render (h : (renderer.scope selection).Blames) (kind : StatementKind) :
    FailsAs .invalidArgument (renderer.render kind selection) := by
  have hwhere : FailsAs .invalidArgument (renderer.wherePieces selection) :=
    Selection.failsAs_wherePieces h
  have hgroups : FailsAs .invalidArgument (renderer.groupClause selection) := by
    dsimp only [groupClause]
    split
    · exact failsAs_ok _
    · exact (failsAs_mapM fun column _ => h.resolveChecked _ _).bind fun _ _ => failsAs_ok _
  have horder : ∀ windowed, FailsAs .invalidArgument (renderer.orderClause selection windowed) := by
    intro windowed
    dsimp only [orderClause]
    split
    · exact failsAs_ok _
    · refine (failsAs_mapM fun order _ => ?_).bind fun _ _ => failsAs_ok _
      exact (h.resolveChecked _ _).bind fun _ _ => failsAs_ok _
  have hprojection : FailsAs .invalidArgument (renderer.projection selection) := by
    dsimp only [projection]
    split
    · exact failsAs_ok _
    · refine (failsAs_mapM fun column _ => ?_).bind fun _ _ => failsAs_ok _
      cases column with
      | expression expression => exact failsAs_ok _
      | quoted name => exact failsAs_ok _
      | plain name => exact h name
  cases kind with
  | select =>
      rw [render, select_eq]
      refine hprojection.bind fun _ _ => hwhere.bind fun _ _ => hgroups.bind fun _ _ => ?_
      exact (horder _).bind fun _ _ => failsAs_ok _
  | count =>
      rw [render, count_eq]
      exact hwhere.bind fun _ _ => hgroups.bind fun _ _ => failsAs_ok _
  | existence =>
      rw [render, exists?_eq]
      exact hwhere.bind fun _ _ => failsAs_ok _

/-- A statement cannot be rendered if it uses a name that cannot be resolved. -/
theorem not_succeeds_render {kind : StatementKind} {name : String} (huses : selection.Uses kind name)
    (hname : ∀ label, ¬ Succeeds ((renderer.scope selection).resolveChecked label name)) :
    ¬ Succeeds (renderer.render kind selection) := by
  rw [succeeds_render_iff, succeeds_ending_iff, succeeds_groupClause_iff]
  rintro ⟨-, hwhere, hgroups, horders⟩
  rcases huses with ⟨criteria, hcriteria, condition, hcondition, rfl⟩ | ⟨hkind, hgroup⟩ |
    ⟨hkind, order, horder, rfl⟩
  · have hpieces := (Selection.succeeds_wherePieces_iff_forall.mp hwhere).1 criteria hcriteria
      condition hcondition
    exact hname _ (Condition.succeeds_pieces_iff.mp hpieces).1
  · exact hname _ (hgroups hkind name hgroup)
  · exact hname _ (horders hkind order horder)

end Renderer

end EntityQuery
