import EntityQuery.Proofs.Context.Inquiry

/-!
# What is told about a path

Everything that a context tells about a path is a matter of the schema.
-/

namespace EntityQuery

/-- What the schema tells about a path. -/
def Schema.report (schema : Schema) (path : Path) : PathReport where
  length := path.length
  dotted := path.dotted
  leaf := path.leaf?.map Property.name
  leafEntity := (schema.leafEntity? path).map Entity.name
  parent := (schema.parent path).map Path.text
  identifierParent := (schema.identifierParent path).map Path.text
  tableOwner := (schema.tableOwner path).map Path.text
  table := schema.qualifiedTable path
  tableAlias := schema.tableAlias path
  column := path.columnName
  columnAlias := schema.columnAlias path
  reverseColumn := schema.reverseColumn path
  keyColumn := schema.keyColumn path
  identifierColumn := schema.identifierColumn path
  effectiveIdentifier := schema.effectiveIdentifier path
  info := schema.tableInfo path

namespace Inquiry

variable {n : Nat} {registry : Registry n}

theorem gives_requiredLeafEntity (path : Path) :
    Gives registry (requiredLeafEntity path) (registry.schema.requiredLeafEntity path) :=
  gives_schema.bind_ok (gives_ofResult _)

theorem gives_identifierColumn (path : Path) :
    Gives registry (identifierColumn path) (registry.schema.identifierColumn path) := by
  unfold identifierColumn Schema.identifierColumn Schema.requiredIdentifier
  rw [bind_assoc]
  exact (gives_requiredLeafEntity path).bind fun _ _ =>
    (gives_ofResult _).bind fun property _ => gives_pure _

theorem gives_identifierColumn? (path : Path) :
    Gives registry (identifierColumn? path) (registry.schema.identifierColumn? path) := by
  refine gives_schema.bind_ok ?_
  unfold Schema.identifierColumn?
  split
  · exact (gives_identifierColumn path).map some
  · exact gives_pure none

section

variable (hwell : registry.schema.WellFormed) {path : Path}

include hwell

theorem gives_table (hpath : registry.schema.HasPath path) :
    Gives registry (table path) (registry.schema.qualifiedTable path) :=
  (gives_tableOwner hwell hpath).bind fun owner _ =>
    (gives_requiredLeafEntity owner).bind fun _ _ => gives_pure _

/-- The alias is put together from the labels of the path. -/
theorem gives_assembledAlias (hpath : registry.schema.HasPath path) (hroot : path.isRoot = false) :
    Gives registry (assembledAlias path) (.ok ((Path.aliasOf path.climb).map .quoted)) := by
  induction hpath using Schema.HasPath.induction with
  | root path hpath hempty => simp [hempty] at hroot
  | step path hpath _ ih =>
      have hparent := gives_parent hwell hpath
      rw [hwell.parent_eq hpath hroot] at hparent
      obtain ⟨root, climb⟩ := path
      rw [assembledAlias]
      match climb with
      | [] => cases hroot
      | [segment] =>
          refine Leads.bind_ok (gives_ofResult (.ok segment.property)) ?_
          have hshort : (⟨root, [segment]⟩ : Path).length = 1 := rfl
          dsimp only
          rw [if_pos hshort]
          have hown : (Path.aliasOf [segment]).map Identifier.quoted =
              if segment.label = "" then none else some (.quoted segment.label) := by
            rw [Path.aliasOf]
            split <;> rfl
          rw [hown]
          exact gives_pure _
      | segment :: above :: parents =>
          refine Leads.bind_ok (gives_ofResult (.ok segment.property)) ?_
          have hlong : ¬ (⟨root, segment :: above :: parents⟩ : Path).length = 1 := by
            simp [Path.length]
          dsimp only
          rw [if_neg hlong]
          refine hparent.bind_ok ((ih rfl).bind_ok ?_)
          have hembedded : ((⟨root, segment :: above :: parents⟩ : Path).above 1).isEmbedded =
              above.property.shape.isEmbedded := rfl
          have hclimb : ((⟨root, segment :: above :: parents⟩ : Path).above 1).climb =
              above :: parents := rfl
          rw [Path.aliasOf, hclimb, hembedded]
          cases Path.aliasOf (above :: parents) with
          | none =>
              have hown : (if segment.label = "" then none else some segment.label).map
                  Identifier.quoted =
                    if segment.label = "" then none else some (.quoted segment.label) := by
                split <;> rfl
              simp only [hown]
              exact gives_pure _
          | some label =>
              cases above.property.shape.isEmbedded with
              | true => exact gives_pure _
              | false => exact gives_pure _

theorem gives_tableAlias (hpath : registry.schema.HasPath path) :
    Gives registry (tableAlias path) (registry.schema.tableAlias path) := by
  refine (gives_tableOwner hwell hpath).bind fun owner howner => ?_
  cases hroot : owner.isRoot with
  | true =>
      rw [if_pos rfl, List.isEmpty_iff.mp hroot]
      exact gives_pure none
  | false =>
      rw [if_neg Bool.false_ne_true]
      exact gives_assembledAlias hwell (hwell.hasPath_tableOwner hpath howner) hroot

theorem gives_columnAlias (hpath : registry.schema.HasPath path) :
    Gives registry (columnAlias path) (registry.schema.columnAlias path) := by
  refine (gives_ofResult _).bind fun column _ => ?_
  refine (gives_tableAlias hwell hpath).bind fun label _ => ?_
  cases label with
  | none => exact gives_pure column
  | some label => exact gives_pure _

theorem gives_reverseColumn (hpath : registry.schema.HasPath path) :
    Gives registry (reverseColumn path) (registry.schema.reverseColumn path) := by
  unfold reverseColumn Schema.reverseColumn
  cases path.leaf? with
  | none => exact gives_throw _
  | some property =>
      cases hcolumn : property.reverseColumn with
      | some column =>
          simp only [hcolumn]
          exact gives_pure column
      | none =>
          simp only [hcolumn]
          refine (gives_identifierParent hwell hpath).bind fun parent _ => ?_
          refine (gives_requiredLeafEntity parent).bind fun entity _ => ?_
          exact gives_schema.bind_ok (gives_pure _)

theorem gives_keyColumn (hpath : registry.schema.HasPath path) :
    Gives registry (keyColumn path) (registry.schema.keyColumn path) := by
  unfold keyColumn Schema.keyColumn
  cases path.leaf? with
  | none => exact gives_pure none
  | some property =>
      cases hkeyed : property.shape.isKeyed with
      | false =>
          simp only [hkeyed]
          exact gives_pure none
      | true =>
          cases hcolumn : property.keyColumn with
          | some column =>
              simp only [hkeyed, hcolumn]
              exact gives_pure _
          | none =>
              simp only [hkeyed, hcolumn]
              exact (gives_reverseColumn hwell hpath).bind fun reverse _ => gives_pure _

theorem gives_effectiveIdentifier (hpath : registry.schema.HasPath path) :
    Gives registry (effectiveIdentifier path) (registry.schema.effectiveIdentifier path) := by
  refine (gives_tableOwner hwell hpath).bind fun owner howner => ?_
  split
  · exact gives_identifierColumn owner
  · exact gives_reverseColumn hwell (hwell.hasPath_tableOwner hpath howner)

theorem gives_reverseColumn? (hpath : registry.schema.HasPath path) :
    Gives registry (reverseColumn? path) (registry.schema.reverseColumn? path) := by
  unfold reverseColumn? Schema.reverseColumn?
  split
  · exact gives_pure none
  · exact (gives_reverseColumn hwell hpath).map some

theorem gives_tableInfo (hpath : registry.schema.HasPath path) :
    Gives registry (tableInfo path) (registry.schema.tableInfo path) := by
  refine (gives_tableOwner hwell hpath).bind fun owner howner => ?_
  have hown := hwell.hasPath_tableOwner hpath howner
  refine (gives_reverseColumn? hwell hown).bind fun reverse _ => ?_
  refine (gives_identifierColumn? owner).bind fun identifier _ => ?_
  refine (gives_table hwell hown).bind fun table _ => ?_
  refine (gives_tableAlias hwell hown).bind fun label _ => ?_
  exact (gives_keyColumn hwell hown).bind fun key _ => gives_pure _

theorem gives_report (hpath : registry.schema.HasPath path) :
    Gives registry (report path) (.ok (registry.schema.report path)) := by
  refine gives_schema.bind_ok ?_
  refine (gives_parent hwell hpath).outcome.bind_ok ?_
  refine (gives_identifierParent hwell hpath).outcome.bind_ok ?_
  refine (gives_tableOwner hwell hpath).outcome.bind_ok ?_
  refine (gives_table hwell hpath).outcome.bind_ok ?_
  refine (gives_tableAlias hwell hpath).outcome.bind_ok ?_
  refine (gives_columnAlias hwell hpath).outcome.bind_ok ?_
  refine (gives_reverseColumn hwell hpath).outcome.bind_ok ?_
  refine (gives_keyColumn hwell hpath).outcome.bind_ok ?_
  refine (gives_identifierColumn path).outcome.bind_ok ?_
  refine (gives_effectiveIdentifier hwell hpath).outcome.bind_ok ?_
  exact (gives_tableInfo hwell hpath).outcome.bind_ok (gives_pure _)

end

end Inquiry

end EntityQuery
