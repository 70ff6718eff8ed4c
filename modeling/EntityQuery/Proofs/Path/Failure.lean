import EntityQuery.Proofs.Path.Table

/-!
# Where a path has no answer

Each question about a path fails under one condition: the path is the root, it ends in a column, or
it leads to an entity without an identifier.  That an entity is not registered, or that a place
holds no property, is never the cause, as schemas are well-formed and paths belong to them.
-/

namespace EntityQuery

/-- The path ends in a property that is stored in a column. -/
def Path.IsSimple (path : Path) : Prop :=
  ∃ property, path.leaf? = some property ∧ property.shape.isSimple = true

def Entity.LacksIdentifier (entity : Entity) : Prop :=
  ∀ property ∈ entity.properties, property.isIdentifier = false

theorem Path.isRoot_iff {path : Path} : path.isRoot = true ↔ path.leaf? = none := by
  simp [Path.isRoot, Path.leaf?]

theorem Path.isRoot_of_leaf? {path : Path} {property : Property} (h : path.leaf? = some property) :
    path.isRoot = false := by
  rw [Bool.eq_false_iff, Ne, Path.isRoot_iff, h]
  exact Option.some_ne_none property

theorem Path.HasTable.not_isSimple {path : Path} (h : path.HasTable) : ¬ path.IsSimple := by
  rintro ⟨property, hleaf, hsimple⟩
  rw [(h property hleaf).1] at hsimple
  cases hsimple

namespace Schema

open Result

/-- The path leads to no entity, or to one without an identifier. -/
def EndsUnidentified (schema : Schema) (path : Path) : Prop :=
  path.IsSimple ∨ ∃ entity, schema.leafEntity? path = some entity ∧ entity.LacksIdentifier

variable {schema : Schema} {path owner : Path} {entity : Entity}

theorem requiredLeafEntity_of_isSimple (h : path.IsSimple) :
    schema.requiredLeafEntity path = .error (.noLeafEntity path.text) := by
  obtain ⟨property, hleaf, hsimple⟩ := h
  simp only [requiredLeafEntity, hleaf, Shape.target?_eq_none_iff.mpr hsimple]

theorem leafEntity?_of_isRoot (h : path.isRoot = true) :
    schema.leafEntity? path = some path.root := by
  rw [leafEntity?, Path.isRoot_iff.mp h]

namespace WellFormed

variable (hwell : schema.WellFormed)

include hwell

theorem hasIdentifier_eq_false_iff (h : schema.entity? entity.id = some entity) :
    entity.hasIdentifier = false ↔ entity.LacksIdentifier := by
  rw [← Bool.not_eq_true, hwell.hasIdentifier_iff _ entity h]
  simp [Entity.LacksIdentifier]

section

variable (hpath : schema.HasPath path)

include hpath

/-! ### The entity at the end -/

/-- What a property refers to is registered. -/
theorem exists_leafEntity? (h : ¬ path.IsSimple) :
    ∃ entity, schema.leafEntity? path = some entity := by
  cases hleaf : path.leaf? with
  | none => exact ⟨path.root, by rw [leafEntity?, hleaf]⟩
  | some property =>
      obtain ⟨segment, hsegment, rfl⟩ := Option.map_eq_some_iff.mp hleaf
      obtain ⟨howner, hproperty⟩ := hpath.hasSegment hwell segment (List.mem_of_mem_head? hsegment)
      cases htarget : segment.property.shape.target? with
      | none => exact absurd ⟨segment.property, hleaf, Shape.target?_eq_none_iff.mp htarget⟩ h
      | some id =>
          obtain ⟨related, hrelated⟩ := hwell.exists_target _ _ howner _ hproperty id htarget
          refine ⟨related, ?_⟩
          rw [leafEntity?, hleaf]
          exact Option.bind_eq_some_iff.mpr ⟨id, htarget, hrelated⟩

theorem exists_requiredLeafEntity (h : ¬ path.IsSimple) :
    ∃ entity, schema.leafEntity? path = some entity ∧
      schema.requiredLeafEntity path = .ok entity := by
  obtain ⟨entity, hentity⟩ := hwell.exists_leafEntity? hpath h
  exact ⟨entity, hentity, requiredLeafEntity_eq_ok_iff.mpr hentity⟩

theorem failsExactlyIf_requiredLeafEntity :
    FailsExactlyIf .illegalState path.IsSimple (schema.requiredLeafEntity path) := by
  by_cases hsimple : path.IsSimple
  · rw [requiredLeafEntity_of_isSimple hsimple]
    exact .of_error rfl hsimple
  · obtain ⟨entity, -, hentity⟩ := hwell.exists_requiredLeafEntity hpath hsimple
    exact .of_succeeds ⟨entity, hentity⟩ hsimple

theorem endsUnidentified_iff :
    schema.EndsUnidentified path ↔ schema.hasIdentifier path = false := by
  by_cases hsimple : path.IsSimple
  · have hnone : schema.leafEntity? path = none := by
      rw [Option.eq_none_iff_forall_ne_some]
      intro entity hentity
      rw [← requiredLeafEntity_eq_ok_iff, requiredLeafEntity_of_isSimple hsimple] at hentity
      cases hentity
    refine iff_of_true (.inl hsimple) ?_
    rw [hasIdentifier, hnone]
    rfl
  · obtain ⟨entity, hentity⟩ := hwell.exists_leafEntity? hpath hsimple
    have hregistered := leafEntity_registered hwell hpath hentity
    rw [EndsUnidentified, or_iff_right hsimple, hasIdentifier, hentity, Option.any_some,
      hwell.hasIdentifier_eq_false_iff hregistered]
    simp

theorem failsExactlyIf_requiredIdentifier :
    FailsExactlyIf .illegalState (schema.EndsUnidentified path)
      (schema.requiredIdentifier path) := by
  by_cases hsimple : path.IsSimple
  · rw [requiredIdentifier, requiredLeafEntity_of_isSimple hsimple]
    exact .of_error rfl (.inl hsimple)
  · obtain ⟨entity, hentity, hrequired⟩ := hwell.exists_requiredLeafEntity hpath hsimple
    rw [hwell.endsUnidentified_iff hpath, requiredIdentifier, hrequired, hasIdentifier, hentity,
      Option.any_some]
    change FailsExactlyIf _ _ entity.requiredIdentifier
    rw [Entity.requiredIdentifier]
    cases hhas : entity.hasIdentifier with
    | false =>
        have hnone : entity.identifier? = none := by
          rw [Entity.identifier?, Option.not_isSome_iff_eq_none.mp (Bool.eq_false_iff.mp hhas)]
          rfl
        rw [hnone]
        exact .of_error rfl rfl
    | true =>
        obtain ⟨property, hproperty⟩ :=
          hwell.exists_identifier (leafEntity_registered hwell hpath hentity) hhas
        rw [hproperty]
        exact .of_ok (by simp)

theorem failsExactlyIf_identifierColumn :
    FailsExactlyIf .illegalState (schema.EndsUnidentified path) (schema.identifierColumn path) :=
  (hwell.failsExactlyIf_requiredIdentifier hpath).bind fun property _ => succeeds_pure property.column

/-! ### Ancestors and columns -/

theorem failsExactlyIf_parent :
    FailsExactlyIf .illegalState (path.isRoot = true) (schema.parent path) := by
  cases hroot : path.isRoot with
  | true =>
      rw [parent_of_isRoot hroot]
      exact .of_error rfl rfl
  | false =>
      rw [hwell.parent_eq hpath hroot]
      exact .of_ok Bool.false_ne_true

theorem failsExactlyIf_identifierParent :
    FailsExactlyIf .illegalState (path.isRoot = true) (schema.identifierParent path) := by
  cases hroot : path.isRoot with
  | true =>
      rw [identifierParent_of_isRoot hroot]
      exact .of_error rfl rfl
  | false =>
      obtain ⟨steps, hsteps, -⟩ := hwell.identifierParent_isLeast hpath hroot
      rw [hsteps]
      exact .of_ok Bool.false_ne_true

/-- The identifying parent is the root or leads to an entity. -/
theorem succeeds_requiredLeafEntity_identifierParent {parent : Path}
    (h : schema.identifierParent path = .ok parent) :
    Succeeds (schema.requiredLeafEntity parent) := by
  cases hroot : path.isRoot with
  | true =>
      rw [identifierParent_of_isRoot hroot] at h
      cases h
  | false =>
      obtain ⟨steps, hsteps, hleast⟩ := hwell.identifierParent_isLeast hpath hroot
      rw [hsteps] at h
      cases h
      -- It is the nearest ancestor that is the root or has an identifier, which only entities do.
      obtain hempty | ⟨entity, hentity, -⟩ := hleast.1.2
      · exact ⟨_, requiredLeafEntity_eq_ok_iff.mpr (leafEntity?_of_isRoot hempty)⟩
      · exact ⟨entity, requiredLeafEntity_eq_ok_iff.mpr hentity⟩

theorem failsExactlyIf_reverseColumn :
    FailsExactlyIf .illegalState (path.isRoot = true) (schema.reverseColumn path) := by
  unfold reverseColumn
  cases hleaf : path.leaf? with
  | none => exact .of_error rfl (Path.isRoot_iff.mpr hleaf)
  | some property =>
      cases hcolumn : property.reverseColumn with
      | some column =>
          simp only [hcolumn]
          exact .of_ok (by simp [Path.isRoot_of_leaf? hleaf])
      | none =>
          simp only [hcolumn]
          refine (hwell.failsExactlyIf_identifierParent hpath).bind fun parent hparent => ?_
          obtain ⟨entity, hentity⟩ :=
            hwell.succeeds_requiredLeafEntity_identifierParent hpath hparent
          rw [hentity]
          exact succeeds_pure _

theorem succeeds_keyColumn : Succeeds (schema.keyColumn path) := by
  unfold keyColumn
  cases hleaf : path.leaf? with
  | none => exact succeeds_ok _
  | some property =>
      cases hkeyed : property.shape.isKeyed with
      | false => simp [hkeyed]
      | true =>
          cases hcolumn : property.keyColumn with
          | some column => simp [hkeyed, hcolumn]
          | none =>
              obtain ⟨reverse, hreverse⟩ := (hwell.failsExactlyIf_reverseColumn hpath).succeeds
                (by simp [Path.isRoot_of_leaf? hleaf])
              simp only [hkeyed, hcolumn, hreverse]
              exact succeeds_pure _

omit hwell hpath in
theorem failsExactlyIf_columnName :
    FailsExactlyIf .illegalState (path.isRoot = true) path.columnName := by
  unfold Path.columnName Path.isRoot
  cases path.climb with
  | nil => exact .of_error rfl rfl
  | cons leaf parents => exact .of_ok Bool.false_ne_true

/-! ### The table -/

theorem exists_tableOwner : ∃ owner, schema.tableOwner path = .ok owner := by
  obtain ⟨steps, hsteps, -⟩ := hwell.tableOwner_isLeast hpath
  exact ⟨_, hsteps⟩

theorem succeeds_qualifiedTable : Succeeds (schema.qualifiedTable path) := by
  obtain ⟨owner, howner⟩ := hwell.exists_tableOwner hpath
  have htable := (hwell.exists_climb_eq hpath howner).2.1
  obtain ⟨entity, -, hentity⟩ :=
    hwell.exists_requiredLeafEntity (hwell.hasPath_tableOwner hpath howner) htable.not_isSimple
  rw [qualifiedTable, howner]
  change Succeeds (schema.requiredLeafEntity owner >>= _)
  rw [hentity]
  exact succeeds_pure _

theorem succeeds_tableAlias : Succeeds (schema.tableAlias path) := by
  obtain ⟨owner, howner⟩ := hwell.exists_tableOwner hpath
  rw [tableAlias, howner]
  exact succeeds_pure _

theorem failsExactlyIf_columnAlias :
    FailsExactlyIf .illegalState (path.isRoot = true) (schema.columnAlias path) := by
  refine failsExactlyIf_columnName.bind fun column _ => ?_
  obtain ⟨label, hlabel⟩ := hwell.succeeds_tableAlias hpath
  rw [hlabel]
  cases label <;> exact succeeds_pure _

variable (howner : schema.tableOwner path = .ok owner)

include howner

/-- The root of a path needs an identifier to identify the rows of its own table. -/
theorem failsExactlyIf_effectiveIdentifier :
    FailsExactlyIf .illegalState (owner.isRoot = true ∧ path.root.LacksIdentifier)
      (schema.effectiveIdentifier path) := by
  have hown := hwell.hasPath_tableOwner hpath howner
  rw [effectiveIdentifier, howner]
  change FailsExactlyIf _ _
    (if owner.isRoot = true then schema.identifierColumn owner else schema.reverseColumn owner)
  cases hroot : owner.isRoot with
  | true =>
      have hends : schema.EndsUnidentified owner ↔ true = true ∧ path.root.LacksIdentifier := by
        have hsimple : ¬ owner.IsSimple := (Path.hasTable_of_isRoot hroot).not_isSimple
        simp [EndsUnidentified, hsimple, leafEntity?_of_isRoot hroot,
          (hwell.exists_climb_eq hpath howner).1]
      rw [if_pos rfl, ← hends]
      exact hwell.failsExactlyIf_identifierColumn hown
  | false =>
      rw [if_neg Bool.false_ne_true]
      refine .of_succeeds ((hwell.failsExactlyIf_reverseColumn hown).succeeds ?_) ?_
      · simp [hroot]
      · simp

/-! ### What is told about the table -/

omit howner in
theorem reverseColumn?_eq :
    schema.reverseColumn? path = .ok (schema.reverseColumn path).toOption := by
  have hfails := hwell.failsExactlyIf_reverseColumn hpath
  unfold reverseColumn?
  cases hroot : path.isRoot with
  | true =>
      rw [if_pos rfl, hfails.toOption_eq_none_iff.mpr hroot]
      rfl
  | false =>
      obtain ⟨column, hcolumn⟩ := hfails.succeeds (by simp [hroot])
      rw [if_neg Bool.false_ne_true, hcolumn]
      rfl

omit howner in
theorem identifierColumn?_eq :
    schema.identifierColumn? path = .ok (schema.identifierColumn path).toOption := by
  have hfails := hwell.failsExactlyIf_identifierColumn hpath
  have hends := hwell.endsUnidentified_iff hpath
  unfold identifierColumn?
  cases hhas : schema.hasIdentifier path with
  | false =>
      rw [if_neg Bool.false_ne_true, hfails.toOption_eq_none_iff.mpr (hends.mpr hhas)]
      rfl
  | true =>
      obtain ⟨column, hcolumn⟩ := hfails.succeeds (by simp [hends, hhas])
      rw [if_pos rfl, hcolumn]
      rfl

theorem toOption_effectiveIdentifier :
    (schema.effectiveIdentifier path).toOption =
      ((schema.reverseColumn owner).toOption <|> (schema.identifierColumn owner).toOption) := by
  have hfails := hwell.failsExactlyIf_reverseColumn (hwell.hasPath_tableOwner hpath howner)
  rw [effectiveIdentifier, howner]
  change (if owner.isRoot = true then schema.identifierColumn owner
    else schema.reverseColumn owner).toOption = _
  cases hroot : owner.isRoot with
  | true =>
      rw [if_pos rfl, hfails.toOption_eq_none_iff.mpr hroot]
      rfl
  | false =>
      obtain ⟨column, hcolumn⟩ := hfails.succeeds (by simp [hroot])
      rw [if_neg Bool.false_ne_true, hcolumn]
      rfl

/-- All that is told about the table of a path is what the single questions answer, where a question
that fails leaves its part open. -/
theorem exists_tableInfo :
    ∃ info, schema.tableInfo path = .ok info ∧
      schema.qualifiedTable path = .ok info.table ∧
      schema.tableAlias path = .ok info.aliasName ∧
      (schema.reverseColumn owner).toOption = info.reverseColumn ∧
      schema.keyColumn owner = .ok info.keyColumn ∧
      (schema.identifierColumn owner).toOption = info.identifierColumn ∧
      (schema.effectiveIdentifier path).toOption = info.effectiveIdentifier := by
  have hown := hwell.hasPath_tableOwner hpath howner
  obtain ⟨table, htable⟩ := hwell.succeeds_qualifiedTable hpath
  obtain ⟨label, hlabel⟩ := hwell.succeeds_tableAlias hpath
  obtain ⟨key, hkey⟩ := hwell.succeeds_keyColumn hown
  refine ⟨⟨table, label, (schema.reverseColumn owner).toOption, key,
    (schema.identifierColumn owner).toOption, (schema.effectiveIdentifier path).toOption⟩, ?_,
    htable, hlabel, rfl, hkey, rfl, rfl⟩
  rw [tableInfo, howner]
  change (schema.reverseColumn? owner >>= fun reverse => _) = _
  rw [hwell.reverseColumn?_eq hown]
  change (schema.identifierColumn? owner >>= fun identifier => _) = _
  rw [hwell.identifierColumn?_eq hown]
  change (schema.qualifiedTable owner >>= fun table => schema.tableAlias owner >>= fun label =>
    schema.keyColumn owner >>= fun key => _) = _
  rw [hwell.qualifiedTable_tableOwner hpath howner, htable,
    hwell.tableAlias_tableOwner hpath howner, hlabel, hkey,
    hwell.toOption_effectiveIdentifier hpath howner]
  rfl

end

end WellFormed

end Schema

end EntityQuery
