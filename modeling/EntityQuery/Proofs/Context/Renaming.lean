import EntityQuery.Proofs.Context.Rendering
import EntityQuery.Proofs.Path.Renaming

/-!
# What is told under other numbers

Everything that is told about a path is told in names, so it is the same in a schema and in one that
the schema embeds in.  And so are the columns that names stand for.
-/

namespace EntityQuery

namespace Path

variable (f : EntityId → EntityId)

@[simp] theorem aliasOf_rename (climb : List Segment) :
    aliasOf (climb.map (Segment.rename f)) = aliasOf climb := by
  induction climb with
  | nil => rfl
  | cons segment parents ih =>
      cases parents with
      | nil => simp [aliasOf]
      | cons parent parents =>
          rw [List.map_cons, List.map_cons, aliasOf, aliasOf, ← List.map_cons, ih]
          simp

@[simp] theorem enclosingLeads_rename (parents : List Segment) :
    enclosingLeads (parents.map (Segment.rename f)) = enclosingLeads parents := by
  induction parents with
  | nil => rfl
  | cons segment parents ih =>
      rw [List.map_cons, enclosingLeads, enclosingLeads, ih]
      simp

@[simp] theorem columnName_rename (path : Path) : (path.rename f).columnName = path.columnName := by
  unfold columnName
  rw [climb_rename]
  cases path.climb with
  | nil => rfl
  | cons leaf parents => simp

end Path

namespace Schema.Embeds

variable {f : EntityId → EntityId} {small large : Schema} {path : Path} {root : Entity}
  (h : Embeds f small large) (hwell : small.WellFormed) (hlarge : large.WellFormed)

section

variable (hpath : small.HasPath path)

include h hwell hpath

theorem requiredLeafEntity :
    large.requiredLeafEntity (path.rename f) =
      (small.requiredLeafEntity path).map (Entity.rename f) := by
  unfold Schema.requiredLeafEntity
  rw [Path.leaf?_rename]
  cases hleaf : path.leaf? with
  | none => rfl
  | some property =>
      obtain ⟨segment, hsegment, rfl⟩ := Option.map_eq_some_iff.mp hleaf
      obtain ⟨howner, hproperty⟩ :=
        hpath.hasSegment hwell segment (List.mem_of_mem_head? hsegment)
      simp only [Option.map_some, Property.shape_rename, Shape.target?_map, Path.text_rename]
      cases htarget : segment.property.shape.target? with
      | none => rfl
      | some id =>
          obtain ⟨related, hrelated⟩ := hwell.exists_target _ _ howner _ hproperty id htarget
          exact h.required hrelated

theorem identifierColumn : large.identifierColumn (path.rename f) = small.identifierColumn path := by
  unfold Schema.identifierColumn Schema.requiredIdentifier
  rw [h.requiredLeafEntity hwell hpath]
  cases small.requiredLeafEntity path with
  | error error => rfl
  | ok entity =>
      change (Entity.rename f entity).requiredIdentifier >>= _ = entity.requiredIdentifier >>= _
      rw [Entity.requiredIdentifier_rename]
      cases entity.requiredIdentifier <;> rfl

theorem identifierColumn? :
    large.identifierColumn? (path.rename f) = small.identifierColumn? path := by
  unfold Schema.identifierColumn?
  rw [h.hasIdentifier hwell hpath, h.identifierColumn hwell hpath]

include hlarge

theorem qualifiedTable : large.qualifiedTable (path.rename f) = small.qualifiedTable path := by
  unfold Schema.qualifiedTable
  rw [h.tableOwner hwell hlarge hpath]
  cases howner : small.tableOwner path with
  | error error => rfl
  | ok owner =>
      change large.requiredLeafEntity (owner.rename f) >>= _ = small.requiredLeafEntity owner >>= _
      rw [h.requiredLeafEntity hwell (hwell.hasPath_tableOwner hpath howner)]
      cases small.requiredLeafEntity owner <;> rfl

theorem tableAlias : large.tableAlias (path.rename f) = small.tableAlias path := by
  unfold Schema.tableAlias
  rw [h.tableOwner hwell hlarge hpath]
  cases small.tableOwner path with
  | error error => rfl
  | ok owner =>
      change Except.ok _ = Except.ok _
      rw [Path.climb_rename, Path.aliasOf_rename]

theorem columnAlias : large.columnAlias (path.rename f) = small.columnAlias path := by
  unfold Schema.columnAlias
  rw [Path.columnName_rename, h.tableAlias hwell hlarge hpath]

theorem reverseColumn : large.reverseColumn (path.rename f) = small.reverseColumn path := by
  unfold Schema.reverseColumn
  rw [Path.leaf?_rename]
  cases path.leaf? with
  | none => rfl
  | some property =>
      simp only [Option.map_some, Property.reverseColumn_rename]
      cases property.reverseColumn with
      | some column => rfl
      | none =>
          dsimp only
          rw [h.identifierParent hwell hlarge hpath]
          cases hparent : small.identifierParent path with
          | error error => rfl
          | ok parent =>
              change large.requiredLeafEntity (parent.rename f) >>= _ =
                small.requiredLeafEntity parent >>= _
              rw [h.requiredLeafEntity hwell (hwell.hasPath_identifierParent hpath hparent),
                h.naming]
              cases small.requiredLeafEntity parent <;> rfl

theorem reverseColumn? : large.reverseColumn? (path.rename f) = small.reverseColumn? path := by
  unfold Schema.reverseColumn?
  rw [Path.isRoot_rename, h.reverseColumn hwell hlarge hpath]

theorem keyColumn : large.keyColumn (path.rename f) = small.keyColumn path := by
  unfold Schema.keyColumn
  rw [Path.leaf?_rename, h.reverseColumn hwell hlarge hpath]
  cases path.leaf? with
  | none => rfl
  | some property => simp

theorem effectiveIdentifier :
    large.effectiveIdentifier (path.rename f) = small.effectiveIdentifier path := by
  unfold Schema.effectiveIdentifier
  rw [h.tableOwner hwell hlarge hpath]
  cases howner : small.tableOwner path with
  | error error => rfl
  | ok owner =>
      have hown := hwell.hasPath_tableOwner hpath howner
      change (if (owner.rename f).isRoot then _ else _) = if owner.isRoot then _ else _
      rw [Path.isRoot_rename, h.identifierColumn hwell hown, h.reverseColumn hwell hlarge hown]

theorem tableInfo : large.tableInfo (path.rename f) = small.tableInfo path := by
  unfold Schema.tableInfo
  rw [h.tableOwner hwell hlarge hpath]
  cases howner : small.tableOwner path with
  | error error => rfl
  | ok owner =>
      have hown := hwell.hasPath_tableOwner hpath howner
      change large.reverseColumn? (owner.rename f) >>= _ = small.reverseColumn? owner >>= _
      rw [h.reverseColumn? hwell hlarge hown, h.identifierColumn? hwell hown,
        h.qualifiedTable hwell hlarge hown, h.tableAlias hwell hlarge hown,
        h.keyColumn hwell hlarge hown]

/-- A path has the same report under other numbers. -/
theorem report : large.report (path.rename f) = small.report path := by
  have htext : ∀ result : Result Path,
      (result.map (Path.rename f)).map Path.text = result.map Path.text := by
    intro result
    cases result with
    | error error => rfl
    | ok path => simp [Except.map]
  unfold Schema.report
  rw [h.parent hwell hlarge hpath, h.identifierParent hwell hlarge hpath,
    h.tableOwner hwell hlarge hpath, h.leafEntity? hwell hpath, h.qualifiedTable hwell hlarge hpath,
    h.tableAlias hwell hlarge hpath, h.columnAlias hwell hlarge hpath,
    h.reverseColumn hwell hlarge hpath, h.keyColumn hwell hlarge hpath,
    h.identifierColumn hwell hpath, h.effectiveIdentifier hwell hlarge hpath,
    h.tableInfo hwell hlarge hpath]
  simp only [htext, Path.length_rename, Path.dotted_rename, Path.columnName_rename,
    Path.leaf?_rename, Option.map_map]
  rfl

end

/-! ### Statements -/

include h hwell hlarge

theorem storedColumn {reference : String} {style : NameStyle} {entity another : Option Entity}
    (name : String) (hpath : small.HasPath path) :
    ColumnScope.storedColumn ⟨large, another, reference, style⟩ name (path.rename f) =
      ColumnScope.storedColumn ⟨small, entity, reference, style⟩ name path := by
  unfold ColumnScope.storedColumn
  rw [Path.isEntity_rename, Path.columnName_rename, h.tableOwner hwell hlarge hpath]
  split
  · rfl
  · cases small.tableOwner path with
    | error error => rfl
    | ok owner =>
        change (if (!(owner.rename f).isRoot) = true then _ else _) =
          if (!owner.isRoot) = true then _ else _
        rw [Path.isRoot_rename]
        rfl

/-- A name stands for the same column under other numbers. -/
theorem resolve_column {reference : String} {style : NameStyle}
    (hroot : small.entity? root.id = some root) (name : String) :
    ColumnScope.resolve ⟨large, some (root.rename f), reference, style⟩ name =
      ColumnScope.resolve ⟨small, some root, reference, style⟩ name := by
  unfold ColumnScope.resolve
  split
  · rfl
  split
  · rfl
  dsimp only
  rw [h.resolve hwell name hroot]
  cases hresolve : small.resolve root name with
  | error error => rfl
  | ok path => exact h.storedColumn hwell hlarge name (hasPath_resolve hroot hresolve).1

/-- A selection of an entity is written alike under other numbers. -/
theorem matches_rename {n : Nat} {registry : Registry n} {dialect : Dialect} {query : Query}
    {distinct : Bool} (hregistry : registry.schema = large)
    (hroot : small.entity? root.id = some root) :
    Inquiry.Matches registry ⟨dialect, registry.schema⟩ ⟨dialect, small⟩
      { Selection.ofEntity (root.rename f) with query, distinct }
      { Selection.ofEntity root with query, distinct } where
  dialect := rfl
  table := rfl
  query := rfl
  distinct := rfl
  countTarget := by
    unfold Renderer.countTarget
    simp only [Selection.ofEntity, Option.bind_some, Entity.identifier?_rename]
    cases root.identifier? <;> rfl
  scope := by
    subst hregistry
    have hself : Inquiry.Agrees registry
        (Renderer.scope ⟨dialect, registry.schema⟩
          { Selection.ofEntity (root.rename f) with query, distinct })
        (Renderer.scope ⟨dialect, registry.schema⟩
          { Selection.ofEntity (root.rename f) with query, distinct }) := by
      refine Inquiry.agrees_self hlarge rfl fun entity hentity => ?_
      obtain rfl : root.rename f = entity := Option.some.inj hentity
      exact h.entity _ _ hroot
    exact hself.of_resolve_eq rfl rfl fun name => h.resolve_column hwell hlarge hroot name

end Schema.Embeds

end EntityQuery
