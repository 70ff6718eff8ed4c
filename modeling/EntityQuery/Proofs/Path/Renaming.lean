import EntityQuery.Proofs.Path.Ancestor

/-!
# Renumbered entities

The numbers of entities depend on the order in which types are registered, their names do not.  A
schema embeds in another when its entities stand there under other numbers.  Paths are then resolved
alike in both, with the same errors, and have the same ancestors up to the numbers.
-/

namespace EntityQuery

variable (f : EntityId → EntityId)

/-! ### New numbers -/

def Property.rename (property : Property) : Property :=
  { property with owner := f property.owner, shape := property.shape.map f }

def Entity.rename (entity : Entity) : Entity :=
  { entity with id := f entity.id, properties := entity.properties.map (Property.rename f) }

def Segment.rename (segment : Segment) : Segment :=
  ⟨segment.owner.rename f, segment.property.rename f⟩

def Path.rename (path : Path) : Path :=
  ⟨path.root.rename f, path.climb.map (Segment.rename f)⟩

namespace Shape

variable {ε δ : Type} (g : ε → δ) (shape : Shape ε)

@[simp] theorem target?_map : (shape.map g).target? = shape.target?.map g := by cases shape <;> rfl

@[simp] theorem lead?_map : (shape.map g).lead? = shape.lead? := by cases shape <;> rfl

@[simp] theorem isSimple_map : (shape.map g).isSimple = shape.isSimple := by cases shape <;> rfl

@[simp] theorem isEmbedded_map : (shape.map g).isEmbedded = shape.isEmbedded := by
  cases shape <;> rfl

@[simp] theorem isKeyed_map : (shape.map g).isKeyed = shape.isKeyed := by
  cases shape with
  | collection kind element => cases kind <;> rfl
  | _ => rfl

@[simp] theorem ownsTable_map : (shape.map g).ownsTable = shape.ownsTable := by cases shape <;> rfl

end Shape

section

variable (property : Property)

@[simp] theorem Property.name_rename : (property.rename f).name = property.name := rfl

@[simp] theorem Property.column_rename : (property.rename f).column = property.column := rfl

@[simp] theorem Property.reverseColumn_rename :
    (property.rename f).reverseColumn = property.reverseColumn := rfl

@[simp] theorem Property.keyColumn_rename :
    (property.rename f).keyColumn = property.keyColumn := rfl

@[simp] theorem Property.shape_rename : (property.rename f).shape = property.shape.map f := rfl

end

section

variable (entity : Entity)

@[simp] theorem Entity.hasIdentifier_rename :
    (entity.rename f).hasIdentifier = entity.hasIdentifier := rfl

theorem Entity.property?_rename (name : String) :
    (entity.rename f).property? name = (entity.property? name).map (Property.rename f) := by
  unfold property?
  change (entity.properties.map (Property.rename f)).find? _ = _
  rw [List.find?_map]
  rfl

theorem Entity.identifier?_rename :
    (entity.rename f).identifier? = entity.identifier?.map (Property.rename f) := by
  unfold identifier? propertyAt?
  change entity.identifierIndex.bind
    (fun index => (entity.properties.map (Property.rename f))[index]?) = _
  cases entity.identifierIndex with
  | none => rfl
  | some index => simp

theorem Entity.requiredIdentifier_rename :
    (entity.rename f).requiredIdentifier =
      entity.requiredIdentifier.map (Property.rename f) := by
  unfold requiredIdentifier
  rw [identifier?_rename]
  cases entity.identifier? <;> rfl

end

@[simp] theorem Segment.property_rename (segment : Segment) :
    (segment.rename f).property = segment.property.rename f := rfl

@[simp] theorem Segment.label_rename (segment : Segment) :
    (segment.rename f).label = segment.label := by
  simp [label]

namespace Path

variable (path : Path)

@[simp] theorem climb_rename : (path.rename f).climb = path.climb.map (Segment.rename f) := rfl

@[simp] theorem length_rename : (path.rename f).length = path.length := by simp [length]

@[simp] theorem isRoot_rename : (path.rename f).isRoot = path.isRoot := by simp [isRoot]

@[simp] theorem above_rename (steps : Nat) :
    (path.rename f).above steps = (path.above steps).rename f := by
  simp [above, rename]

theorem leaf?_rename : (path.rename f).leaf? = path.leaf?.map (Property.rename f) := by
  unfold leaf?
  rw [climb_rename, List.head?_map, Option.map_map, Option.map_map]
  rfl

@[simp] theorem names_rename : (path.rename f).names = path.names := by
  unfold names segments
  rw [climb_rename, ← List.map_reverse, List.map_map]
  rfl

@[simp] theorem dotted_rename : (path.rename f).dotted = path.dotted := by
  rw [dotted, dotted, names_rename]

@[simp] theorem text_rename : (path.rename f).text = path.text := by
  unfold text outline
  rw [isRoot_rename, dotted_rename]
  rfl

@[simp] theorem isEntity_rename : (path.rename f).isEntity = path.isEntity := by
  unfold isEntity
  rw [leaf?_rename]
  cases path.leaf? <;> simp

end Path

theorem Schema.storesRows_rename (path : Path) :
    storesRows (path.rename f) = storesRows path := by
  unfold storesRows
  rw [Path.leaf?_rename]
  cases path.leaf? <;> simp

/-! ### Schemas under other numbers -/

/-- The entities of the small schema stand in the large one, with their numbers renamed. -/
structure Schema.Embeds (f : EntityId → EntityId) (small large : Schema) : Prop where
  naming : large.naming = small.naming
  entity : ∀ id entity, small.entity? id = some entity →
    large.entity? (f id) = some (entity.rename f)

namespace Schema.Embeds

variable {f} {small large : Schema} {path : Path} {root entity : Entity}
  (h : Embeds f small large) (hwell : small.WellFormed)

include h in
theorem required {id : EntityId} (hentity : small.entity? id = some entity) :
    large.required (f id) = (small.required id).map (Entity.rename f) := by
  rw [required_eq_ok_iff.mpr (h.entity id entity hentity), required_eq_ok_iff.mpr hentity]
  rfl

include h hwell

theorem walk {whole : String} {names : List String}
    (hentity : small.entity? entity.id = some entity) :
    large.walk whole (entity.rename f) names =
      (small.walk whole entity names).map (List.map (Segment.rename f)) := by
  induction names generalizing entity with
  | nil => rfl
  | cons name names ih =>
      rw [Schema.walk.eq_def, Schema.walk.eq_def]
      dsimp only
      rw [Entity.property?_rename]
      cases hproperty : entity.property? name with
      | none => rfl
      | some property =>
          simp only [Option.map_some]
          cases names with
          | nil => rfl
          | cons next names =>
              simp only [Property.shape_rename, Shape.target?_map]
              cases htarget : property.shape.target? with
              | none => rfl
              | some id =>
                  obtain ⟨related, hrelated⟩ := hwell.exists_target entity.id entity hentity
                    property (mem_properties_of_property? hproperty) id htarget
                  have hid : small.entity? related.id = some related := by
                    rw [hwell.id_eq id related hrelated, hrelated]
                  simp only [Option.map_some, h.required hrelated, required_eq_ok_iff.mpr hrelated]
                  change (large.walk whole (related.rename f) (next :: names) >>= _) = _
                  rw [ih hid]
                  change _ = Except.map _ (small.walk whole related (next :: names) >>= _)
                  cases small.walk whole related (next :: names) <;> rfl

/-- A path is resolved alike, or fails with the same error. -/
theorem resolve (text : String) (hroot : small.entity? root.id = some root) :
    large.resolve (root.rename f) text = (small.resolve root text).map (Path.rename f) := by
  unfold Schema.resolve
  split
  · rfl
  · rw [h.walk hwell hroot]
    cases small.walk text root (Text.pieces '.' text) with
    | error error => rfl
    | ok segments =>
        change Except.ok _ = Except.ok _
        simp [Path.rename]

/-! ### Leaves -/

theorem leafEntity? (hpath : small.HasPath path) :
    large.leafEntity? (path.rename f) = (small.leafEntity? path).map (Entity.rename f) := by
  unfold Schema.leafEntity?
  rw [Path.leaf?_rename]
  cases hleaf : path.leaf? with
  | none => rfl
  | some property =>
      obtain ⟨segment, hsegment, rfl⟩ := Option.map_eq_some_iff.mp hleaf
      obtain ⟨howner, hproperty⟩ :=
        hpath.hasSegment hwell segment (List.mem_of_mem_head? hsegment)
      simp only [Option.map_some, Property.shape_rename, Shape.target?_map]
      cases htarget : segment.property.shape.target? with
      | none => rfl
      | some id =>
          obtain ⟨related, hrelated⟩ := hwell.exists_target _ _ howner _ hproperty id htarget
          simp [hrelated, h.entity id related hrelated]

theorem hasIdentifier (hpath : small.HasPath path) :
    large.hasIdentifier (path.rename f) = small.hasIdentifier path := by
  unfold Schema.hasIdentifier
  rw [h.leafEntity? hwell hpath]
  cases small.leafEntity? path <;> simp

theorem hasPath (hpath : small.HasPath path) : large.HasPath (path.rename f) := by
  induction hpath using HasPath.induction with
  | root path hpath hroot =>
      refine ⟨h.entity _ _ hpath.root, ?_⟩
      rw [Path.climb_rename, List.isEmpty_iff.mp hroot]
      exact .root
  | step path hpath hroot ih =>
      have hleaf := h.leafEntity? hwell (hpath.above 1)
      obtain ⟨root, climb⟩ := path
      obtain ⟨hregistered, hfollows⟩ := hpath
      cases hfollows with
      | root => cases hroot
      | @step parents owner property hparents howner hproperty =>
          have howner' : small.leafEntity?
              ((⟨root, ⟨owner, property⟩ :: parents⟩ : Path).above 1) = some owner := howner
          rw [howner', Option.map_some] at hleaf
          exact ⟨h.entity _ _ hregistered,
            .step ih.follows hleaf (List.mem_map.mpr ⟨property, hproperty, rfl⟩)⟩

/-! ### Ancestors -/

variable (hlarge : large.WellFormed)

include hlarge

theorem parent (hpath : small.HasPath path) :
    large.parent (path.rename f) = (small.parent path).map (Path.rename f) := by
  cases hroot : path.isRoot with
  | true =>
      rw [WellFormed.parent_of_isRoot hroot, WellFormed.parent_of_isRoot (by simpa using hroot)]
      rfl
  | false =>
      rw [hwell.parent_eq hpath hroot,
        hlarge.parent_eq (h.hasPath hwell hpath) (by simpa using hroot), Path.above_rename]
      rfl

theorem identifierParent (hpath : small.HasPath path) :
    large.identifierParent (path.rename f) = (small.identifierParent path).map (Path.rename f) := by
  induction hpath using HasPath.induction with
  | root path hpath hroot =>
      rw [WellFormed.identifierParent_of_isRoot hroot,
        WellFormed.identifierParent_of_isRoot (by simpa using hroot)]
      rfl
  | step path hpath hroot ih =>
      rw [hwell.identifierParent_eq hpath hroot,
        hlarge.identifierParent_eq (h.hasPath hwell hpath) (by simpa using hroot),
        Path.above_rename, Path.isRoot_rename, h.hasIdentifier hwell (hpath.above 1), ih]
      split <;> rfl

theorem tableOwner (hpath : small.HasPath path) :
    large.tableOwner (path.rename f) = (small.tableOwner path).map (Path.rename f) := by
  induction hpath using HasPath.induction with
  | root path hpath hroot =>
      have hrows : storesRows path = true := storesRows_iff.mpr (Path.hasTable_of_isRoot hroot)
      rw [hwell.tableOwner_eq hpath, hlarge.tableOwner_eq (h.hasPath hwell hpath),
        storesRows_rename, if_pos hrows, if_pos hrows]
      rfl
  | step path hpath hroot ih =>
      rw [hwell.tableOwner_eq hpath, hlarge.tableOwner_eq (h.hasPath hwell hpath),
        storesRows_rename, Path.above_rename, ih]
      split <;> rfl

end Schema.Embeds

end EntityQuery
