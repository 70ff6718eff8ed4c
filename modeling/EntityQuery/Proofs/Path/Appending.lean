import EntityQuery.Proofs.Path.Ancestor
import EntityQuery.Proofs.Text.Pieces

/-!
# Paths put together name by name

A dotted path is followed in one walk that looks ahead, and can as well be put together by appending
one name after another.  The two look for faults in a different order, but they find a path for the
same names, and it is the same path.
-/

namespace EntityQuery

open Result

namespace Path

@[simp]
theorem names_ofRoot (root : Entity) : (ofRoot root).names = [] := rfl

@[simp]
theorem names_push (path : Path) (segment : Segment) :
    (path.push segment).names = path.names ++ [segment.property.name] := by
  simp [names, segments, push]

end Path

namespace Schema

variable {schema : Schema} {path other : Path} {root entity : Entity} {property : Property}

theorem name_of_property? {name : String} (h : entity.property? name = some property) :
    property.name = name := by
  unfold Entity.property? at h
  simpa using List.find?_some h

theorem isEntity_of_leafEntity? (h : schema.leafEntity? path = some entity) :
    path.isEntity = true := by
  unfold leafEntity? at h
  unfold Path.isEntity
  cases hleaf : path.leaf? with
  | none => rfl
  | some property =>
      rw [hleaf] at h
      obtain ⟨id, hid, -⟩ := Option.bind_eq_some_iff.mp h
      simp [Shape.isSimple_eq_false_of_target? hid]

/-- Appending looks the name up in the entity at the end of the path. -/
theorem append_eq (name : String) (h : schema.leafEntity? path = some entity) :
    schema.append path name =
      match entity.property? name with
      | some property => .ok (path.push ⟨entity, property⟩)
      | none => .error (.noProperty name entity.name none) := by
  unfold append
  rw [isEntity_of_leafEntity? h, requiredLeafEntity_eq_ok_iff.mpr h]
  rfl

/-- Nothing is appended to a property that leads to no entity. -/
theorem append_of_simple (name : String) (h : property.shape.target? = none) :
    schema.append (path.push ⟨entity, property⟩) name =
      .error (.appendToSimple name (path.push ⟨entity, property⟩).text) := by
  have hentity : (path.push ⟨entity, property⟩).isEntity = false := by
    simp [Path.isEntity, Path.leaf?, Path.push, Shape.target?_eq_none_iff.mp h]
  rw [append, hentity]
  rfl

theorem names_append {name : String} (h : schema.append path name = .ok other) :
    other.names = path.names ++ [name] := by
  unfold append at h
  split at h
  · cases h
  · obtain ⟨entity, -, h⟩ := bind_eq_ok.mp h
    cases hproperty : entity.property? name with
    | none =>
        rw [hproperty] at h
        cases h
    | some property =>
        rw [hproperty] at h
        cases h
        rw [Path.names_push, name_of_property? hproperty]

theorem names_foldlM_append {names : List String}
    (h : names.foldlM schema.append path = .ok other) : other.names = path.names ++ names := by
  induction names generalizing path with
  | nil =>
      cases h
      rw [List.append_nil]
  | cons name names ih =>
      rw [List.foldlM_cons] at h
      obtain ⟨middle, hmiddle, h⟩ := bind_eq_ok.mp h
      rw [ih h, names_append hmiddle, List.append_assoc, List.singleton_append]

namespace WellFormed

variable (hwell : schema.WellFormed)

include hwell

/-- What is found by its name stands at its place. -/
theorem propertyAt?_of_property? {name : String} (hentity : entity ∈ schema.entities)
    (h : entity.property? name = some property) :
    entity.propertyAt? property.index = some property := by
  obtain ⟨index, hplace⟩ := List.mem_iff_getElem?.mp (mem_properties_of_property? h)
  rw [hwell.index_eq entity.id entity (hwell.entity?_of_mem hentity) index property hplace]
  exact hplace

/-- From the end of a path, the walk goes where appending the names leads to. -/
theorem walk_agreesAs (whole : String) (names : List String) (hpath : schema.HasPath path)
    (hentity : schema.leafEntity? path = some entity) :
    AgreesAs .invalidArgument
      ((schema.walk whole entity names).map fun segments =>
        (⟨path.root, segments.reverse ++ path.climb⟩ : Path))
      (names.foldlM schema.append path) := by
  induction names generalizing path entity with
  | nil => exact .ok path
  | cons name names ih =>
      rw [walk.eq_def, List.foldlM_cons, append_eq name hentity]
      cases hproperty : entity.property? name with
      | none =>
          simp only [hproperty]
          exact .error rfl rfl
      | some property =>
          simp only [hproperty]
          have hmem := mem_properties_of_property? hproperty
          cases names with
          | nil => exact .ok (path.push ⟨entity, property⟩)
          | cons next names =>
              cases htarget : property.shape.target? with
              | none =>
                  -- The walk looks ahead; appending fails one name later.
                  change AgreesAs _ _ (schema.append (path.push ⟨entity, property⟩) next >>= _)
                  rw [append_of_simple next htarget]
                  exact .error rfl rfl
              | some target =>
                  obtain ⟨related, hrelated⟩ := hwell.exists_target entity.id entity
                    (leafEntity_registered hwell hpath hentity) property hmem target htarget
                  have hleaf : schema.leafEntity? (path.push ⟨entity, property⟩) = some related :=
                    (leafEntity?_cons htarget).trans hrelated
                  have hrest := ih (hpath.push hentity hmem) hleaf
                  simp only [required_eq_ok_iff.mpr hrelated]
                  change AgreesAs _ (Except.map _ (schema.walk whole related (next :: names) >>= _))
                    ((next :: names).foldlM schema.append (path.push ⟨entity, property⟩))
                  revert hrest
                  cases schema.walk whole related (next :: names) with
                  | error error => exact id
                  | ok segments =>
                      intro hrest
                      have hclimb : (⟨entity, property⟩ :: segments).reverse ++ path.climb =
                          segments.reverse ++ (path.push ⟨entity, property⟩).climb := by
                        rw [List.reverse_cons, List.append_assoc, List.singleton_append, Path.push]
                      change AgreesAs _ (.ok (Path.mk path.root _)) _
                      rw [hclimb]
                      exact hrest

/-- A text that is not empty is resolved as its pieces are appended. -/
theorem resolve_agreesAs {text : String} (hroot : schema.entity? root.id = some root)
    (htext : text ≠ "") :
    AgreesAs .invalidArgument (schema.resolve root text)
      ((Text.pieces '.' text).foldlM schema.append (.ofRoot root)) := by
  have hleaf : schema.leafEntity? (.ofRoot root) = some root := rfl
  have hwalk := hwell.walk_agreesAs text (Text.pieces '.' text) (.ofRoot hroot) hleaf
  rw [resolve, if_neg htext]
  revert hwalk
  cases schema.walk text root (Text.pieces '.' text) with
  | error error => exact id
  | ok segments =>
      intro hwalk
      simpa [Except.map, Path.ofRoot] using hwalk

end WellFormed

theorem dotted_foldlM_append {names : List String}
    (h : names.foldlM schema.append (.ofRoot root) = .ok path) :
    path.dotted = ".".intercalate names := by
  rw [Path.dotted, names_foldlM_append h, Path.names_ofRoot, List.nil_append]

/-- What is printed of a path leads to it again, if its names can be told apart. -/
theorem WellFormed.resolve_dotted (hwell : schema.WellFormed)
    (hroot : schema.entity? root.id = some root) {names : List String}
    (h : names.foldlM schema.append (.ofRoot root) = .ok path)
    (hnames : ∀ name ∈ path.names, name ≠ "" ∧ '.' ∉ name.toList) :
    schema.resolve root path.dotted = .ok path := by
  rw [names_foldlM_append h, Path.names_ofRoot, List.nil_append] at hnames
  have hdotted := dotted_foldlM_append h
  cases names with
  | nil =>
      cases h
      rfl
  | cons name names =>
      have hpieces : Text.pieces '.' path.dotted = name :: names := by
        rw [hdotted]
        exact Text.pieces_intercalate (List.cons_ne_nil name names) fun other hother =>
          (hnames other hother).2
      have hne : path.dotted ≠ "" := by
        intro hempty
        have hfirst : name = "" ∧ names = [] := by
          rw [hempty] at hpieces
          have : Text.pieces '.' "" = [""] := by decide
          simpa [this, eq_comm] using hpieces
        exact (hnames name List.mem_cons_self).1 hfirst.1
      exact (hwell.resolve_agreesAs hroot hne).eq_ok (by rw [hpieces]; exact h)

end Schema

end EntityQuery
