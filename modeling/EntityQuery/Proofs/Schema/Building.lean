import EntityQuery.Proofs.Checked
import EntityQuery.Schema.Entity
import Mathlib.Data.List.Nodup

/-!
# What a declaration becomes

An entity is built property by property, with the checks in between.  The checks look at the
declaration alone, not at the numbers that types have; and the entity, if they pass, is given by the
declaration at once.  So the numbers decide neither whether an entity is built nor with which error
it is refused.
-/

namespace EntityQuery

variable {ε : Type}

/-! ### The entity -/

/-- What a property becomes at this place of its owner. -/
def PropertyDeclaration.property (naming : Naming) (owner : EntityId) (index : Nat)
    (declaration : PropertyDeclaration EntityId) : Property where
  name := declaration.name
  owner := owner
  index := index
  shape := declaration.shape
  column := naming.identifier (declaration.column.getD (Naming.columnName declaration.name))
  reverseColumn := declaration.reverseColumn.map naming.identifier
  keyColumn := declaration.keyColumn.map naming.identifier
  isIdentifier := declaration.isIdentifier

namespace EntityDeclaration

def tableName (declaration : EntityDeclaration ε) : String :=
  declaration.table.getD (Naming.tableName declaration.name)

/-- What the declaration becomes once its types have numbers. -/
def entity (naming : Naming) (id : EntityId) (declaration : EntityDeclaration EntityId) :
    Entity where
  id := id
  name := declaration.name
  table := naming.identifier declaration.tableName
  properties := declaration.properties.mapIdx (PropertyDeclaration.property naming id)
  identifierIndex := declaration.properties.findIdx? PropertyDeclaration.isIdentifier

end EntityDeclaration

/-! ### The checks -/

namespace PropertyDeclaration

/-- The checks of one property behind others. -/
def checkBehind (entity : String) (before : List (PropertyDeclaration ε))
    (declaration : PropertyDeclaration ε) : Result Unit :=
  if before.any fun property => property.name == declaration.name then
    .error (.duplicateProperty declaration.name entity)
  else if !declaration.isIdentifier then .ok ()
  else if !declaration.shape.isSimple then .error (.identifierNotSimple declaration.name entity)
  else if before.any isIdentifier then .error (.severalIdentifiers entity)
  else .ok ()

def checkAll (entity : String) :
    List (PropertyDeclaration ε) → List (PropertyDeclaration ε) → Result Unit
  | _, [] => .ok ()
  | before, declaration :: rest => do
      checkBehind entity before declaration
      checkAll entity (before ++ [declaration]) rest

/-- Properties that one entity can have together. -/
structure Compatible (declarations : List (PropertyDeclaration ε)) : Prop where
  names : (declarations.map name).Nodup
  identifiers : (declarations.filter isIdentifier).length ≤ 1
  simple : ∀ declaration ∈ declarations,
    declaration.isIdentifier = true → declaration.shape.isSimple = true

theorem compatible_nil : Compatible ([] : List (PropertyDeclaration ε)) :=
  ⟨List.nodup_nil, Nat.zero_le 1, by simp⟩

theorem Compatible.left {first second : List (PropertyDeclaration ε)}
    (h : Compatible (first ++ second)) : Compatible first where
  names := by
    have hnames := h.names
    rw [List.map_append] at hnames
    exact List.Nodup.of_append_left hnames
  identifiers := by
    have hidentifiers := h.identifiers
    rw [List.filter_append, List.length_append] at hidentifiers
    omega
  simple := fun declaration hmem => h.simple declaration (List.mem_append_left _ hmem)

section Behind

variable {before : List (PropertyDeclaration ε)} {declaration : PropertyDeclaration ε}

theorem nodup_names_concat_iff :
    ((before ++ [declaration]).map name).Nodup ↔
      (before.map name).Nodup ∧ ∀ property ∈ before, property.name ≠ declaration.name := by
  rw [List.map_append, List.map_singleton, List.nodup_append]
  simp

theorem length_identifiers_concat_le_iff :
    ((before ++ [declaration]).filter isIdentifier).length ≤ 1 ↔
      (before.filter isIdentifier).length ≤ 1 ∧
        (declaration.isIdentifier = true → ∀ property ∈ before, property.isIdentifier = false) := by
  have hnone : (∀ property ∈ before, property.isIdentifier = false) ↔
      (before.filter isIdentifier).length = 0 := by
    rw [List.length_eq_zero_iff, List.filter_eq_nil_iff]
    simp
  rw [hnone, List.filter_append, List.length_append]
  cases hidentifier : declaration.isIdentifier with
  | true =>
      rw [List.filter_cons_of_pos hidentifier, List.filter_nil, List.length_singleton]
      simp only [true_implies]
      omega
  | false =>
      rw [List.filter_cons_of_neg (by simp [hidentifier]), List.filter_nil, List.length_nil]
      simp

theorem compatible_concat_iff :
    Compatible (before ++ [declaration]) ↔
      Compatible before ∧ (∀ property ∈ before, property.name ≠ declaration.name) ∧
        (declaration.isIdentifier = true → declaration.shape.isSimple = true ∧
          ∀ property ∈ before, property.isIdentifier = false) := by
  constructor
  · rintro ⟨hnames, hidentifiers, hsimple⟩
    rw [nodup_names_concat_iff] at hnames
    rw [length_identifiers_concat_le_iff] at hidentifiers
    rw [List.forall_mem_append, List.forall_mem_singleton] at hsimple
    exact ⟨⟨hnames.1, hidentifiers.1, hsimple.1⟩, hnames.2,
      fun h => ⟨hsimple.2 h, hidentifiers.2 h⟩⟩
  · rintro ⟨⟨hnames, hidentifiers, hsimple⟩, hnew, hidentifier⟩
    refine ⟨nodup_names_concat_iff.mpr ⟨hnames, hnew⟩,
      length_identifiers_concat_le_iff.mpr ⟨hidentifiers, fun h => (hidentifier h).2⟩, ?_⟩
    rw [List.forall_mem_append, List.forall_mem_singleton]
    exact ⟨hsimple, fun h => (hidentifier h).1⟩

theorem checkBehind_eq_ok_iff {entity : String} (hbefore : Compatible before) :
    checkBehind entity before declaration = .ok () ↔ Compatible (before ++ [declaration]) := by
  have hnames : (before.any fun property => property.name == declaration.name) = false ↔
      ∀ property ∈ before, property.name ≠ declaration.name := by
    simp
  have hnone : before.any isIdentifier = false ↔
      ∀ property ∈ before, property.isIdentifier = false := by
    simp
  rw [compatible_concat_iff, ← hnames, ← hnone, checkBehind]
  cases before.any fun property => property.name == declaration.name <;>
    cases declaration.isIdentifier <;> cases declaration.shape.isSimple <;>
      cases before.any isIdentifier <;> simp [hbefore]

end Behind

/-- The properties are at fault when the check fails. -/
theorem kind_of_checkAll {entity : String} {before declarations : List (PropertyDeclaration ε)}
    {error : Error} (h : checkAll entity before declarations = .error error) :
    error.kind = .invalidArgument := by
  induction declarations generalizing before with
  | nil => cases h
  | cons declaration rest ih =>
      rw [checkAll] at h
      cases hfirst : checkBehind entity before declaration with
      | ok value =>
          rw [hfirst] at h
          exact ih h
      | error cause =>
          rw [hfirst] at h
          cases h
          unfold checkBehind at hfirst
          split at hfirst
          · cases hfirst
            rfl
          split at hfirst
          · cases hfirst
          split at hfirst
          · cases hfirst
            rfl
          split at hfirst
          · cases hfirst
            rfl
          · cases hfirst

theorem checkAll_eq_ok_iff {entity : String} {before declarations : List (PropertyDeclaration ε)}
    (hbefore : Compatible before) :
    checkAll entity before declarations = .ok () ↔ Compatible (before ++ declarations) := by
  induction declarations generalizing before with
  | nil => simp [checkAll, hbefore]
  | cons declaration rest ih =>
      have hsplit : before ++ declaration :: rest = (before ++ [declaration]) ++ rest := by simp
      rw [checkAll, Result.bind_eq_ok, hsplit]
      constructor
      · rintro ⟨_, hfirst, hrest⟩
        exact (ih ((checkBehind_eq_ok_iff hbefore).mp hfirst)).mp hrest
      · intro h
        have hfirst := h.left
        exact ⟨(), (checkBehind_eq_ok_iff hbefore).mpr hfirst, (ih hfirst).mpr h⟩

end PropertyDeclaration

namespace EntityDeclaration

/-- The checks of a declaration, in their order. -/
def check (declaration : EntityDeclaration ε) : Result Unit := do
  checkName declaration.tableName
  PropertyDeclaration.checkAll declaration.name [] declaration.properties

/-- A declaration that can become an entity: its table has a proper name, its properties have
different names, and at most one of them is the identifier, which is then simple. -/
structure Valid (declaration : EntityDeclaration ε) : Prop where
  table : Name.IsIdentifier declaration.tableName
  properties : PropertyDeclaration.Compatible declaration.properties

theorem check_eq_ok_iff {declaration : EntityDeclaration ε} :
    declaration.check = .ok () ↔ declaration.Valid := by
  rw [check, Result.bind_eq_ok]
  constructor
  · rintro ⟨_, htable, hproperties⟩
    exact ⟨checkName_eq_ok_iff.mp htable,
      (PropertyDeclaration.checkAll_eq_ok_iff PropertyDeclaration.compatible_nil).mp hproperties⟩
  · intro h
    exact ⟨(), checkName_eq_ok_iff.mpr h.table,
      (PropertyDeclaration.checkAll_eq_ok_iff PropertyDeclaration.compatible_nil).mpr h.properties⟩

theorem kind_of_check {declaration : EntityDeclaration ε} {error : Error}
    (h : declaration.check = .error error) :
    error.kind = .validation ∨ error.kind = .invalidArgument := by
  unfold check checkName at h
  cases hname : Name.checkIdentifier declaration.tableName with
  | error cause =>
      rw [hname] at h
      cases h
      exact .inl rfl
  | ok value =>
      rw [hname] at h
      exact .inr (PropertyDeclaration.kind_of_checkAll h)

end EntityDeclaration

/-! ### Building is checking -/

namespace Entity

variable {naming : Naming} {resolve : ε → Result EntityId} {number : ε → EntityId}
  {owner : EntityId} {entity : String}

theorem mapM_shape_eq {shape : Shape ε}
    (hresolve : ∀ target, shape.target? = some target → resolve target = .ok (number target)) :
    shape.mapM resolve = .ok (shape.map number) := by
  cases shape with
  | simple => rfl
  | reference target => rw [Shape.mapM, hresolve target rfl]; rfl
  | embedded target lead => rw [Shape.mapM, hresolve target rfl]; rfl
  | collection kind element => rw [Shape.mapM, hresolve element rfl]; rfl

namespace Draft

/-- The draft behind these properties. -/
def behind (naming : Naming) (owner : EntityId) (number : ε → EntityId)
    (before : List (PropertyDeclaration ε)) : Draft where
  properties := (before.map (·.map number)).mapIdx (PropertyDeclaration.property naming owner)
  identifierIndex := (before.map (·.map number)).findIdx? PropertyDeclaration.isIdentifier

theorem any_name_behind {before : List (PropertyDeclaration ε)} {name : String} :
    ((behind naming owner number before).properties.any fun property => property.name == name) =
      before.any fun property => property.name == name := by
  have hnames : (behind naming owner number before).properties.map Property.name =
      before.map PropertyDeclaration.name := by
    apply List.ext_getElem <;>
      simp [behind, PropertyDeclaration.property, PropertyDeclaration.map]
  calc (behind naming owner number before).properties.any (fun property => property.name == name)
      = ((behind naming owner number before).properties.map Property.name).any (· == name) := by
        rw [List.any_map]
        rfl
    _ = (before.map PropertyDeclaration.name).any (· == name) := by rw [hnames]
    _ = before.any fun property => property.name == name := by
        rw [List.any_map]
        rfl

theorem behind_concat {before : List (PropertyDeclaration ε)}
    {declaration : PropertyDeclaration ε} :
    behind naming owner number (before ++ [declaration]) =
      ⟨(behind naming owner number before).properties ++
          [(declaration.map number).property naming owner before.length],
        (before.findIdx? PropertyDeclaration.isIdentifier).or
          (if declaration.isIdentifier then some before.length else none)⟩ := by
  unfold behind
  rw [List.map_append, List.map_singleton, List.mapIdx_concat, List.length_map,
    List.findIdx?_append, List.length_map, List.findIdx?_singleton, List.findIdx?_map]
  cases hidentifier : declaration.isIdentifier <;>
    simp [PropertyDeclaration.map, hidentifier, Function.comp_def]

/-- The place of the identifier is as it would be with the property added, if that passes. -/
theorem nextIdentifier?_behind {before : List (PropertyDeclaration ε)}
    {declaration : PropertyDeclaration ε}
    (hname : before.any (fun property => property.name == declaration.name) = false) :
    (behind naming owner number before).nextIdentifier? entity before.length declaration =
      (PropertyDeclaration.checkBehind entity before declaration).map fun _ =>
        (before.findIdx? PropertyDeclaration.isIdentifier).or
          (if declaration.isIdentifier then some before.length else none) := by
  have hplace : (behind naming owner number before).identifierIndex =
      before.findIdx? PropertyDeclaration.isIdentifier := by
    rw [behind, List.findIdx?_map]
    rfl
  have hany : before.any PropertyDeclaration.isIdentifier =
      (before.findIdx? PropertyDeclaration.isIdentifier).isSome := List.findIdx?_isSome.symm
  unfold nextIdentifier? PropertyDeclaration.checkBehind
  rw [hname, hplace, hany]
  cases declaration.isIdentifier <;> cases declaration.shape.isSimple <;>
    cases before.findIdx? PropertyDeclaration.isIdentifier <;> simp [Except.map]

theorem add?_behind {before : List (PropertyDeclaration ε)} {declaration : PropertyDeclaration ε}
    (hresolve : ∀ target, declaration.shape.target? = some target →
      resolve target = .ok (number target)) :
    add? naming resolve owner entity (behind naming owner number before) declaration =
      (PropertyDeclaration.checkBehind entity before declaration).map fun _ =>
        behind naming owner number (before ++ [declaration]) := by
  have hlength : (behind naming owner number before).properties.length = before.length := by
    simp [behind]
  unfold add?
  rw [any_name_behind, mapM_shape_eq hresolve, hlength]
  cases hname : before.any fun property => property.name == declaration.name with
  | true =>
      rw [PropertyDeclaration.checkBehind, hname, if_pos rfl, if_pos rfl]
      rfl
  | false =>
      simp only [nextIdentifier?_behind hname, Bool.false_eq_true, if_false]
      rw [behind_concat]
      cases PropertyDeclaration.checkBehind entity before declaration <;> rfl

theorem foldlM_add?_behind {before declarations : List (PropertyDeclaration ε)}
    (hresolve : ∀ declaration ∈ declarations, ∀ target, declaration.shape.target? = some target →
      resolve target = .ok (number target)) :
    declarations.foldlM (add? naming resolve owner entity) (behind naming owner number before) =
      (PropertyDeclaration.checkAll entity before declarations).map fun _ =>
        behind naming owner number (before ++ declarations) := by
  induction declarations generalizing before with
  | nil => simp [PropertyDeclaration.checkAll, Except.map, pure, Except.pure]
  | cons declaration rest ih =>
      obtain ⟨hfirst, hrest⟩ := List.forall_mem_cons.mp hresolve
      rw [List.foldlM_cons, add?_behind hfirst, PropertyDeclaration.checkAll]
      cases PropertyDeclaration.checkBehind entity before declaration with
      | error error => rfl
      | ok value =>
          change List.foldlM _ (behind naming owner number (before ++ [declaration])) rest = _
          rw [ih hrest, List.append_assoc, List.singleton_append]
          rfl

end Draft

/-- An entity is built exactly if its declaration passes the checks, and is then given by the
declaration and the numbers of the types. -/
theorem ofDeclaration?_eq {id : EntityId} {declaration : EntityDeclaration ε}
    (hresolve : ∀ target ∈ declaration.related, resolve target = .ok (number target)) :
    ofDeclaration? naming resolve id declaration =
      declaration.check.map fun _ => (declaration.map number).entity naming id := by
  have hproperties : ∀ property ∈ declaration.properties, ∀ target,
      property.shape.target? = some target → resolve target = .ok (number target) :=
    fun property hmem target htarget =>
      hresolve target (List.mem_filterMap.mpr ⟨property, hmem, htarget⟩)
  have hfold : declaration.properties.foldlM (Draft.add? naming resolve id declaration.name)
      (Draft.behind naming id number []) =
        (PropertyDeclaration.checkAll declaration.name [] declaration.properties).map fun _ =>
          Draft.behind naming id number declaration.properties :=
    Draft.foldlM_add?_behind hproperties
  unfold ofDeclaration? EntityDeclaration.check
  change (checkName declaration.tableName >>= fun _ =>
    declaration.properties.foldlM (Draft.add? naming resolve id declaration.name)
      (Draft.behind naming id number []) >>= _) = _
  rw [hfold]
  cases checkName declaration.tableName with
  | error error => rfl
  | ok value =>
      cases PropertyDeclaration.checkAll declaration.name [] declaration.properties <;> rfl

end Entity

end EntityQuery
