import EntityQuery.Proofs.Context.History
import EntityQuery.Proofs.Derive.Item
import EntityQuery.Proofs.Path.Renaming

/-!
# Registering derived entities

What is accepted in an item is accepted again when its entity is registered.  Properties have
different names if the fields have, an identifier is simple and there is one at most, and a table
that is named has a proper name.  So a registration can fail for one reason only: an item leaves its
table open, and the name that is derived for it is not a proper one.
-/

namespace EntityQuery

/-! ### Checks and types -/

section Types

variable {ε δ : Type} (f : ε → δ)

theorem PropertyDeclaration.checkBehind_map (entity : String)
    (before : List (PropertyDeclaration ε)) (declaration : PropertyDeclaration ε) :
    checkBehind entity (before.map (map f)) (declaration.map f) =
      checkBehind entity before declaration := by
  unfold checkBehind
  rw [List.any_map, List.any_map]
  simp only [PropertyDeclaration.map, Shape.isSimple_map, Function.comp_def]
  rfl

theorem PropertyDeclaration.checkAll_map (entity : String)
    (before declarations : List (PropertyDeclaration ε)) :
    checkAll entity (before.map (map f)) (declarations.map (map f)) =
      checkAll entity before declarations := by
  induction declarations generalizing before with
  | nil => rfl
  | cons declaration rest ih =>
      have hbehind := ih (before ++ [declaration])
      rw [List.map_append, List.map_singleton] at hbehind
      rw [List.map_cons, checkAll, checkAll, checkBehind_map, hbehind]

/-- The types that properties refer to are not checked. -/
theorem EntityDeclaration.check_map (declaration : EntityDeclaration ε) :
    (declaration.map f).check = declaration.check := by
  have hproperties := PropertyDeclaration.checkAll_map f declaration.name [] declaration.properties
  unfold check
  exact congrArg (checkName declaration.tableName >>= fun _ => ·) hproperties

theorem EntityDeclaration.check_of_compatible {declaration : EntityDeclaration ε}
    (h : PropertyDeclaration.Compatible declaration.properties) :
    declaration.check = checkName declaration.tableName := by
  have hproperties : PropertyDeclaration.checkAll declaration.name [] declaration.properties =
      .ok () :=
    (PropertyDeclaration.checkAll_eq_ok_iff PropertyDeclaration.compatible_nil).mpr h
  rw [check, hproperties]
  cases checkName declaration.tableName <;> rfl

end Types

/-! ### Items -/

namespace SourceItem

variable {item : SourceItem} {entity : EntityDeclaration Tokens}

theorem names_of_property? {fields : List SourceField}
    {properties : List (PropertyDeclaration Tokens)}
    (h : List.Forall₂ SourceField.Declares fields properties) :
    properties.map PropertyDeclaration.name = fields.map fun field => plainName field.name := by
  induction h with
  | nil => rfl
  | cons hdeclares _ ih => rw [List.map_cons, List.map_cons, ih, hdeclares.name_eq]

/-- What is checked for an item is what its properties have to meet, but for their names. -/
theorem compatible_of_entity? (hentity : item.entity? = .ok entity)
    (hfields : (item.fields.map fun field => plainName field.name).Nodup) :
    PropertyDeclaration.Compatible entity.properties := by
  obtain ⟨-, -, table, -, properties, hproperties, hcount, rfl⟩ := entity?_eq_ok_iff.mp hentity
  refine ⟨?_, ?_, fun property hproperty hidentifier => ?_⟩
  · change (properties.map PropertyDeclaration.name).Nodup
    rw [names_of_property? (forall₂_declares hproperties)]
    exact hfields.sublist (List.filter_sublist.map _)
  · rwa [← List.countP_eq_length_filter]
  · obtain ⟨field, -, hfield⟩ := Result.exists_of_mem_mapM hproperties hproperty
    obtain ⟨draft, -, hsimple, rfl⟩ := SourceField.property?_eq_ok_iff.mp hfield
    exact hsimple hidentifier

theorem isIdentifier_of_tableName? {name : String} (h : item.tableName? = .ok (some name)) :
    Name.IsIdentifier name := by
  unfold tableName? at h
  obtain ⟨names, hnames, h⟩ := Result.bind_eq_ok.mp h
  rw [Result.pure_eq_ok, Attribute.name?_eq] at h
  obtain ⟨⟨role, given⟩, hentry, hgiven⟩ := List.mem_filterMap.mp (List.mem_of_getLast? h)
  obtain ⟨rfl, rfl⟩ : Role.table = role ∧ given = name := by simpa using hgiven
  obtain ⟨found, hfound, hmem⟩ := List.mem_flatten.mp hentry
  obtain ⟨mark, -, hmark⟩ := Result.exists_of_mem_mapM hnames hfound
  exact Attribute.isIdentifier_of_mem_names hmark hmem (by decide)

/-- If its fields have different names, all that is left to check of an item's entity is the name
that is derived for its table. -/
theorem check_of_entity? (hentity : item.entity? = .ok entity)
    (hfields : (item.fields.map fun field => plainName field.name).Nodup) :
    entity.check = .ok () ∨
      item.tableName? = .ok none ∧
        entity.check = checkName (Naming.tableName (plainName item.name)) := by
  rw [EntityDeclaration.check_of_compatible (compatible_of_entity? hentity hfields)]
  obtain ⟨-, -, table, htable, properties, -, -, rfl⟩ := entity?_eq_ok_iff.mp hentity
  cases table with
  | none => exact .inr ⟨htable, rfl⟩
  | some name => exact .inl (checkName_eq_ok_iff.mpr (isIdentifier_of_tableName? htable))

end SourceItem

/-! ### Families -/

variable {n : Nat} {catalog : Catalog n} {item? : Fin n → Option SourceItem}
  {typeOf? : Fin n → Tokens → Option (Fin n)} {type : Fin n} {item : SourceItem}

/-- Some types of the catalog are derived from items, and refer to each other only.  What the tokens
of a type stand for may depend on the item that they are in. -/
structure Catalog.Derives (catalog : Catalog n) (item? : Fin n → Option SourceItem)
    (typeOf? : Fin n → Tokens → Option (Fin n)) : Prop where
  declared : ∀ type item, item? type = some item →
    ∃ entity, item.entity? = .ok entity ∧ entity.map (typeOf? type) = (catalog type).map some
  closed : ∀ type item, item? type = some item →
    ∀ target ∈ (catalog type).related, ∃ other, item? target = some other

namespace Catalog.Derives

variable (hderives : catalog.Derives item? typeOf?)

include hderives

theorem exists_item_of_reaches {other : Fin n} (hreaches : catalog.Reaches type other)
    (hitem : item? type = some item) : ∃ reached, item? other = some reached := by
  induction hreaches with
  | refl => exact ⟨item, hitem⟩
  | tail _ hrelated ih =>
      obtain ⟨reached, hreached⟩ := ih
      exact hderives.closed _ _ hreached _ hrelated

theorem name_eq (hitem : item? type = some item) : (catalog type).name = plainName item.name := by
  obtain ⟨entity, hentity, htypes⟩ := hderives.declared type item hitem
  have hname : entity.name = (catalog type).name := congrArg EntityDeclaration.name htypes
  rw [← hname, (SourceItem.declares_of_entity? hentity).name_eq]

theorem check_eq (hitem : item? type = some item)
    (hfields : (item.fields.map fun field => plainName field.name).Nodup) :
    (catalog type).check = .ok () ∨
      item.tableName? = .ok none ∧
        (catalog type).check = checkName (Naming.tableName (plainName item.name)) := by
  obtain ⟨entity, hentity, htypes⟩ := hderives.declared type item hitem
  have hcheck : (catalog type).check = entity.check := by
    rw [← EntityDeclaration.check_map some, ← htypes, EntityDeclaration.check_map]
  rw [hcheck]
  exact SourceItem.check_of_entity? hentity hfields

/-- The name of a table that an item leaves open is at fault whenever a type cannot be
registered. -/
theorem exists_item_of_error {context : Context n} {error : Error}
    (hsettled : context.registry.Settled catalog)
    (hfields : ∀ type item, item? type = some item →
      (item.fields.map fun field => plainName field.name).Nodup)
    (hitem : item? type = some item) (herror : context.entity? catalog type = .error error) :
    ∃ other reached, item? other = some reached ∧ reached.tableName? = .ok none ∧
      checkName (Naming.tableName (plainName reached.name)) = .error error := by
  have hregister :=
    Registry.register?_of_call_eq_error (Context.call_of_entity?_eq_error hsettled herror)
  obtain ⟨other, hreaches, hcheck⟩ := hsettled.exists_of_register?_eq_error hregister
  obtain ⟨reached, hreached⟩ := hderives.exists_item_of_reaches hreaches hitem
  obtain hok | ⟨htable, hname⟩ := hderives.check_eq hreached (hfields other reached hreached)
  · rw [hok] at hcheck
    cases hcheck
  · exact ⟨other, reached, hreached, htable, hname.symm.trans hcheck⟩

end Catalog.Derives

/-- Names are accepted for an item as they are for an entity.  Whatever was done before, a type of a
family of items whose fields have different names is registered if each table that is left open gets
a proper name, and else such a name is at fault: nothing that an item says is refused again. -/
theorem History.entity?_of_derives (hderives : catalog.Derives item? typeOf?)
    (hfields : ∀ type item, item? type = some item →
      (item.fields.map fun field => plainName field.name).Nodup)
    (naming : Naming) (memoised : Bool) (operations : List (Operation n)) :
    (∀ name, Attribute.checkIdentifier name = .ok () ↔ checkName name = .ok ()) ∧
    ∃ history, (start (Context.fresh naming memoised)).run catalog operations = some history ∧
      (∀ type item error, item? type = some item →
        history.context.entity? catalog type = .error error →
          ∃ other reached, item? other = some reached ∧ reached.tableName? = .ok none ∧
            checkName (Naming.tableName (plainName reached.name)) = .error error) ∧
      ((∀ type item, item? type = some item → item.tableName? = .ok none →
          checkName (Naming.tableName (plainName item.name)) = .ok ()) →
        ∀ type item, item? type = some item →
          ∃ entity context, history.context.entity? catalog type = .ok (entity, context) ∧
            entity.name = plainName item.name) := by
  obtain ⟨history, hrun, hsound⟩ := exists_run catalog naming memoised operations
  have hfault := fun type item error (hitem : item? type = some item)
    (herror : history.context.entity? catalog type = .error error) =>
      hderives.exists_item_of_error hsound.settled hfields hitem herror
  refine ⟨fun name => ?_, history, hrun, hfault, fun htables type item hitem => ?_⟩
  · rw [Attribute.checkIdentifier_eq, checkName, Result.mapError_eq_ok]
  · cases hentity : history.context.entity? catalog type with
    | ok answer =>
        obtain ⟨entity, context⟩ := answer
        have hname := Context.name_of_entity? hsound.settled hentity
        exact ⟨entity, context, rfl, hname.trans (hderives.name_eq hitem)⟩
    | error error =>
        obtain ⟨other, reached, hreached, htable, hname⟩ := hfault type item error hitem hentity
        rw [htables other reached hreached htable] at hname
        cases hname

/-- A type that refers to itself and to another one is registered behind a call that failed for a
third type, whose table has no proper name. -/
theorem History.entity?_of_derives_person :
    let number : SourceField := ⟨"id", ["i64"], [⟨"id", .bare⟩]⟩
    let home : SourceField := ⟨"home", ["Address"], [⟨"embedded", .bare⟩]⟩
    let friend : SourceField := ⟨"friend", ["Person"], [⟨"reference", .bare⟩]⟩
    let scratch : SourceField := ⟨"scratch", ["String"], [⟨"transient", .bare⟩]⟩
    let street : SourceField := ⟨"street", ["String"], []⟩
    let person : SourceItem :=
      ⟨"r#Person", .namedFields, [], [], [number, home, friend, scratch]⟩
    let address : SourceItem := ⟨"Address", .namedFields, [],
      [⟨"table", .list [⟨"name", .text "places"⟩]⟩], [street]⟩
    let catalog : Catalog 3 := fun
      | 0 => ⟨"Person", none, [⟨"id", .simple, none, none, none, true⟩,
          ⟨"home", .embedded 1 "", none, none, none, false⟩,
          ⟨"friend", .reference 0, none, none, none, false⟩]⟩
      | 1 => ⟨"Address", some "places", [⟨"street", .simple, none, none, none, false⟩]⟩
      | 2 => ⟨"Order", some "a b", []⟩
    let item? : Fin 3 → Option SourceItem := fun
      | 0 => some person
      | 1 => some address
      | 2 => none
    let typeOf? : Fin 3 → Tokens → Option (Fin 3) := fun _ tokens =>
      if tokens = ["Person"] then some 0 else if tokens = ["Address"] then some 1 else none
    catalog.Derives item? typeOf? ∧
    (∀ type item, item? type = some item →
      (item.fields.map fun field => plainName field.name).Nodup) ∧
    (∀ type item, item? type = some item → item.tableName? = .ok none →
      checkName (Naming.tableName (plainName item.name)) = .ok ()) ∧
    ∃ history, (start (Context.fresh .standard true)).run catalog [.register 2] = some history ∧
      ∃ entity context, history.context.entity? catalog 0 = .ok (entity, context) ∧
        entity.name = plainName "r#Person" := by
  intro number home friend scratch street person address catalog item? typeOf?
  have hname : plainName person.name = "Person" := by cbv
  have hperson : person.entity? = .ok ⟨"Person", none, [⟨"id", .simple, none, none, none, true⟩,
      ⟨"home", .embedded ["Address"] "", none, none, none, false⟩,
      ⟨"friend", .reference ["Person"], none, none, none, false⟩]⟩ := by
    decide +kernel
  have haddress : address.entity? =
      .ok ⟨"Address", some "places", [⟨"street", .simple, none, none, none, false⟩]⟩ := by
    simp only [address, street]
    rfl
  have hderives : catalog.Derives item? typeOf? := by
    refine ⟨fun type item hitem => ?_, fun type item hitem target htarget => ?_⟩
    · match type with
      | 0 =>
          cases hitem
          exact ⟨_, hperson, rfl⟩
      | 1 =>
          cases hitem
          exact ⟨_, haddress, rfl⟩
      | 2 => cases hitem
    · match target with
      | 0 => exact ⟨person, rfl⟩
      | 1 => exact ⟨address, rfl⟩
      | 2 =>
          match type with
          | 0 => exact absurd htarget (by decide)
          | 1 => exact absurd htarget (by decide)
          | 2 => cases hitem
  have hfields : ∀ type item, item? type = some item →
      (item.fields.map fun field => plainName field.name).Nodup := by
    have hnames : (person.fields.map fun field => plainName field.name) =
        ["id", "home", "friend", "scratch"] := by
      simp only [person, number, home, friend, scratch]
      rfl
    intro type item hitem
    match type with
    | 0 =>
        cases hitem
        rw [hnames]
        decide
    | 1 =>
        cases hitem
        exact List.nodup_singleton _
    | 2 => cases hitem
  have htables : ∀ type item, item? type = some item → item.tableName? = .ok none →
      checkName (Naming.tableName (plainName item.name)) = .ok () := by
    have htable : checkName (Naming.tableName "Person") = .ok () := by rfl
    intro type item hitem hopen
    match type with
    | 0 =>
        cases hitem
        rw [hname]
        exact htable
    | 1 =>
        cases hitem
        cases hopen
    | 2 => cases hitem
  obtain ⟨-, history, hrun, -, hfound⟩ :=
    entity?_of_derives hderives hfields .standard true [.register 2]
  have hitem : item? 0 = some person := rfl
  obtain ⟨entity, context, hentity, hplain⟩ := hfound htables 0 person hitem
  exact ⟨hderives, hfields, htables, history, hrun, entity, context, hentity, hplain⟩

end EntityQuery
