import EntityQuery.Proofs.Schema.Registration

/-!
# Well-formed schemas

What a schema of registered entities can be relied on for: numbers are places, properties know their
owner and their place, what a property refers to is registered, and the identifier of an entity is
the first of its properties that is one.
-/

namespace EntityQuery

structure Schema.WellFormed (schema : Schema) : Prop where
  id_eq : ∀ id entity, schema.entity? id = some entity → entity.id = id
  owner_eq : ∀ id entity, schema.entity? id = some entity →
    ∀ property ∈ entity.properties, property.owner = id
  index_eq : ∀ id entity, schema.entity? id = some entity →
    ∀ (index : Nat) (property : Property), entity.properties[index]? = some property →
      property.index = index
  exists_target : ∀ id entity, schema.entity? id = some entity →
    ∀ property ∈ entity.properties, ∀ target, property.shape.target? = some target →
      ∃ related, schema.entity? target = some related
  identifierIndex_eq : ∀ id entity, schema.entity? id = some entity →
    entity.identifierIndex = entity.properties.findIdx? Property.isIdentifier

namespace Schema.WellFormed

variable {schema : Schema} (hwell : schema.WellFormed)

include hwell

theorem hasIdentifier_iff (id : EntityId) (entity : Entity) (h : schema.entity? id = some entity) :
    entity.hasIdentifier = true ↔ ∃ property ∈ entity.properties, property.isIdentifier = true := by
  rw [Entity.hasIdentifier, hwell.identifierIndex_eq id entity h, List.findIdx?_isSome,
    List.any_eq_true]

/-- The place of the identifier is the place of a property. -/
theorem exists_identifier {id : EntityId} {entity : Entity} (h : schema.entity? id = some entity)
    (hidentifier : entity.hasIdentifier = true) :
    ∃ property, entity.identifier? = some property := by
  obtain ⟨index, hindex⟩ := Option.isSome_iff_exists.mp hidentifier
  have hplace := hindex
  rw [hwell.identifierIndex_eq id entity h] at hplace
  obtain ⟨hlt, -, -⟩ := List.findIdx?_eq_some_iff_getElem.mp hplace
  refine ⟨entity.properties[index], ?_⟩
  rw [Entity.identifier?, hindex]
  exact List.getElem?_eq_getElem hlt

end Schema.WellFormed

namespace EntityDeclaration

variable {ε : Type} {naming : Naming} {id : EntityId} {declaration : EntityDeclaration ε}
  {number : ε → EntityId}

/-- Each property of an entity is declared at its place. -/
theorem getElem?_properties_entity (index : Nat) :
    ((declaration.map number).entity naming id).properties[index]? =
      declaration.properties[index]?.map fun property =>
        (property.map number).property naming id index := by
  simp [EntityDeclaration.entity, EntityDeclaration.map, Function.comp_def]

theorem exists_of_mem_properties_entity {property : Property}
    (h : property ∈ ((declaration.map number).entity naming id).properties) :
    ∃ index, ∃ declared ∈ declaration.properties,
      (declared.map number).property naming id index = property := by
  obtain ⟨index, hindex⟩ := List.mem_iff_getElem?.mp h
  rw [getElem?_properties_entity, Option.map_eq_some_iff] at hindex
  obtain ⟨declared, hdeclared, heq⟩ := hindex
  exact ⟨index, declared, List.mem_of_getElem? hdeclared, heq⟩

theorem target?_map_property {declared : PropertyDeclaration ε} {index : Nat} :
    ((declared.map number).property naming id index).shape.target? =
      declared.shape.target?.map number := by
  unfold PropertyDeclaration.property PropertyDeclaration.map
  cases declared.shape <;> rfl

/-- What is declared as an identifier is one, at the same place. -/
theorem identifierIndex_entity :
    ((declaration.map number).entity naming id).identifierIndex =
      ((declaration.map number).entity naming id).properties.findIdx? Property.isIdentifier := by
  have hmarks : ∀ declared : List (PropertyDeclaration EntityId),
      (declared.mapIdx (PropertyDeclaration.property naming id)).map Property.isIdentifier =
        declared.map PropertyDeclaration.isIdentifier := by
    intro declared
    apply List.ext_getElem
    · simp
    · intro index _ _
      simp [PropertyDeclaration.property]
  have hplaces : ∀ {α : Type} (p : α → Bool) (values : List α),
      values.findIdx? p = (values.map p).findIdx? fun mark => mark := by
    intro α p values
    rw [List.findIdx?_map]
    rfl
  simp only [EntityDeclaration.entity]
  rw [hplaces, hplaces Property.isIdentifier, hmarks]

end EntityDeclaration

namespace Registry.Settled

variable {n : Nat} {catalog : Catalog n} {registry : Registry n}
  (hsettled : registry.Settled catalog)

include hsettled

theorem getElem?_entities (index : Nat) :
    registry.schema.entities[index]? =
      registry.types[index]?.map
        (entityOf catalog registry.schema.naming registry.types) := by
  rw [hsettled.entities, List.getElem?_map]

theorem idxOf_eq {index : Nat} {type : Fin n} (h : registry.types[index]? = some type) :
    registry.types.idxOf type = index := by
  obtain ⟨hindex, rfl⟩ := List.getElem?_eq_some_iff.mp h
  exact hsettled.nodup.idxOf_getElem index hindex

/-- The entity at a place is what the declaration of its type becomes there. -/
theorem entity?_eq_some_iff {id : EntityId} {entity : Entity} :
    registry.schema.entity? id = some entity ↔
      ∃ type, registry.types[id]? = some type ∧
        entity = ((catalog type).map registry.types.idxOf).entity registry.schema.naming id := by
  rw [Schema.entity?, hsettled.getElem?_entities, Option.map_eq_some_iff]
  constructor
  · rintro ⟨type, htype, rfl⟩
    exact ⟨type, htype, by rw [entityOf, hsettled.idxOf_eq htype]⟩
  · rintro ⟨type, htype, rfl⟩
    exact ⟨type, htype, by rw [entityOf, hsettled.idxOf_eq htype]⟩

theorem schema_wellFormed : registry.schema.WellFormed where
  id_eq := by
    intro id entity hentity
    obtain ⟨type, -, rfl⟩ := hsettled.entity?_eq_some_iff.mp hentity
    rfl
  owner_eq := by
    intro id entity hentity property hproperty
    obtain ⟨type, -, rfl⟩ := hsettled.entity?_eq_some_iff.mp hentity
    obtain ⟨index, declared, -, rfl⟩ :=
      EntityDeclaration.exists_of_mem_properties_entity hproperty
    rfl
  index_eq := by
    intro id entity hentity index property hproperty
    obtain ⟨type, -, rfl⟩ := hsettled.entity?_eq_some_iff.mp hentity
    rw [EntityDeclaration.getElem?_properties_entity, Option.map_eq_some_iff] at hproperty
    obtain ⟨declared, -, rfl⟩ := hproperty
    rfl
  exists_target := by
    intro id entity hentity property hproperty target htarget
    obtain ⟨type, htype, rfl⟩ := hsettled.entity?_eq_some_iff.mp hentity
    obtain ⟨index, declared, hdeclared, rfl⟩ :=
      EntityDeclaration.exists_of_mem_properties_entity hproperty
    rw [EntityDeclaration.target?_map_property, Option.map_eq_some_iff] at htarget
    obtain ⟨related, hrelated, rfl⟩ := htarget
    have hmem : related ∈ registry.types :=
      hsettled.closed type (List.mem_of_getElem? htype) related
        (List.mem_filterMap.mpr ⟨declared, hdeclared, hrelated⟩)
    exact ⟨_, hsettled.entity?_eq_some_iff.mpr ⟨related, List.getElem?_idxOf hmem, rfl⟩⟩
  identifierIndex_eq := by
    intro id entity hentity
    obtain ⟨type, -, rfl⟩ := hsettled.entity?_eq_some_iff.mp hentity
    exact EntityDeclaration.identifierIndex_entity

end Registry.Settled

end EntityQuery
