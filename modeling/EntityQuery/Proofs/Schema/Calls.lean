import EntityQuery.Proofs.Schema.WellFormed

/-!
# Registering types one after another

However many types are registered, and whichever calls fail, the registry stays well-formed: a call
adds all types that can be reached and were not there, or nothing at all.
-/

namespace EntityQuery

variable {n : Nat} {catalog : Catalog n} {type other : Fin n}

namespace Registry

/-- The registry behind several calls. -/
def afterAll (catalog : Catalog n) (naming : Naming) (types : List (Fin n)) : Registry n :=
  types.foldl (after catalog) (empty naming)

/-- The entities and the numbers of types agree with each other and with the declarations. -/
structure WellFormed (catalog : Catalog n) (registry : Registry n) : Prop where
  id_eq : ∀ (index : Nat) (entity : Entity),
    registry.schema.entities[index]? = some entity → entity.id = index
  lt_length_iff : ∀ id, id < registry.schema.entities.length ↔
    ∃ type, registry.id? type = some id
  id_inj : ∀ type other id, registry.id? type = some id → registry.id? other = some id →
    type = other
  declared : ∀ type id, registry.id? type = some id →
    ∃ entity, registry.schema.entities[id]? = some entity ∧ entity.name = (catalog type).name ∧
      entity.properties.length = (catalog type).properties.length
  property : ∀ type id entity, registry.id? type = some id →
    registry.schema.entities[id]? = some entity →
      ∀ (index : Nat) (property : Property), entity.properties[index]? = some property →
        property.index = index ∧ property.owner = id ∧
          ∃ declared, (catalog type).properties[index]? = some declared ∧
            property.name = declared.name ∧
            ∀ number, property.shape.target? = some number ↔
              ∃ target, declared.shape.target? = some target ∧ registry.id? target = some number

namespace Settled

variable {registry : Registry n} (hsettled : registry.Settled catalog)

include hsettled

theorem id?_eq_some_iff_getElem? {id : EntityId} :
    registry.id? type = some id ↔ registry.types[id]? = some type := by
  rw [hsettled.id?_eq_some_iff]
  constructor
  · rintro ⟨hmem, rfl⟩
    exact List.getElem?_idxOf hmem
  · intro h
    exact ⟨List.mem_of_getElem? h, hsettled.idxOf_eq h⟩

theorem wellFormed : registry.WellFormed catalog where
  id_eq := hsettled.schema_wellFormed.id_eq
  lt_length_iff := by
    intro id
    rw [hsettled.entities, List.length_map]
    simp only [hsettled.id?_eq_some_iff_getElem?]
    constructor
    · intro h
      exact ⟨_, List.getElem?_eq_getElem h⟩
    · rintro ⟨type, htype⟩
      exact (List.getElem?_eq_some_iff.mp htype).1
  id_inj := by
    intro type other id htype hother
    rw [hsettled.id?_eq_some_iff_getElem?] at htype hother
    exact Option.some.inj (htype.symm.trans hother)
  declared := by
    intro type id hid
    rw [hsettled.id?_eq_some_iff_getElem?] at hid
    refine ⟨_, hsettled.entity?_eq_some_iff.mpr ⟨type, hid, rfl⟩, rfl, ?_⟩
    simp [EntityDeclaration.entity, EntityDeclaration.map]
  property := by
    intro type id entity hid hentity index property hproperty
    rw [hsettled.id?_eq_some_iff_getElem?] at hid
    obtain ⟨same, hsame, rfl⟩ := hsettled.entity?_eq_some_iff.mp hentity
    obtain rfl : type = same := Option.some.inj (hid.symm.trans hsame)
    rw [EntityDeclaration.getElem?_properties_entity, Option.map_eq_some_iff] at hproperty
    obtain ⟨declared, hdeclared, rfl⟩ := hproperty
    refine ⟨rfl, rfl, declared, hdeclared, rfl, fun number => ?_⟩
    rw [EntityDeclaration.target?_map_property, Option.map_eq_some_iff]
    refine exists_congr fun target => and_congr_right fun htarget => ?_
    have hmem : target ∈ registry.types :=
      hsettled.closed type (List.mem_of_getElem? hid) target
        (List.mem_filterMap.mpr ⟨declared, List.mem_of_getElem? hdeclared, htarget⟩)
    rw [hsettled.id?_eq_some_iff, and_iff_right hmem]

/-- All types that can be reached are valid if those that would be found are. -/
theorem forall_reaches_iff :
    (∀ other, catalog.Reaches type other → (catalog other).Valid) ↔
      type ∈ registry.types ∨
        ∀ other ∈ catalog.discover registry.types [] [type], (catalog other).Valid := by
  by_cases hmem : type ∈ registry.types
  · refine iff_of_true (fun other hreaches => ?_) (.inl hmem)
    exact hsettled.valid other (hsettled.closed.mem_of_reaches hmem hreaches)
  · rw [or_iff_right hmem]
    constructor
    · intro h other hother
      exact h other (Catalog.mem_discover_iff hsettled.closed |>.mp hother).1
    · intro h other hreaches
      by_cases hother : other ∈ registry.types
      · exact hsettled.valid other hother
      · exact h other ((Catalog.mem_discover_iff hsettled.closed).mpr ⟨hreaches, hother⟩)

theorem succeeds_register?_iff :
    Result.Succeeds (registry.register? catalog type) ↔
      ∀ other, catalog.Reaches type other → (catalog other).Valid := by
  rw [hsettled.forall_reaches_iff]
  constructor
  · rintro ⟨⟨id, registered⟩, hregister⟩
    obtain ⟨-, ⟨hmem, -⟩ | ⟨-, hvalid, -⟩⟩ := hsettled.register?_eq_ok_iff.mp hregister
    · exact .inl hmem
    · exact .inr hvalid
  · intro h
    by_cases hmem : type ∈ registry.types
    · exact ⟨_, hsettled.register?_of_mem hmem⟩
    · exact ⟨(_, _), hsettled.register?_eq_ok_iff.mpr
        ⟨rfl, .inr ⟨hmem, h.resolve_left hmem, rfl⟩⟩⟩

/-- What a successful call adds: the types that can be reached and are not there get the numbers
that come next. -/
theorem numbers_of_register? {registered : Registry n} {id : EntityId}
    (h : registry.register? catalog type = .ok (id, registered)) :
    ∃ added : List (Fin n),
      registered.numbers = registry.numbers ++ added.zipIdx registry.schema.entities.length ∧
      added.Nodup ∧ ∀ other, other ∈ added ↔ catalog.Reaches type other ∧ other ∉ registry.types := by
  obtain ⟨-, ⟨hmem, rfl⟩ | ⟨hmem, -, rfl⟩⟩ := hsettled.register?_eq_ok_iff.mp h
  · refine ⟨[], (List.append_nil _).symm, List.nodup_nil, fun other => ?_⟩
    refine iff_of_false List.not_mem_nil fun h => h.2 ?_
    exact hsettled.closed.mem_of_reaches hmem h.1
  · refine ⟨catalog.discover registry.types [] [type], ?_, Catalog.nodup_discover, fun other =>
      Catalog.mem_discover_iff hsettled.closed⟩
    rw [hsettled.extend_eq]

/-- Nothing is registered with a type but what can be reached from it. -/
theorem mem_types_after {other : Fin n} (h : other ∈ (registry.after catalog type).types) :
    other ∈ registry.types ∨ catalog.Reaches type other := by
  obtain hsame | ⟨id, hregister⟩ := after_cases catalog registry type
  · rw [hsame] at h
    exact .inl h
  · obtain ⟨added, hnumbers, -, hadded⟩ := hsettled.numbers_of_register? hregister
    rw [types, hnumbers, List.map_append, List.zipIdx_map_fst] at h
    exact (List.mem_append.mp h).imp_right fun hother => ((hadded other).mp hother).1

theorem entities_of_register? {registered : Registry n} {id : EntityId}
    (h : registry.register? catalog type = .ok (id, registered)) :
    registry.schema.entities <+: registered.schema.entities := by
  obtain ⟨-, ⟨-, rfl⟩ | ⟨-, -, rfl⟩⟩ := hsettled.register?_eq_ok_iff.mp h
  · exact List.prefix_rfl
  · rw [hsettled.extend_eq]
    exact List.prefix_append _ _

theorem after (type : Fin n) : (registry.after catalog type).Settled catalog := by
  obtain hsame | ⟨id, hregister⟩ := after_cases catalog registry type
  · rw [hsame]
    exact hsettled
  · exact hsettled.register? hregister

end Settled

theorem settled_afterAll (naming : Naming) (types : List (Fin n)) :
    (afterAll catalog naming types).Settled catalog := by
  unfold afterAll
  have hrun : ∀ registry : Registry n, registry.Settled catalog →
      (types.foldl (after catalog) registry).Settled catalog := by
    induction types with
    | nil => exact fun registry hsettled => hsettled
    | cons type types ih => exact fun registry hsettled => ih _ (hsettled.after type)
  exact hrun _ (settled_empty naming)

end Registry

namespace Registry.Settled

/-- A call fails with what is wrong with one of the types that can be reached. -/
theorem exists_of_register?_eq_error {registry : Registry n} (hsettled : registry.Settled catalog)
    {error : Error} (h : registry.register? catalog type = .error error) :
    ∃ other, catalog.Reaches type other ∧ (catalog other).check = .error error := by
  by_cases hmem : type ∈ registry.types
  · rw [hsettled.register?_of_mem hmem] at h
    cases h
  · rw [hsettled.register?_of_notMem hmem] at h
    cases hcheck : (catalog.discover registry.types [] [type]).mapM
        fun other => (catalog other).check with
    | ok values =>
        rw [hcheck] at h
        cases h
    | error cause =>
        rw [hcheck] at h
        cases h
        obtain ⟨other, hfound, hother⟩ := Result.exists_of_mapM_eq_error hcheck
        exact ⟨other, ((Catalog.mem_discover_iff hsettled.closed).mp hfound).1, hother⟩

/-- A call fails for what a declaration says, never for a number that is missing. -/
theorem kind_of_register? {registry : Registry n} (hsettled : registry.Settled catalog)
    {error : Error} (h : registry.register? catalog type = .error error) :
    error.kind = .validation ∨ error.kind = .invalidArgument := by
  obtain ⟨other, -, hother⟩ := hsettled.exists_of_register?_eq_error h
  exact EntityDeclaration.kind_of_check hother

end Registry.Settled

namespace Registry

/-- The entity that a call for the type finds. -/
def call (catalog : Catalog n) (registry : Registry n) (type : Fin n) : Result Entity :=
  (registry.register? catalog type).map fun _ =>
    entityOf catalog (registry.after catalog type).schema.naming
      (registry.after catalog type).types type

variable {registry : Registry n}

theorem register?_of_call_eq_error {error : Error} (h : registry.call catalog type = .error error) :
    registry.register? catalog type = .error error := by
  rw [call] at h
  cases hregister : registry.register? catalog type with
  | error cause =>
      rw [hregister] at h
      cases h
      rfl
  | ok answer =>
      rw [hregister] at h
      cases h

theorem call_eq_ok {entity : Entity} (h : registry.call catalog type = .ok entity) :
    (∃ id, registry.register? catalog type = .ok (id, registry.after catalog type)) ∧
      entity = entityOf catalog (registry.after catalog type).schema.naming
        (registry.after catalog type).types type := by
  rw [call] at h
  cases hregister : registry.register? catalog type with
  | error error =>
      rw [hregister] at h
      cases h
  | ok answer =>
      obtain ⟨id, registered⟩ := answer
      rw [hregister] at h
      cases h
      exact ⟨⟨id, by rw [after_of_ok hregister]⟩, rfl⟩

/-- The type that was asked for stands behind a call that finds an entity. -/
theorem Settled.mem_types_of_call {entity : Entity} (hsettled : registry.Settled catalog)
    (h : registry.call catalog type = .ok entity) : type ∈ (registry.after catalog type).types := by
  obtain ⟨⟨id, hregister⟩, -⟩ := call_eq_ok h
  exact ((hsettled.after type).id?_eq_some_iff.mp (id?_of_register? hregister)).1

end Registry

namespace Context

variable {context : Context n}

/-- The entity of a type is found exactly if the type can be registered. -/
theorem entity_eq (hsettled : context.registry.Settled catalog) (type : Fin n) :
    context.entity catalog type =
      (context.registry.call catalog type,
        { context with registry := context.registry.after catalog type }) := by
  rw [entity, register, Registry.call]
  cases hregister : context.registry.register? catalog type with
  | error error =>
      rw [Registry.register?_eq_error_iff.mp hregister, Registry.after_of_error hregister]
      rfl
  | ok answer =>
      obtain ⟨id, registered⟩ := answer
      have hregistered := hsettled.register? hregister
      have hentity : registered.schema.entity? id =
          some (Registry.entityOf catalog registered.schema.naming registered.types type) := by
        have hid := Registry.id?_of_register? hregister
        rw [Schema.entity?, hregistered.getElem?_entities,
          hregistered.id?_eq_some_iff_getElem?.mp hid, Option.map_some]
      rw [Registry.register?_eq_ok_iff.mp hregister, Registry.after_of_ok hregister]
      change (Schema.required registered.schema id, _) = _
      rw [Schema.required, hentity]
      rfl

theorem entity?_eq (hsettled : context.registry.Settled catalog) (type : Fin n) :
    context.entity? catalog type =
      (context.registry.call catalog type).map fun entity =>
        (entity, { context with registry := context.registry.after catalog type }) := by
  rw [entity?, entity_eq hsettled]

theorem call_of_entity?_eq_error {error : Error} (hsettled : context.registry.Settled catalog)
    (h : context.entity? catalog type = .error error) :
    context.registry.call catalog type = .error error := by
  rw [entity?_eq hsettled] at h
  cases hcall : context.registry.call catalog type with
  | ok entity =>
      rw [hcall] at h
      cases h
  | error cause =>
      rw [hcall] at h
      cases h
      rfl

theorem name_of_entity? {registered : Context n} {entity : Entity}
    (hsettled : context.registry.Settled catalog)
    (h : context.entity? catalog type = .ok (entity, registered)) :
    entity.name = (catalog type).name := by
  rw [entity?_eq hsettled] at h
  cases hcall : context.registry.call catalog type with
  | ok found =>
      rw [hcall] at h
      cases h
      rw [(Registry.call_eq_ok hcall).2]
      rfl
  | error cause =>
      rw [hcall] at h
      cases h

/-- Whatever was called before, a call ends, and finds the entity of its type exactly if all types
that can be reached are valid.  Else nothing changes, and the cause is in a declaration.  If it
does, the types that can be reached and had no number get the next ones, and all else stays.  In
either case the entities, the numbers of types and the declarations agree. -/
theorem entity?_all_or_none (catalog : Catalog n) (naming : Naming) (calls : List (Fin n))
    (type : Fin n) (paths : Memo PathKey Path) :
    let registry := Registry.afterAll catalog naming calls
    let call := (Context.mk registry paths).entity catalog type
    let after := call.2.registry
    (∃ steps, (catalog.pop registry.types)^[steps] ([], [type]) =
      (catalog.discover registry.types [] [type], [])) ∧
    (Result.Succeeds call.1 ↔ ∀ other, catalog.Reaches type other → (catalog other).Valid) ∧
    (∀ error, call.1 = .error error →
      call.2 = ⟨registry, paths⟩ ∧ (∀ id, error ≠ .notRegistered id) ∧
        ∀ unknown, error ≠ .typeNotRegistered unknown) ∧
    (∀ entity, call.1 = .ok entity →
      call.2.paths = paths ∧ after.id? type = some entity.id ∧
        after.schema.entities[entity.id]? = some entity ∧
        registry.schema.entities <+: after.schema.entities ∧
        (∀ other id, registry.id? other = some id → after.id? other = some id) ∧
        ∃ added : List (Fin n),
          after.numbers = registry.numbers ++ added.zipIdx registry.schema.entities.length ∧
          added.Nodup ∧
          ∀ other, other ∈ added ↔ catalog.Reaches type other ∧ registry.id? other = none) ∧
    registry.WellFormed catalog ∧ after.WellFormed catalog := by
  intro registry call after
  have hsettled : registry.Settled catalog := Registry.settled_afterAll naming calls
  have hcall : call = (registry.call catalog type, ⟨registry.after catalog type, paths⟩) :=
    @entity_eq n catalog ⟨registry, paths⟩ hsettled type
  have hbehind : after = registry.after catalog type :=
    congrArg (fun answer => answer.2.registry) hcall
  have hafter : after.Settled catalog := by
    rw [hbehind]
    exact hsettled.after type
  rw [hcall]
  refine ⟨catalog.exists_iterate_pop _ _ _, ?_, ?_, ?_, hsettled.wellFormed, hafter.wellFormed⟩
  · rw [← hsettled.succeeds_register?_iff, Registry.call]
    cases registry.register? catalog type <;> simp [Except.map]
  · intro error herror
    have hregister := Registry.register?_of_call_eq_error herror
    have hkind := hsettled.kind_of_register? hregister
    refine ⟨congrArg (Context.mk · paths) (Registry.after_of_error hregister), ?_, ?_⟩
    · rintro id rfl
      simp [Error.kind] at hkind
    · rintro unknown rfl
      simp [Error.kind] at hkind
  · intro entity hok
    have hmem := hsettled.mem_types_of_call hok
    obtain ⟨⟨id, hregister⟩, rfl⟩ := Registry.call_eq_ok hok
    rw [← hbehind] at hmem hregister ⊢
    have hid := hafter.id?_eq_some_iff.mpr ⟨hmem, rfl⟩
    obtain ⟨added, hnumbers, hnodup, hadded⟩ := hsettled.numbers_of_register? hregister
    refine ⟨rfl, hid, ?_, hsettled.entities_of_register? hregister, ?_, added, hnumbers, hnodup,
      fun other => ?_⟩
    · exact hafter.entity?_eq_some_iff.mpr ⟨type, hafter.id?_eq_some_iff_getElem?.mp hid, rfl⟩
    · intro other number hnumber
      rw [Registry.id?] at hnumber ⊢
      rw [hnumbers, List.lookup_append, hnumber, Option.some_or]
    · rw [hadded, Registry.id?_eq_none_iff]

end Context

end EntityQuery
