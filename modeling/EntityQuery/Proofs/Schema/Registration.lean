import EntityQuery.Context
import EntityQuery.Proofs.Schema.Adding
import EntityQuery.Proofs.Schema.Building

/-!
# Registration

Every registration keeps the registry settled: its types are different, refer to each other only and
have valid declarations, and its entities are given by the types and their places.  Registering a
type again finds its entity and leaves the context as it is.
-/

namespace EntityQuery

variable {n : Nat} {catalog : Catalog n} {type other : Fin n}

/-! ### Registering again -/

namespace Context

variable {context registered : Context n}

theorem register?_eq_bind (catalog : Catalog n) (context : Context n) (type : Fin n) :
    context.register? catalog type = (do
      let (id, registry) ← context.registry.register? catalog type
      return (id, { context with registry })) := by
  rw [register?, register, Registry.register?, Registry.after]
  obtain ⟨_ | _, _⟩ := Registry.register catalog type context.registry <;> rfl

theorem entity?_eq_bind (catalog : Catalog n) (context : Context n) (type : Fin n) :
    context.entity? catalog type = (do
      let (id, registered) ← context.register? catalog type
      return (← registered.schema.required id, registered)) := by
  rw [entity?, entity, register?]
  obtain ⟨_ | id, registered⟩ := context.register catalog type
  · rfl
  · change Except.map _ (registered.schema.required id) = registered.schema.required id >>= _
    cases registered.schema.required id <;> rfl

theorem entity?_eq_ok_iff {entity : Entity} :
    context.entity? catalog type = .ok (entity, registered) ↔
      context.entity catalog type = (.ok entity, registered) := by
  rw [entity?]
  obtain ⟨_ | _, _⟩ := context.entity catalog type
  · exact iff_of_false (by rintro ⟨⟩) (by rintro ⟨⟩)
  · constructor <;> rintro ⟨⟩ <;> rfl

theorem register?_idem {id : EntityId} (h : context.register? catalog type = .ok (id, registered)) :
    registered.register? catalog type = .ok (id, registered) := by
  rw [register?_eq_bind, Result.bind_eq_ok] at h
  obtain ⟨⟨_, registry⟩, hregister, h⟩ := h
  cases h
  rw [register?_eq_bind, Result.bind_eq_ok]
  exact ⟨(id, registry), Registry.register?_of_some (Registry.id?_of_register? hregister), rfl⟩

theorem entity?_idem {entity : Entity}
    (h : context.entity? catalog type = .ok (entity, registered)) :
    registered.entity? catalog type = .ok (entity, registered) := by
  rw [entity?_eq_bind, Result.bind_eq_ok] at h
  obtain ⟨⟨id, next⟩, hregister, h⟩ := h
  rw [Result.bind_eq_ok] at h
  obtain ⟨found, hfound, h⟩ := h
  cases h
  rw [entity?_eq_bind, Result.bind_eq_ok]
  refine ⟨(id, registered), register?_idem hregister, ?_⟩
  rw [Result.bind_eq_ok]
  exact ⟨entity, hfound, rfl⟩

end Context

/-! ### Settled registries -/

namespace EntityDeclaration

theorem map_congr {ε δ : Type} {declaration : EntityDeclaration ε} {f g : ε → δ}
    (h : ∀ target ∈ declaration.related, f target = g target) :
    declaration.map f = declaration.map g := by
  unfold EntityDeclaration.map
  congr 1
  apply List.map_congr_left
  intro property hproperty
  have htarget : ∀ target, property.shape.target? = some target → f target = g target :=
    fun target ht => h target (List.mem_filterMap.mpr ⟨property, hproperty, ht⟩)
  unfold PropertyDeclaration.map
  congr 1
  cases hshape : property.shape with
  | simple => rfl
  | reference target | embedded target lead | collection kind target =>
      rw [hshape] at htarget
      simp only [Shape.map, htarget target rfl]

end EntityDeclaration

namespace Registry

/-- The entity of a type whose number is its place among these types. -/
def entityOf (catalog : Catalog n) (naming : Naming) (types : List (Fin n)) (type : Fin n) :
    Entity :=
  ((catalog type).map types.idxOf).entity naming (types.idxOf type)

structure Settled (catalog : Catalog n) (registry : Registry n) : Prop where
  nodup : registry.types.Nodup
  closed : catalog.Closed registry.types
  valid : ∀ type ∈ registry.types, (catalog type).Valid
  numbers : registry.numbers = registry.types.zipIdx
  entities : registry.schema.entities =
    registry.types.map (entityOf catalog registry.schema.naming registry.types)

/-- The registry with the types found behind its own. -/
def extend (catalog : Catalog n) (registry : Registry n) (found : List (Fin n)) : Registry n :=
  let types := registry.types ++ found
  ⟨⟨registry.schema.naming, types.map (entityOf catalog registry.schema.naming types)⟩,
    types.zipIdx⟩

theorem types_extend (registry : Registry n) (found : List (Fin n)) :
    (registry.extend catalog found).types = registry.types ++ found :=
  List.zipIdx_map_fst ..

theorem settled_empty (naming : Naming) : (empty naming : Registry n).Settled catalog :=
  ⟨List.nodup_nil, by simp [Catalog.Closed, empty, types], by simp [empty, types], rfl, rfl⟩

/-- A type keeps its entity when others get places behind it. -/
theorem entityOf_append {naming : Naming} {types found : List (Fin n)}
    (hclosed : catalog.Closed types) (hmem : type ∈ types) :
    entityOf catalog naming (types ++ found) type = entityOf catalog naming types type := by
  have hrelated : ∀ target ∈ (catalog type).related,
      (types ++ found).idxOf target = types.idxOf target :=
    fun target htarget => List.idxOf_append_of_mem (hclosed type hmem target htarget)
  rw [entityOf, entityOf, EntityDeclaration.map_congr hrelated, List.idxOf_append_of_mem hmem]

namespace Settled

variable {registry registered : Registry n} (hsettled : registry.Settled catalog)

include hsettled

theorem id?_eq_some_iff {id : EntityId} :
    registry.id? type = some id ↔ type ∈ registry.types ∧ registry.types.idxOf type = id := by
  by_cases hmem : type ∈ registry.types
  · rw [id?, hsettled.numbers, lookup_zipIdx hmem, Nat.zero_add, and_iff_right hmem,
      Option.some.injEq]
  · rw [id?_eq_none_iff.mpr hmem]
    exact iff_of_false (fun h => by cases h) fun h => hmem h.1

theorem length_entities : registry.schema.entities.length = registry.types.length := by
  rw [hsettled.entities, List.length_map]

/-- A type that is there keeps its place, and one that is found gets the next one. -/
theorem number?_of_mem (h : other ∈ registry.types ++ catalog.discover registry.types [] [type]) :
    registry.number? (registry.assign catalog type) other =
      .ok ((registry.types ++ catalog.discover registry.types [] [type]).idxOf other) := by
  by_cases hmem : other ∈ registry.types
  · rw [number?_eq_ok_iff, hsettled.id?_eq_some_iff.mpr ⟨hmem, rfl⟩, Option.some_or,
      List.idxOf_append_of_mem hmem]
  · rw [number?_of_mem_discover ((List.mem_append.mp h).resolve_left hmem),
      hsettled.length_entities, List.idxOf_append_of_notMem hmem, Nat.add_comm]

theorem register?_of_mem (h : type ∈ registry.types) :
    registry.register? catalog type = .ok (registry.types.idxOf type, registry) :=
  register?_of_some (hsettled.id?_eq_some_iff.mpr ⟨h, rfl⟩)

theorem closed_append (pending : List (Fin n)) :
    catalog.Closed (registry.types ++ catalog.discover registry.types [] pending) :=
  Catalog.closed_append_discover hsettled.closed

/-- What is built is checked first, and is then given by the types and their places. -/
theorem build?_eq (type : Fin n) :
    registry.build? catalog (registry.assign catalog type) =
      ((catalog.discover registry.types [] [type]).mapM fun other => (catalog other).check).map
        fun _ => (catalog.discover registry.types [] [type]).map (entityOf catalog
          registry.schema.naming (registry.types ++ catalog.discover registry.types [] [type])) := by
  rw [build?, map_fst_assign]
  refine Result.mapM_eq_map_of_forall fun other hother => ?_
  have hmem : other ∈ registry.types ++ catalog.discover registry.types [] [type] :=
    List.mem_append_right _ hother
  rw [hsettled.number?_of_mem hmem]
  exact Entity.ofDeclaration?_eq fun target htarget =>
    hsettled.number?_of_mem (hsettled.closed_append [type] other hmem target htarget)

/-- The entities and the numbers that were there stay as they are. -/
theorem extend_eq (found : List (Fin n)) :
    registry.extend catalog found =
      ⟨⟨registry.schema.naming, registry.schema.entities ++
          found.map (entityOf catalog registry.schema.naming (registry.types ++ found))⟩,
        registry.numbers ++ found.zipIdx registry.schema.entities.length⟩ := by
  have hold : registry.types.map
      (entityOf catalog registry.schema.naming (registry.types ++ found)) =
        registry.schema.entities := by
    rw [hsettled.entities]
    exact List.map_congr_left fun other hother => entityOf_append hsettled.closed hother
  rw [extend, hsettled.numbers, hsettled.length_entities, List.map_append, hold,
    List.zipIdx_append, Nat.zero_add]

/-- What a call does for a new type: it checks all types found, and then adds them all. -/
theorem register?_of_notMem (h : type ∉ registry.types) :
    registry.register? catalog type =
      ((catalog.discover registry.types [] [type]).mapM fun other => (catalog other).check).map
        fun _ =>
          let extended := registry.extend catalog (catalog.discover registry.types [] [type])
          (extended.types.idxOf type, extended) := by
  have hmem : type ∈ registry.types ++ catalog.discover registry.types [] [type] :=
    List.mem_append_right _ (Catalog.mem_discover_of_mem_pending List.mem_cons_self h)
  have hbuild := hsettled.build?_eq type
  rw [register?, after, register_eq, id?_eq_none_iff.mpr h]
  simp only [add_eq, hsettled.number?_of_mem hmem, types_extend]
  cases hcheck : (catalog.discover registry.types [] [type]).mapM
      fun other => (catalog other).check with
  | error error =>
      rw [hcheck] at hbuild
      rw [hbuild]
      rfl
  | ok values =>
      rw [hcheck] at hbuild
      have hadded := insertAll_eq registry ((catalog.discover registry.types [] [type]).zip
        ((catalog.discover registry.types [] [type]).map (entityOf catalog
          registry.schema.naming (registry.types ++ catalog.discover registry.types [] [type]))))
      rw [numbers_of_build? hbuild, List.map_snd_zip (by simp), assign, ← hsettled.extend_eq]
        at hadded
      rw [hbuild, ← hadded]
      rfl

theorem settled_extend
    (hvalid : ∀ other ∈ catalog.discover registry.types [] [type], (catalog other).Valid) :
    (registry.extend catalog (catalog.discover registry.types [] [type])).Settled catalog where
  nodup := by
    rw [types_extend]
    refine List.nodup_append.mpr ⟨hsettled.nodup, Catalog.nodup_discover, ?_⟩
    rintro first hfirst second hsecond rfl
    exact Catalog.notMem_of_mem_discover hsecond hfirst
  closed := by
    rw [types_extend]
    exact hsettled.closed_append [type]
  valid := by
    rw [types_extend]
    exact List.forall_mem_append.mpr ⟨hsettled.valid, hvalid⟩
  numbers := by
    rw [types_extend]
    rfl
  entities := by
    rw [types_extend]
    rfl

/-- A call succeeds with the registry as it is for a type that has a place, and with the extended
one for a new type if all types found are valid. -/
theorem register?_eq_ok_iff {id : EntityId} :
    registry.register? catalog type = .ok (id, registered) ↔
      registered.types.idxOf type = id ∧
        (type ∈ registry.types ∧ registered = registry ∨
          type ∉ registry.types ∧
            (∀ other ∈ catalog.discover registry.types [] [type], (catalog other).Valid) ∧
            registered = registry.extend catalog (catalog.discover registry.types [] [type])) := by
  by_cases hmem : type ∈ registry.types
  · rw [hsettled.register?_of_mem hmem]
    constructor
    · intro h
      cases h
      exact ⟨rfl, .inl ⟨hmem, rfl⟩⟩
    · rintro ⟨rfl, ⟨-, rfl⟩ | ⟨hnew, -⟩⟩
      · rfl
      · exact absurd hmem hnew
  · rw [hsettled.register?_of_notMem hmem]
    have hchecked : Result.Succeeds ((catalog.discover registry.types [] [type]).mapM
        fun other => (catalog other).check) ↔
        ∀ other ∈ catalog.discover registry.types [] [type], (catalog other).Valid := by
      rw [Result.succeeds_mapM]
      refine forall₂_congr fun other _ => ?_
      rw [← EntityDeclaration.check_eq_ok_iff]
      exact ⟨fun ⟨_, hok⟩ => hok, fun hok => ⟨(), hok⟩⟩
    rw [← hchecked]
    cases hcheck : (catalog.discover registry.types [] [type]).mapM
        fun other => (catalog other).check with
    | error error =>
        simp only [Result.not_succeeds_error, false_and, and_false, or_false]
        refine iff_of_false (fun h => by cases h) fun h => hmem h.2.1
    | ok values =>
        simp only [Result.succeeds_ok, true_and, Except.map, Except.ok.injEq, Prod.mk.injEq]
        constructor
        · rintro ⟨rfl, rfl⟩
          exact ⟨rfl, .inr ⟨hmem, rfl⟩⟩
        · rintro ⟨rfl, ⟨hold, -⟩ | ⟨-, rfl⟩⟩
          · exact absurd hold hmem
          · exact ⟨rfl, rfl⟩

theorem register? {id : EntityId} (h : registry.register? catalog type = .ok (id, registered)) :
    registered.Settled catalog := by
  obtain ⟨-, ⟨-, rfl⟩ | ⟨-, hvalid, rfl⟩⟩ := hsettled.register?_eq_ok_iff.mp h
  · exact hsettled
  · exact hsettled.settled_extend hvalid

end Settled

end Registry

end EntityQuery
