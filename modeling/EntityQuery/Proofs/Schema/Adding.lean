import EntityQuery.Proofs.Result
import EntityQuery.Proofs.Schema.Discovery

/-!
# Adding to a registry

A call adds entities one after another, behind all that can fail.  So a call that fails leaves the
registry as it was; and one that succeeds leaves every type that it has found with the number that
it was given.
-/

namespace EntityQuery

variable {n : Nat} {catalog : Catalog n} {type : Fin n}

/-- What is numbered from `start` on has its place as its number. -/
theorem lookup_zipIdx {types : List (Fin n)} (h : type ∈ types) (start : Nat) :
    (types.zipIdx start).lookup type = some (start + types.idxOf type) := by
  induction types generalizing start with
  | nil => cases h
  | cons first types ih =>
      rw [List.zipIdx_cons, List.lookup_cons, List.idxOf_cons]
      by_cases heq : type = first
      · subst heq
        simp
      · have hmem : type ∈ types := (List.mem_cons.mp h).resolve_left heq
        rw [beq_eq_false_iff_ne.mpr heq, beq_eq_false_iff_ne.mpr (Ne.symm heq), ih hmem]
        exact congrArg some (Nat.succ_add_eq_add_succ start _)

theorem lookup_eq_none_iff {numbers : List (Fin n × EntityId)} :
    numbers.lookup type = none ↔ type ∉ numbers.map Prod.fst := by
  rw [List.lookup_eq_none_iff]
  constructor
  · intro h hmem
    obtain ⟨pair, hpair, rfl⟩ := List.mem_map.mp hmem
    exact absurd rfl (bne_iff_ne.mp (h pair hpair))
  · intro h pair hpair
    exact bne_iff_ne.mpr fun heq => h (List.mem_map.mpr ⟨pair, hpair, heq.symm⟩)

namespace Registering

variable {α β : Type}

theorem bind_of_ok {first : Registering n α} {value : α} {registry registered : Registry n}
    (h : first registry = (.ok value, registered)) (next : α → Registering n β) :
    (first >>= next) registry = next value registered := by
  change ExceptT.bindCont next (first registry).1 (first registry).2 = _
  rw [h]
  rfl

end Registering

/-- An entity has the number that it is built with. -/
theorem Entity.id_of_ofDeclaration? {ε : Type} {naming : Naming} {resolve : ε → Result EntityId}
    {id : EntityId} {declaration : EntityDeclaration ε} {entity : Entity}
    (h : ofDeclaration? naming resolve id declaration = .ok entity) : entity.id = id := by
  obtain ⟨-, -, h⟩ := Result.bind_eq_ok.mp h
  obtain ⟨draft, -, h⟩ := Result.bind_eq_ok.mp h
  cases h
  rfl

namespace Registry

variable {registry registered : Registry n} {id : EntityId} {error : Error}

theorem id?_eq_none_iff : registry.id? type = none ↔ type ∉ registry.types :=
  lookup_eq_none_iff

theorem number?_eq_ok_iff {assigned : List (Fin n × EntityId)} :
    registry.number? assigned type = .ok id ↔
      (registry.id? type).or (assigned.lookup type) = some id := by
  rw [number?]
  cases (registry.id? type).or (assigned.lookup type) <;> simp

theorem map_fst_assign (catalog : Catalog n) (registry : Registry n) (type : Fin n) :
    (registry.assign catalog type).map Prod.fst =
      catalog.discover registry.types [] [type] :=
  List.zipIdx_map_fst ..

/-! ### What is added -/

def insertAll (registry : Registry n) (added : List (Fin n × Entity)) : Registry n :=
  added.foldl (fun registry (type, entity) => registry.insert type entity) registry

theorem insertAll_eq (registry : Registry n) (added : List (Fin n × Entity)) :
    registry.insertAll added =
      ⟨⟨registry.schema.naming, registry.schema.entities ++ added.map Prod.snd⟩,
        registry.numbers ++ added.map fun (type, entity) => (type, entity.id)⟩ := by
  induction added generalizing registry with
  | nil => rw [List.map_nil, List.map_nil, List.append_nil, List.append_nil]; rfl
  | cons first added ih =>
      rw [insertAll, List.foldl_cons, ← insertAll, ih]
      simp only [insert, List.append_assoc, List.singleton_append, List.map_cons]

theorem run_forM_insert (registry : Registry n) (added : List (Fin n × Entity)) :
    (added.forM fun (type, entity) => modify fun registry => registry.insert type entity :
      Registering n PUnit) registry = (.ok (), registry.insertAll added) := by
  induction added generalizing registry with
  | nil => rfl
  | cons first added ih => exact ih (registry.insert first.1 first.2)

/-! ### A call -/

/-- The registry behind a call, which may have failed. -/
def after (catalog : Catalog n) (registry : Registry n) (type : Fin n) : Registry n :=
  (register catalog type registry).2

/-- What a call gives, with the registry behind it. -/
def register? (catalog : Catalog n) (registry : Registry n) (type : Fin n) :
    Result (EntityId × Registry n) :=
  (register catalog type registry).1.map fun id => (id, registry.after catalog type)

theorem register_eq (catalog : Catalog n) (registry : Registry n) (type : Fin n) :
    register catalog type registry =
      match registry.id? type with
      | some id => (.ok id, registry)
      | none => add catalog type registry := by
  unfold register
  rw [Registering.bind_of_ok (rfl : (get : Registering n _) registry = (.ok registry, registry))]
  change (match registry.id? type with
    | some id => (pure id : Registering n EntityId)
    | none => add catalog type) registry = _
  cases registry.id? type <;> rfl

/-- Nothing that can fail comes after the first entity that is added. -/
theorem add_eq (catalog : Catalog n) (registry : Registry n) (type : Fin n) :
    add catalog type registry =
      match registry.build? catalog (registry.assign catalog type) with
      | .error error => (.error error, registry)
      | .ok entities =>
          match registry.number? (registry.assign catalog type) type with
          | .error error => (.error error, registry)
          | .ok id =>
              (.ok id, registry.insertAll
                ((catalog.discover registry.types [] [type]).zip entities)) := by
  unfold add
  change (Registering.ofResult (registry.build? catalog _) >>= _ : Registering n EntityId)
    registry = _
  cases registry.build? catalog (registry.assign catalog type) with
  | error error => rfl
  | ok entities =>
      change (Registering.ofResult (registry.number? _ type) >>= _ : Registering n EntityId)
        registry = _
      cases registry.number? (registry.assign catalog type) type with
      | error error => rfl
      | ok id =>
          rw [← map_fst_assign]
          exact Registering.bind_of_ok (run_forM_insert registry _) fun _ => pure id

/-- A call fails and changes nothing, finds a number, or adds all that it has found. -/
theorem register_cases (catalog : Catalog n) (registry : Registry n) (type : Fin n) :
    (∃ error, register catalog type registry = (.error error, registry)) ∨
    (∃ id, registry.id? type = some id ∧ register catalog type registry = (.ok id, registry)) ∨
    ∃ entities id, registry.id? type = none ∧
      registry.build? catalog (registry.assign catalog type) = .ok entities ∧
      registry.number? (registry.assign catalog type) type = .ok id ∧
      register catalog type registry =
        (.ok id, registry.insertAll ((catalog.discover registry.types [] [type]).zip entities)) := by
  rw [register_eq]
  cases hid : registry.id? type with
  | some id => exact .inr (.inl ⟨id, rfl, rfl⟩)
  | none =>
      simp only [add_eq]
      cases hbuild : registry.build? catalog (registry.assign catalog type) with
      | error error => exact .inl ⟨error, rfl⟩
      | ok entities =>
          cases hnumber : registry.number? (registry.assign catalog type) type with
          | error error => exact .inl ⟨error, rfl⟩
          | ok id => exact .inr (.inr ⟨entities, id, trivial, rfl, rfl, rfl⟩)

theorem register?_eq_ok_iff :
    registry.register? catalog type = .ok (id, registered) ↔
      register catalog type registry = (.ok id, registered) := by
  rw [register?, after]
  obtain ⟨result, behind⟩ := register catalog type registry
  cases result with
  | error error => exact iff_of_false (by rintro ⟨⟩) (by rintro ⟨⟩)
  | ok value =>
      constructor <;> rintro ⟨⟩ <;> rfl

theorem register?_of_some (h : registry.id? type = some id) :
    registry.register? catalog type = .ok (id, registry) := by
  rw [register?_eq_ok_iff, register_eq, h]

theorem after_of_ok (h : registry.register? catalog type = .ok (id, registered)) :
    registry.after catalog type = registered := by
  rw [after, register?_eq_ok_iff.mp h]

/-- A call that fails changes nothing. -/
theorem register?_eq_error_iff :
    registry.register? catalog type = .error error ↔
      register catalog type registry = (.error error, registry) := by
  rw [register?]
  obtain ⟨cause, hcall⟩ | ⟨id, -, hcall⟩ | ⟨entities, id, -, -, -, hcall⟩ :=
    register_cases catalog registry type
  · rw [hcall]
    constructor <;> rintro ⟨⟩ <;> rfl
  · rw [hcall]
    exact iff_of_false (by rintro ⟨⟩) (by rintro ⟨⟩)
  · rw [hcall]
    exact iff_of_false (by rintro ⟨⟩) (by rintro ⟨⟩)

theorem after_of_error (h : registry.register? catalog type = .error error) :
    registry.after catalog type = registry := by
  rw [after, register?_eq_error_iff.mp h]

/-- A call leaves the registry as it is, or succeeds. -/
theorem after_cases (catalog : Catalog n) (registry : Registry n) (type : Fin n) :
    registry.after catalog type = registry ∨
      ∃ id, registry.register? catalog type = .ok (id, registry.after catalog type) := by
  cases hregister : registry.register? catalog type with
  | error error => exact .inl (after_of_error hregister)
  | ok answer =>
      obtain ⟨id, registered⟩ := answer
      exact .inr ⟨id, by rw [after_of_ok hregister]⟩

/-! ### The numbers behind a call -/

theorem number?_of_mem_discover {other : Fin n}
    (h : other ∈ catalog.discover registry.types [] [type]) :
    registry.number? (registry.assign catalog type) other =
      .ok (registry.schema.entities.length +
        (catalog.discover registry.types [] [type]).idxOf other) := by
  rw [number?_eq_ok_iff, id?_eq_none_iff.mpr (Catalog.notMem_of_mem_discover h), assign,
    lookup_zipIdx h, Option.none_or]

/-- The entities have the numbers that their types were given. -/
theorem numbers_of_build? {entities : List Entity}
    (h : registry.build? catalog (registry.assign catalog type) = .ok entities) :
    (((catalog.discover registry.types [] [type]).zip entities).map
      fun (type, entity) => (type, entity.id)) = registry.assign catalog type := by
  rw [build?, map_fst_assign, Result.mapM_eq_ok] at h
  have hlength := h.length_eq
  rw [List.forall₂_iff_get] at h
  obtain ⟨-, hbuilt⟩ := h
  refine List.ext_getElem (by simp [assign, hlength]) fun index hfirst hsecond => ?_
  have hindex : index < (catalog.discover registry.types [] [type]).length := by
    simpa [assign] using hsecond
  obtain ⟨id, hid, hentity⟩ := Result.bind_eq_ok.mp (hbuilt index hindex (hlength ▸ hindex))
  rw [number?_of_mem_discover (List.get_mem _ _)] at hid
  cases hid
  have hnumber := Entity.id_of_ofDeclaration? hentity
  rw [List.get_eq_getElem, List.get_eq_getElem,
    List.Nodup.idxOf_getElem Catalog.nodup_discover] at hnumber
  simp [assign, hnumber]

theorem id?_of_register? (h : registry.register? catalog type = .ok (id, registered)) :
    registered.id? type = some id := by
  rw [register?_eq_ok_iff] at h
  obtain ⟨cause, hcall⟩ | ⟨known, hknown, hcall⟩ | ⟨entities, given, -, hbuild, hgiven, hcall⟩ :=
    register_cases catalog registry type
  · rw [hcall] at h
    cases h
  · rw [hcall] at h
    cases h
    exact hknown
  · rw [hcall] at h
    cases h
    rw [id?, insertAll_eq, numbers_of_build? hbuild, List.lookup_append]
    exact number?_eq_ok_iff.mp hgiven

end Registry

end EntityQuery
