import EntityQuery.Schema.Entity

/-!
# Schemas

The registered entities, each at the place of its number.  An entity is registered together with
all entities that can be reached from it, or not at all.
-/

namespace EntityQuery

structure Schema where
  naming : Naming
  entities : List Entity
deriving Inhabited

namespace Schema

def empty (naming : Naming) : Schema := ⟨naming, []⟩

def entity? (schema : Schema) (id : EntityId) : Option Entity :=
  schema.entities[id]?

def required (schema : Schema) (id : EntityId) : Result Entity :=
  match schema.entity? id with
  | some entity => .ok entity
  | none => .error (.notRegistered id)

end Schema

namespace Catalog

/-- The number of types that are not among those found. -/
def unseen (found : List (Fin n)) : Nat :=
  (List.finRange n).countP fun type => !found.contains type

theorem unseen_append_lt {found : List (Fin n)} {type : Fin n} (h : found.contains type = false) :
    unseen (found ++ [type]) < unseen found := by
  unfold unseen
  have hcount : ∀ types : List (Fin n), type ∈ types →
      (types.countP fun other => !(found ++ [type]).contains other) <
        types.countP fun other => !found.contains other := by
    intro types hmem
    induction types with
    | nil => simp at hmem
    | cons head tail ih =>
        have hle : (tail.countP fun other => !(found ++ [type]).contains other) ≤
            tail.countP fun other => !found.contains other := by
          apply List.countP_mono_left
          intro other _ hother
          simp_all
        rw [List.countP_cons, List.countP_cons]
        by_cases heq : head = type
        · subst heq
          have hnew : (!(found ++ [head]).contains head) = false := by simp
          have hold : (!found.contains head) = true := by rw [h, Bool.not_false]
          rw [hnew, hold, if_neg Bool.false_ne_true, if_pos rfl]
          omega
        · have htail : type ∈ tail := by
            cases hmem with
            | head => exact absurd rfl heq
            | tail _ htail => exact htail
          have := ih htail
          have hsame : (!(found ++ [type]).contains head) = !found.contains head := by
            simp [heq]
          rw [hsame]
          omega
  exact hcount _ (List.mem_finRange type)

/-- Adds to `found` every type that can be reached from the pending ones, in the order of a
depth-first walk that takes properties in their order. -/
def discover (catalog : Catalog n) (known : List (Fin n)) :
    List (Fin n) → List (Fin n) → List (Fin n)
  | found, [] => found
  | found, type :: pending =>
      if _hseen : known.contains type ∨ found.contains type then discover catalog known found pending
      else discover catalog known (found ++ [type]) ((catalog type).related ++ pending)
termination_by found pending => (unseen found, pending.length)
decreasing_by
  · exact Prod.Lex.right _ (by simp)
  · exact Prod.Lex.left _ _ (unseen_append_lt (Bool.eq_false_iff.mpr fun hmem => _hseen (.inr hmem)))

end Catalog

/-- A schema together with the numbers of its types, in the order in which these were added. -/
structure Registry (n : Nat) where
  schema : Schema
  numbers : List (Fin n × EntityId)

/-- What may add to a registry; behind a failure there is a registry too. -/
abbrev Registering (n : Nat) := ExceptT Error (StateM (Registry n))

def Registering.ofResult (result : Result α) : Registering n α := fun registry => (result, registry)

namespace Registry

def empty (naming : Naming) : Registry n := ⟨.empty naming, []⟩

def types (registry : Registry n) : List (Fin n) :=
  registry.numbers.map Prod.fst

def id? (registry : Registry n) (type : Fin n) : Option EntityId :=
  registry.numbers.lookup type

/-- The types to be added for a type, each with the next number. -/
def assign (catalog : Catalog n) (registry : Registry n) (type : Fin n) :
    List (Fin n × EntityId) :=
  (catalog.discover registry.types [] [type]).zipIdx registry.schema.entities.length

/-- The number of a type that is there or gets one. -/
def number? (registry : Registry n) (assigned : List (Fin n × EntityId)) (type : Fin n) :
    Result EntityId :=
  match (registry.id? type).or (assigned.lookup type) with
  | some id => .ok id
  | none => .error (.typeNotRegistered type)

/-- Builds the entities to be added; nothing is added yet. -/
def build? (catalog : Catalog n) (registry : Registry n) (assigned : List (Fin n × EntityId)) :
    Result (List Entity) :=
  (assigned.map Prod.fst).mapM fun type => do
    Entity.ofDeclaration? registry.schema.naming (registry.number? assigned)
      (← registry.number? assigned type) (catalog type)

def insert (registry : Registry n) (type : Fin n) (entity : Entity) : Registry n :=
  ⟨{ registry.schema with entities := registry.schema.entities ++ [entity] },
    registry.numbers ++ [(type, entity.id)]⟩

/-- Adds a type and all types that can be reached from it and are not there. -/
def add (catalog : Catalog n) (type : Fin n) : Registering n EntityId := do
  let registry ← get
  let assigned := registry.assign catalog type
  let entities ← .ofResult (registry.build? catalog assigned)
  let id ← .ofResult (registry.number? assigned type)
  ((assigned.map Prod.fst).zip entities).forM fun (type, entity) =>
    modify fun registry => registry.insert type entity
  return id

/-- The number of a type, which is added if it is not there. -/
def register (catalog : Catalog n) (type : Fin n) : Registering n EntityId := do
  match (← get).id? type with
  | some id => return id
  | none => add catalog type

end Registry

end EntityQuery
