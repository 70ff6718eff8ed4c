import EntityQuery.Schema.Declaration
import EntityQuery.Schema.Naming

/-!
# Registered entities

An entity with all its names settled.  Entities refer to each other by number.
-/

namespace EntityQuery

abbrev EntityId := Nat

structure Property where
  name : String
  owner : EntityId
  /-- Position among the owner's properties. -/
  index : Nat
  shape : Shape EntityId
  column : Identifier
  reverseColumn : Option Identifier
  keyColumn : Option Identifier
  isIdentifier : Bool
deriving DecidableEq, Inhabited

structure Entity where
  id : EntityId
  name : String
  table : Identifier
  properties : List Property
  identifierIndex : Option Nat
deriving DecidableEq, Inhabited

namespace Entity

def property? (entity : Entity) (name : String) : Option Property :=
  entity.properties.find? fun property => property.name == name

def propertyAt? (entity : Entity) (index : Nat) : Option Property :=
  entity.properties[index]?

def identifier? (entity : Entity) : Option Property :=
  entity.identifierIndex.bind entity.propertyAt?

def hasIdentifier (entity : Entity) : Bool :=
  entity.identifierIndex.isSome

def requiredIdentifier (entity : Entity) : Result Property :=
  match entity.identifier? with
  | some property => .ok property
  | none => .error (.noIdentifier entity.name)

/-- The properties read so far while an entity is built. -/
structure Draft where
  properties : List Property
  identifierIndex : Option Nat

namespace Draft

def empty : Draft := ⟨[], none⟩

/-- The place of an identifier once the property at `index` is added. -/
def nextIdentifier? (draft : Draft) (entity : String) (index : Nat)
    (declaration : PropertyDeclaration ε) : Result (Option Nat) :=
  if !declaration.isIdentifier then .ok draft.identifierIndex
  else if !declaration.shape.isSimple then
    .error (.identifierNotSimple declaration.name entity)
  else
    match draft.identifierIndex with
    | some _ => .error (.severalIdentifiers entity)
    | none => .ok (some index)

/-- Adds a property; `resolve` finds the number of a type. -/
def add? (naming : Naming) (resolve : ε → Result EntityId) (owner : EntityId) (entity : String)
    (draft : Draft) (declaration : PropertyDeclaration ε) : Result Draft := do
  if draft.properties.any fun property => property.name == declaration.name then
    throw (.duplicateProperty declaration.name entity)
  let index := draft.properties.length
  let shape ← declaration.shape.mapM resolve
  let identifierIndex ← draft.nextIdentifier? entity index declaration
  let property : Property :=
    { name := declaration.name
      owner
      index
      shape
      column :=
        naming.identifier (declaration.column.getD (Naming.columnName declaration.name))
      reverseColumn := declaration.reverseColumn.map naming.identifier
      keyColumn := declaration.keyColumn.map naming.identifier
      isIdentifier := declaration.isIdentifier }
  return ⟨draft.properties ++ [property], identifierIndex⟩

end Draft

/-- Settles the names of a declaration and the numbers of the types that it refers to. -/
def ofDeclaration? (naming : Naming) (resolve : ε → Result EntityId) (id : EntityId)
    (declaration : EntityDeclaration ε) : Result Entity := do
  let table := declaration.table.getD (Naming.tableName declaration.name)
  checkName table
  let draft ← declaration.properties.foldlM (Draft.add? naming resolve id declaration.name) .empty
  return ⟨id, declaration.name, naming.identifier table, draft.properties, draft.identifierIndex⟩

end Entity

def PropertyDeclaration.map (f : ε → δ) (declaration : PropertyDeclaration ε) :
    PropertyDeclaration δ :=
  { declaration with shape := declaration.shape.map f }

def EntityDeclaration.map (f : ε → δ) (declaration : EntityDeclaration ε) :
    EntityDeclaration δ :=
  { declaration with properties := declaration.properties.map (·.map f) }

end EntityQuery
