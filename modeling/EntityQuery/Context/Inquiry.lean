import EntityQuery.Context

/-!
# Inquiries

An inquiry is put to a context and hands out paths on its way to an answer, also when it fails in
the end.  The ancestors of a path are looked for by going from parent to parent, each as the memo
gives it, so that the definitions do not say whether the search ends; without an end there is no
answer.
-/

namespace EntityQuery

abbrev Inquiry (n : Nat) := ExceptT Error (StateT (Context n) Option)

/-- What a context tells about a path, in names. -/
structure PathReport where
  length : Nat
  dotted : String
  leaf : Option String
  leafEntity : Option String
  parent : Result String
  identifierParent : Result String
  tableOwner : Result String
  table : Result Identifier
  tableAlias : Result (Option Identifier)
  column : Result Identifier
  columnAlias : Result Identifier
  reverseColumn : Result Identifier
  keyColumn : Result (Option Identifier)
  identifierColumn : Result Identifier
  effectiveIdentifier : Result Identifier
  info : Result TableInfo

namespace Inquiry

variable {n : Nat} {α : Type}

def of (ask : Context n → Result α × Context n) : Inquiry n α := fun context => some (ask context)

def ofResult (result : Result α) : Inquiry n α := of fun context => (result, context)

/-- What is answered, if the inquiry ends. -/
def answer? (inquiry : Inquiry n α) (context : Context n) : Option (Result α) :=
  (inquiry context).map Prod.fst

/-- The outcome of an inquiry as a value, so that others can follow after a failure. -/
def outcome (inquiry : Inquiry n α) : Inquiry n (Result α) := fun context =>
  (inquiry context).map fun (result, context) => (.ok result, context)

def schema : Inquiry n Schema := of fun context => (.ok context.schema, context)

def entity (catalog : Catalog n) (type : Fin n) : Inquiry n Entity := of fun context =>
  context.entity catalog type

/-! ### Paths -/

def handOut (path : Path) : Inquiry n Path := of fun context => context.answer (.ok path)

def rootPath (id : EntityId) : Inquiry n Path := of fun context => context.rootPath id

def resolve (catalog : Catalog n) (type : Fin n) (path : String) : Inquiry n Path :=
  of fun context => context.resolve catalog type path

def append (path : Path) (name : String) : Inquiry n Path := of fun context =>
  context.append path name

def parent (path : Path) : Inquiry n Path := of fun context => context.parent path

/-- Takes parents, so many times. -/
def ancestor : Nat → Path → Inquiry n Path
  | 0, path => pure path
  | steps + 1, path => do ancestor steps (← parent path)

-- A climb goes on from the path that the memo has given, and nothing here says that this one is
-- shorter.  That it is follows from what a memo keeps.

def identifierParent (path : Path) : Inquiry n Path := do
  let above ← parent path
  let schema ← schema
  if above.isRoot || schema.hasIdentifier above then return above
  (by exact identifierParent : Path → Inquiry n Path) above
partial_fixpoint

def tableOwner (path : Path) : Inquiry n Path := do
  if path.isEntity && !path.isEmbedded then return path
  (by exact tableOwner : Path → Inquiry n Path) (← parent path)
partial_fixpoint

def requiredLeafEntity (path : Path) : Inquiry n Entity := do
  ofResult ((← schema).requiredLeafEntity path)

def leafProperty (path : Path) : Inquiry n Property :=
  ofResult (path.leaf?.elim (.error .rootWithoutLeaf) .ok)

/-! ### Tables and columns -/

def table (path : Path) : Inquiry n Identifier := do
  return (← requiredLeafEntity (← tableOwner path)).table

/-- The alias of a path with a table of its own, put together from the root on. -/
def assembledAlias (path : Path) : Inquiry n (Option Identifier) := do
  let property ← leafProperty path
  let label := property.shape.lead?.getD property.name
  let own := if label = "" then none else some (Identifier.quoted label)
  if path.length = 1 then return own
  let above ← parent path
  match ← (by exact assembledAlias : Path → Inquiry n (Option Identifier)) above with
  | none => return own
  | some name =>
      if above.isEmbedded then return some (name.map fun text => text ++ label)
      return some (name.map fun text => text ++ "_" ++ label)
partial_fixpoint

def tableAlias (path : Path) : Inquiry n (Option Identifier) := do
  let owner ← tableOwner path
  if owner.isRoot then return none
  assembledAlias owner

def columnAlias (path : Path) : Inquiry n Identifier := do
  let column ← ofResult path.columnName
  match ← tableAlias path with
  | some label => return column.map fun name => label.name ++ "_" ++ name
  | none => return column

def reverseColumn (path : Path) : Inquiry n Identifier :=
  match path.leaf? with
  | none => throw .rootWithoutReverse
  | some property =>
      match property.reverseColumn with
      | some column => return column
      | none => do
          let entity ← requiredLeafEntity (← identifierParent path)
          return (← schema).naming.reverseColumn entity.table

def keyColumn (path : Path) : Inquiry n (Option Identifier) :=
  match path.leaf? with
  | none => return none
  | some property => do
      if !property.shape.isKeyed then return none
      match property.keyColumn with
      | some column => return some column
      | none => return some (Naming.keyColumn (← reverseColumn path))

def identifierColumn (path : Path) : Inquiry n Identifier := do
  let entity ← requiredLeafEntity path
  return (← ofResult entity.requiredIdentifier).column

def effectiveIdentifier (path : Path) : Inquiry n Identifier := do
  let owner ← tableOwner path
  if owner.isRoot then identifierColumn owner else reverseColumn owner

/-- The column that refers to the identifying parent; none for the root. -/
def reverseColumn? (path : Path) : Inquiry n (Option Identifier) :=
  if path.isRoot then pure none else some <$> reverseColumn path

def identifierColumn? (path : Path) : Inquiry n (Option Identifier) := do
  if (← schema).hasIdentifier path then some <$> identifierColumn path else pure none

def tableInfo (path : Path) : Inquiry n TableInfo := do
  let owner ← tableOwner path
  let reverse ← reverseColumn? owner
  let identifier ← identifierColumn? owner
  return {
    table := ← table owner
    aliasName := ← tableAlias owner
    reverseColumn := reverse
    keyColumn := ← keyColumn owner
    identifierColumn := identifier
    effectiveIdentifier := reverse <|> identifier }

/-- All that is told about a path; each part is told or fails by itself. -/
def report (path : Path) : Inquiry n PathReport := do
  let schema ← schema
  let parent ← outcome (parent path)
  let identifierParent ← outcome (identifierParent path)
  let tableOwner ← outcome (tableOwner path)
  return {
    length := path.length
    dotted := path.dotted
    leaf := path.leaf?.map Property.name
    leafEntity := (schema.leafEntity? path).map Entity.name
    parent := parent.map Path.text
    identifierParent := identifierParent.map Path.text
    tableOwner := tableOwner.map Path.text
    table := ← outcome (table path)
    tableAlias := ← outcome (tableAlias path)
    column := path.columnName
    columnAlias := ← outcome (columnAlias path)
    reverseColumn := ← outcome (reverseColumn path)
    keyColumn := ← outcome (keyColumn path)
    identifierColumn := ← outcome (identifierColumn path)
    effectiveIdentifier := ← outcome (effectiveIdentifier path)
    info := ← outcome (tableInfo path) }

/-- Resolves a path and tells about it. -/
def pathReport (catalog : Catalog n) (type : Fin n) (path : String) : Inquiry n PathReport := do
  report (← resolve catalog type path)

end Inquiry

end EntityQuery
