import EntityQuery.Path.Ancestor

/-!
# Where a path is stored

The table of a path, the alias of that table, and the columns that hold the path, refer to its
owner, order it and identify it.
-/

namespace EntityQuery

/-- What all paths stored in one table have in common. -/
structure TableInfo where
  table : Identifier
  aliasName : Option Identifier
  /-- Absent for the table of the root. -/
  reverseColumn : Option Identifier
  keyColumn : Option Identifier
  identifierColumn : Option Identifier
  effectiveIdentifier : Option Identifier
deriving DecidableEq, Inhabited

namespace Path

/-- The alias of the table of a path that is not the root; empty labels add nothing. -/
def aliasOf : List Segment → Option String
  | [] => none
  | [segment] => if segment.label = "" then none else some segment.label
  | segment :: parent :: parents =>
      match aliasOf (parent :: parents) with
      | some label =>
          if parent.property.shape.isEmbedded then some (label ++ segment.label)
          else some (label ++ "_" ++ segment.label)
      | none => if segment.label = "" then none else some segment.label

/-- The leads of the embedded properties right above the leaf, from the leaf upwards. -/
def enclosingLeads (parents : List Segment) : List String :=
  match parents with
  | [] => []
  | segment :: rest =>
      match segment.property.shape.lead? with
      | some lead => lead :: enclosingLeads rest
      | none => []

/-- The column of the leaf behind the leads of the embedded properties that enclose it. -/
def columnName (path : Path) : Result Identifier :=
  match path.climb with
  | [] => .error .rootWithoutLeaf
  | leaf :: parents =>
      .ok <| leaf.property.column.map fun name =>
        (enclosingLeads parents).foldl (fun column lead => lead ++ column) name

end Path

namespace Schema

def qualifiedTable (schema : Schema) (path : Path) : Result Identifier := do
  let owner ← schema.tableOwner path
  return (← schema.requiredLeafEntity owner).table

/-- The alias of the table that holds the path; the table of the root has none. -/
def tableAlias (schema : Schema) (path : Path) : Result (Option Identifier) := do
  let owner ← schema.tableOwner path
  return (Path.aliasOf owner.climb).map .quoted

/-- The column under the name that it has in a list of columns of several tables. -/
def columnAlias (schema : Schema) (path : Path) : Result Identifier := do
  let column ← path.columnName
  match ← schema.tableAlias path with
  | some label => return column.map fun name => label.name ++ "_" ++ name
  | none => return column

/-- The column that refers to the row of the identifying parent. -/
def reverseColumn (schema : Schema) (path : Path) : Result Identifier :=
  match path.leaf? with
  | none => .error .rootWithoutReverse
  | some property =>
      match property.reverseColumn with
      | some column => .ok column
      | none => do
          let parent ← schema.identifierParent path
          let entity ← schema.requiredLeafEntity parent
          return schema.naming.reverseColumn entity.table

/-- The key column of a list or a map. -/
def keyColumn (schema : Schema) (path : Path) : Result (Option Identifier) :=
  match path.leaf? with
  | none => .ok none
  | some property =>
      if !property.shape.isKeyed then .ok none
      else
        match property.keyColumn with
        | some column => .ok (some column)
        | none => do return some (Naming.keyColumn (← schema.reverseColumn path))

def requiredIdentifier (schema : Schema) (path : Path) : Result Property := do
  (← schema.requiredLeafEntity path).requiredIdentifier

def identifierColumn (schema : Schema) (path : Path) : Result Identifier := do
  return (← schema.requiredIdentifier path).column

/-- The column that identifies rows of the table holding the path. -/
def effectiveIdentifier (schema : Schema) (path : Path) : Result Identifier := do
  let owner ← schema.tableOwner path
  if owner.isRoot then schema.identifierColumn owner else schema.reverseColumn owner

/-- The column that refers to the identifying parent; none for the root. -/
def reverseColumn? (schema : Schema) (path : Path) : Result (Option Identifier) :=
  if path.isRoot then pure none else some <$> schema.reverseColumn path

def identifierColumn? (schema : Schema) (path : Path) : Result (Option Identifier) :=
  if schema.hasIdentifier path then some <$> schema.identifierColumn path else pure none

def tableInfo (schema : Schema) (path : Path) : Result TableInfo := do
  let owner ← schema.tableOwner path
  let reverse ← schema.reverseColumn? owner
  let identifier ← schema.identifierColumn? owner
  return {
    table := ← schema.qualifiedTable owner
    aliasName := ← schema.tableAlias owner
    reverseColumn := reverse
    keyColumn := ← schema.keyColumn owner
    identifierColumn := identifier
    effectiveIdentifier := reverse <|> identifier }

end Schema

end EntityQuery
