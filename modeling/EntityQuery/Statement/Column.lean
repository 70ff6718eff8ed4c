import EntityQuery.Path.Column
import EntityQuery.Statement.Selection

/-!
# Columns

What a name in a query stands for.  An expression with a call stands for itself, the name of a
property for its column in the table of the entity, and any other name for a column of the table
unless a point shows that it is qualified already.
-/

namespace EntityQuery

structure ColumnScope where
  schema : Schema
  entity : Option Entity
  /-- The text that columns are qualified with. -/
  reference : String
  style : NameStyle

namespace ColumnScope

def qualified (scope : ColumnScope) (column : String) : String :=
  scope.reference ++ "." ++ column

def allColumns (scope : ColumnScope) : String :=
  scope.qualified "*"

/-- The column of a path, if the path is stored in the table of its root. -/
def storedColumn (scope : ColumnScope) (name : String) (path : Path) : Result String := do
  if path.isEntity then throw (.notStored name scope.reference)
  let owner ← scope.schema.tableOwner path
  if !owner.isRoot then throw (.notStored name scope.reference)
  let column ← path.columnName
  return scope.qualified (column.sql scope.style)

def unmapped (scope : ColumnScope) (name : String) : String :=
  if name.toList.contains '.' then name else scope.qualified name

def resolve (scope : ColumnScope) (name : String) : Result String :=
  if name.toList.contains '(' then .ok name
  else if name = "*" then .ok scope.allColumns
  else
    match scope.entity with
    | none => .ok (scope.unmapped name)
    | some entity =>
        match scope.schema.resolve entity name with
        | .ok path => scope.storedColumn name path
        | .error error =>
            if error.kind = .invalidArgument then .ok (scope.unmapped name) else .error error

/-- Resolves a name after a check that it may stand in a statement. -/
def resolveChecked (scope : ColumnScope) (context name : String) : Result String := do
  checkExpression context name
  scope.resolve name

end ColumnScope

namespace Selection

def scope (schema : Schema) (style : NameStyle) (selection : Selection) : ColumnScope :=
  ⟨schema, selection.entity, selection.table.reference.sql style, style⟩

end Selection

/-- Columns of a joined table have no entity behind them. -/
def Join.scope (schema : Schema) (style : NameStyle) (join : Join) : ColumnScope :=
  ⟨schema, none, join.reference, style⟩

end EntityQuery
