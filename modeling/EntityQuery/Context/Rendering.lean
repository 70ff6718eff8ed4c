import EntityQuery.Context.Inquiry
import EntityQuery.Statement.Select

/-!
# Statements as inquiries

A statement is rendered over a context: the path of every property that it names is handed out by
the memo, and so are the ancestors looked at on the way to the table of the path.
-/

namespace EntityQuery.Inquiry

variable {n : Nat}

/-! ### Names -/

def storedColumn (scope : ColumnScope) (name : String) (path : Path) : Inquiry n String := do
  let path ← handOut path
  if path.isEntity then throw (.notStored name scope.reference)
  let owner ← tableOwner path
  if !owner.isRoot then throw (.notStored name scope.reference)
  let column ← ofResult path.columnName
  return scope.qualified (column.sql scope.style)

def column (scope : ColumnScope) (name : String) : Inquiry n String :=
  if name.toList.contains '(' then return name
  else if name = "*" then return scope.allColumns
  else
    match scope.entity with
    | none => return scope.unmapped name
    | some entity => do
        match (← schema).resolve entity name with
        | .ok path => storedColumn scope name path
        | .error error =>
            if error.kind = .invalidArgument then return scope.unmapped name else throw error

def checkedColumn (scope : ColumnScope) (context name : String) : Inquiry n String := do
  ofResult (checkExpression context name)
  column scope name

/-! ### Clauses -/

def projectedColumn (scope : ColumnScope) : Identifier → Inquiry n String
  | .expression expression => return expression
  | .quoted name => return scope.qualified ((Identifier.quoted name).sql scope.style)
  | .plain name => column scope name

def projection (renderer : Renderer) (selection : Selection) : Inquiry n String := do
  let scope := renderer.scope selection
  if selection.query.columns.isEmpty then return scope.allColumns
  let columns ← selection.query.columns.mapM (projectedColumn scope)
  return ", ".intercalate columns

def whereClause (renderer : Renderer) (selection : Selection) : Rendering (Inquiry n) String :=
  selection.whereClause checkedColumn renderer.schema renderer.dialect.nameStyle

def groupClause (renderer : Renderer) (selection : Selection) : Inquiry n String := do
  let columns := (selection.query.groups.getD .empty).columns
  if columns.isEmpty then return ""
  let rendered ← columns.mapM (checkedColumn (renderer.scope selection) "Group column")
  return " GROUP BY " ++ ", ".intercalate rendered

def orderSql (renderer : Renderer) (selection : Selection) (order : Order) :
    Inquiry n String := do
  let column ← checkedColumn (renderer.scope selection) "Sort property" order.property
  return order.sqlOn renderer.dialect column

def orderClause (renderer : Renderer) (selection : Selection) (windowed : Bool) :
    Inquiry n String := do
  let orders := selection.query.sorting.orders
  if orders.isEmpty then
    return if windowed && renderer.dialect.windowNeedsOrder then Renderer.emptyOrder else ""
  let rendered ← orders.mapM (orderSql renderer selection)
  return " ORDER BY " ++ ", ".intercalate rendered

/-! ### Statements -/

def select (renderer : Renderer) (selection : Selection) : Inquiry n Statement :=
  renderer.statement do
    let projection ← (projection renderer selection : Inquiry n String)
    let filter ← whereClause renderer selection
    let groups ← (groupClause renderer selection : Inquiry n String)
    let window := renderer.window? selection
    let order ← (orderClause renderer selection window.isSome : Inquiry n String)
    return Renderer.selectSql selection projection (renderer.sourceSql selection filter groups)
      order window

def count (renderer : Renderer) (selection : Selection) : Inquiry n Statement :=
  renderer.statement do
    let filter ← whereClause renderer selection
    let groups ← (groupClause renderer selection : Inquiry n String)
    return renderer.countSql selection (renderer.sourceSql selection filter groups)

def exists? (renderer : Renderer) (selection : Selection) : Inquiry n Statement :=
  renderer.statement do
    return renderer.existsSql selection (← whereClause renderer selection)

/-- Renders a selection over the context. -/
def render (dialect : Dialect) (kind : StatementKind) (selection : Selection) :
    Inquiry n Statement := do
  let renderer : Renderer := ⟨dialect, ← schema⟩
  match kind with
  | .select => select renderer selection
  | .count => count renderer selection
  | .existence => exists? renderer selection

/-- What a statement is about: an entity or a mere table. -/
inductive Subject (n : Nat) where
  | entity (type : Fin n)
  | table (table : Table)

def selection (catalog : Catalog n) (query : Query) (distinct : Bool) :
    Subject n → Inquiry n Selection
  | .entity type => do
      return { Selection.ofEntity (← entity catalog type) with query, distinct }
  | .table table => return { Selection.ofTable table with query, distinct }

def statement (catalog : Catalog n) (dialect : Dialect) (kind : StatementKind)
    (subject : Subject n) (query : Query) (distinct : Bool) : Inquiry n Statement := do
  render dialect kind (← selection catalog query distinct subject)

end EntityQuery.Inquiry
