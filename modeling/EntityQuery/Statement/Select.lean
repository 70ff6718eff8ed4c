import EntityQuery.Statement.Filter

/-!
# Select, count and exists

The three statements of a selection.  They share the FROM and WHERE clauses: `count` tells how many
rows `select` would find without its window, and `exists` whether there is one.
-/

namespace EntityQuery

namespace Join

def conditionSql : JoinCondition → String
  | .on pairs => " ON " ++ " AND ".intercalate (pairs.map fun (left, right) => left ++ " = " ++ right)
  | .shared columns => " USING (" ++ ", ".intercalate columns ++ ")"
  | .absent => ""

def sql (join : Join) : String :=
  join.kind.sql ++ " " ++ join.table ++
    (match join.aliasName with
      | some name => " AS " ++ name
      | none => "") ++
    conditionSql join.condition

end Join

namespace Order

def nullsSql (dialect : Dialect) (nulls : NullPlacement) : String :=
  match nulls with
  | .native => ""
  | .first => if dialect.ordersNulls then " NULLS FIRST" else ""
  | .last => if dialect.ordersNulls then " NULLS LAST" else ""

/-- The order by a column. -/
def sqlOn (dialect : Dialect) (column : String) (order : Order) : String :=
  column ++ " " ++ order.direction.sql ++ nullsSql dialect order.nulls

def sql (dialect : Dialect) (scope : ColumnScope) (order : Order) : Result String := do
  return order.sqlOn dialect (← scope.resolveChecked "Sort property" order.property)

end Order

inductive StatementKind where
  | select
  | count
  | existence
deriving DecidableEq, Inhabited

/-- A dialect together with the schema that names are resolved against. -/
structure Renderer where
  dialect : Dialect
  schema : Schema

namespace Renderer

def scope (renderer : Renderer) (selection : Selection) : ColumnScope :=
  selection.scope renderer.schema renderer.dialect.nameStyle

def projectedColumn (scope : ColumnScope) : Identifier → Result String
  | .expression expression => .ok expression
  | .quoted name => .ok (scope.qualified ((Identifier.quoted name).sql scope.style))
  | .plain name => scope.resolve name

def projection (renderer : Renderer) (selection : Selection) : Result String := do
  let scope := renderer.scope selection
  if selection.query.columns.isEmpty then return scope.allColumns
  let columns ← selection.query.columns.mapM (projectedColumn scope)
  return ", ".intercalate columns

def fromClause (renderer : Renderer) (selection : Selection) : String :=
  "FROM " ++ selection.table.sql renderer.dialect.nameStyle ++
    String.join ((selection.query.joins.getD []).map fun join => " " ++ join.sql)

def whereClause (renderer : Renderer) (selection : Selection) : Rendering Result String :=
  selection.whereClause ColumnScope.resolveChecked renderer.schema renderer.dialect.nameStyle

def groupClause (renderer : Renderer) (selection : Selection) : Result String := do
  let columns := (selection.query.groups.getD .empty).columns
  if columns.isEmpty then return ""
  let rendered ← columns.mapM ((renderer.scope selection).resolveChecked "Group column")
  return " GROUP BY " ++ ", ".intercalate rendered

def emptyOrder : String := " ORDER BY (SELECT 1)"

def orderClause (renderer : Renderer) (selection : Selection) (windowed : Bool) :
    Result String := do
  let orders := selection.query.sorting.orders
  if orders.isEmpty then
    return if windowed && renderer.dialect.windowNeedsOrder then emptyOrder else ""
  let rendered ← orders.mapM (Order.sql renderer.dialect (renderer.scope selection))
  return " ORDER BY " ++ ", ".intercalate rendered

def windowClause : Option String → String
  | some clause => " " ++ clause
  | none => ""

/-- The column that is counted: the identifier of the entity, or else whole rows. -/
def countTarget (renderer : Renderer) (selection : Selection) : String :=
  match selection.entity.bind Entity.identifier? with
  | some property =>
      let scope := renderer.scope selection
      scope.qualified (property.column.sql scope.style)
  | none => "*"

/-- The statement with this text, whose values get markers of the dialect. -/
def statement {m : Type → Type} [Monad m] (renderer : Renderer) (text : Rendering m String) :
    m Statement :=
  text.statement renderer.dialect.markerStyle

/-- The clauses that decide which rows there are, with those that are grouped. -/
def sourceSql (renderer : Renderer) (selection : Selection) (filter groups : String) : String :=
  renderer.fromClause selection ++ filter ++ groups

/-- The window clause of a select. -/
def window? (renderer : Renderer) (selection : Selection) : Option String :=
  renderer.dialect.limitClause? selection.query.limit selection.query.offset

def selectSql (selection : Selection) (projection source order : String) (window : Option String) :
    String :=
  "SELECT " ++ (if selection.distinct then "DISTINCT " else "") ++ projection ++ " " ++ source ++
    order ++ windowClause window

def select (renderer : Renderer) (selection : Selection) : Result Statement :=
  renderer.statement do
    let projection ← renderer.projection selection
    let filter ← renderer.whereClause selection
    let groups ← renderer.groupClause selection
    let window := renderer.window? selection
    let order ← renderer.orderClause selection window.isSome
    return selectSql selection projection (renderer.sourceSql selection filter groups) order window

/-- Groups are counted through a subquery, unless the query has joins. -/
def countsGroups (selection : Selection) : Bool :=
  selection.query.hasGroups && !selection.query.hasJoin

def countSql (renderer : Renderer) (selection : Selection) (source : String) : String :=
  let counted := "SELECT COUNT(" ++ renderer.countTarget selection ++ ") " ++ source
  if countsGroups selection then
    "SELECT COUNT(1) FROM (" ++ counted ++ ") " ++ (renderer.scope selection).reference
  else counted

def count (renderer : Renderer) (selection : Selection) : Result Statement :=
  renderer.statement do
    let filter ← renderer.whereClause selection
    let groups ← renderer.groupClause selection
    return renderer.countSql selection (renderer.sourceSql selection filter groups)

def existsSql (renderer : Renderer) (selection : Selection) (filter : String) : String :=
  let window := renderer.dialect.limitClause? (some 1) 0
  let order := if renderer.dialect.windowNeedsOrder then emptyOrder else ""
  "SELECT 1 " ++ renderer.fromClause selection ++ filter ++ order ++ windowClause window

def exists? (renderer : Renderer) (selection : Selection) : Result Statement :=
  renderer.statement do
    return renderer.existsSql selection (← renderer.whereClause selection)

def render (renderer : Renderer) : StatementKind → Selection → Result Statement
  | .select => renderer.select
  | .count => renderer.count
  | .existence => renderer.exists?

end Renderer

end EntityQuery
