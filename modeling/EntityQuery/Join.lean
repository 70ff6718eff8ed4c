import EntityQuery.Error
import EntityQuery.Filter.Criteria

/-!
# Joined tables

A join names a table, how it is joined and on what.  A criteria attached to it restricts the joined
rows; it belongs to the WHERE clause and not to the join condition.
-/

namespace EntityQuery

inductive JoinKind where
  | inner
  | left
  | right
  | full
  | cross
deriving DecidableEq, Inhabited

def JoinKind.sql : JoinKind → String
  | .inner => "INNER JOIN"
  | .left => "LEFT OUTER JOIN"
  | .right => "RIGHT OUTER JOIN"
  | .full => "FULL OUTER JOIN"
  | .cross => "CROSS JOIN"

inductive JoinCondition where
  /-- Pairs of columns that are equal. -/
  | on (pairs : List (String × String))
  /-- Columns that both tables have. -/
  | shared (columns : List String)
  | absent
deriving DecidableEq, Inhabited

structure Join where
  kind : JoinKind
  table : String
  aliasName : Option String
  condition : JoinCondition
  criteria : Option Criteria
deriving Inhabited

namespace Join

def checkPair (left right : String) : Result Unit := do
  checkExpression "Join column" left
  checkExpression "Join column" right

def checkNames : List String → Result Unit
  | [] => .ok ()
  | name :: rest => do
      checkName name
      checkNames rest

def on? (kind : JoinKind) (table left right : String) : Result Join := do
  checkName table
  checkPair left right
  return ⟨kind, table, none, .on [(left, right)], none⟩

def using? (kind : JoinKind) (table : String) (columns : List String) : Result Join := do
  checkName table
  if columns.isEmpty then throw .noUsingColumn
  checkNames columns
  return ⟨kind, table, none, .shared columns, none⟩

def cross? (table : String) : Result Join := do
  checkName table
  return ⟨.cross, table, none, .absent, none⟩

/-- Adds an equality to a join that already has one. -/
def andOn? (join : Join) (left right : String) : Result Join := do
  checkPair left right
  match join.condition with
  | .on pairs => return { join with condition := .on (pairs ++ [(left, right)]) }
  | _ => throw (.noJoinCondition join.table)

def withAlias? (join : Join) (name : String) : Result Join := do
  checkName name
  return { join with aliasName := some name }

def withCriteria (join : Join) (criteria : Criteria) : Join :=
  { join with
    criteria := some <|
      match join.criteria with
      | some existing => existing.andWith criteria
      | none => criteria }

/-- What columns of the joined table are qualified with. -/
def reference (join : Join) : String :=
  join.aliasName.getD join.table

def equal (a b : Join) : Bool :=
  a.kind == b.kind && a.table == b.table && a.aliasName == b.aliasName &&
    a.condition == b.condition &&
    match a.criteria, b.criteria with
    | some x, some y => x.equal y
    | none, none => true
    | _, _ => false

end Join

end EntityQuery
