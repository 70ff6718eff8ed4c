import EntityQuery.Statement.Basic
import EntityQuery.Statement.Column

/-!
# Conditions in SQL

A condition becomes a comparison with markers for its values; a comparison with null becomes a test,
and a list becomes as many markers as it has elements.  A group inside a group stands in
parentheses, and so does an alternative that is combined with other filters.
-/

namespace EntityQuery

/-- How names are looked up: in a scope, and with a word on what the name is for. -/
abbrev Lookup (m : Type → Type) := ColumnScope → String → String → m String

variable {m : Type → Type} [Monad m] [MonadExceptOf Error m]

/-- The form of a comparison once the presence of its value is known. -/
inductive ConditionForm where
  /-- A test without a value. -/
  | test (comparator : Comparator)
  | membership (comparator : Comparator) (elements : List Value)
  | comparison (comparator : Comparator) (value : Value)
  | incomplete

namespace Condition

/-- The values that a list condition compares with; a single value is a list of itself. -/
def elements : Value → List Value
  | .array elements => elements
  | value => [value]

def form (condition : Condition) : ConditionForm :=
  match condition.comparator, condition.value with
  | .isNull, _ | .eq, none | .eq, some .null => .test .isNull
  | .isNotNull, _ | .ne, none | .ne, some .null => .test .isNotNull
  | .isTrue, _ => .test .isTrue
  | .isFalse, _ => .test .isFalse
  | .isIn, some value => .membership .isIn (elements value)
  | .notIn, some value => .membership .notIn (elements value)
  | comparator, some value => .comparison comparator value
  | _, none => .incomplete

/-- A comparison with no element is decided: nothing is in an empty list. -/
def decided (comparator : Comparator) : String :=
  if comparator = .isIn then "1 = 0" else "1 = 1"

/-- The condition on a column. -/
def renderOn (column : String) (condition : Condition) : Rendering m String :=
  match condition.form with
  | .test comparator => return column ++ " " ++ comparator.sql
  | .membership comparator [] => return decided comparator
  | .membership comparator elements => do
      let markers ← elements.mapM Rendering.markerFor
      return column ++ " " ++ comparator.sql ++ " (" ++ ", ".intercalate markers ++ ")"
  | .comparison comparator value => do
      return column ++ " " ++ comparator.sql ++ " " ++ (← Rendering.markerFor value)
  | .incomplete => throw (.valueMissing condition.comparator.sql condition.field)

def render (lookup : Lookup m) (scope : ColumnScope) (condition : Condition) :
    Rendering m String := do
  condition.renderOn (← lookup scope "Criteria column" condition.field)

end Condition

namespace Criteria

mutual

/-- `nested` says that the criteria is part of a group. -/
def render (lookup : Lookup m) (scope : ColumnScope) (nested : Bool) : Criteria → Rendering m String
  | .condition leaf => leaf.render lookup scope
  | .group combinator parts => do
      let rendered ← renderParts lookup scope parts
      let joined := combinator.sql.intercalate rendered
      return if nested && 1 < parts.length then "(" ++ joined ++ ")" else joined

def renderParts (lookup : Lookup m) (scope : ColumnScope) :
    List Criteria → Rendering m (List String)
  | [] => return []
  | part :: rest => do
      let first ← part.render lookup scope true
      let others ← renderParts lookup scope rest
      return first :: others

end

def isAlternative : Criteria → Bool
  | .group .or _ => true
  | _ => false

end Criteria

/-- A criteria together with the scope of its names. -/
structure ScopedFilter where
  scope : ColumnScope
  criteria : Criteria

namespace ScopedFilter

def render (lookup : Lookup m) (combined : Bool) (filter : ScopedFilter) :
    Rendering m String := do
  let rendered ← filter.criteria.render lookup filter.scope false
  return if combined && filter.criteria.isAlternative then "(" ++ rendered ++ ")" else rendered

end ScopedFilter

namespace Selection

/-- The filters of the selection and of its joins, without those that hold no condition. -/
def filters (schema : Schema) (style : NameStyle) (selection : Selection) : List ScopedFilter :=
  let base := (selection.query.criteria.bind Criteria.simplify?).map fun criteria =>
    ScopedFilter.mk (selection.scope schema style) criteria
  let joined := (selection.query.joins.getD []).filterMap fun join =>
    (join.criteria.bind Criteria.simplify?).map fun criteria =>
      ScopedFilter.mk (join.scope schema style) criteria
  base.toList ++ joined

def whereClause (lookup : Lookup m) (schema : Schema) (style : NameStyle)
    (selection : Selection) : Rendering m String := do
  let filters := selection.filters schema style
  if filters.isEmpty then return ""
  let rendered ← filters.mapM (ScopedFilter.render lookup (1 < filters.length))
  return " WHERE " ++ " AND ".intercalate rendered

end Selection

end EntityQuery
