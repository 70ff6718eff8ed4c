import EntityQuery.Error
import EntityQuery.Filter.Criteria
import EntityQuery.Filter.Range

/-!
# Boundaries

A boundary restricts named properties to ranges of values.  As a criteria it is one comparison for
each bound that is present.
-/

namespace EntityQuery

structure Scope where
  property : String
  range : Range Value
deriving Inhabited

structure Boundary where
  scopes : List Scope
deriving Inhabited

namespace Scope

def on? (property : String) (range : Range Value) : Result Scope := do
  checkExpression "Boundary property" property
  return ⟨property, range⟩

def lowerCriteria? (scope : Scope) : Option Criteria :=
  match scope.range.lower with
  | .included value => some (.compare .gte scope.property value)
  | .excluded value => some (.compare .gt scope.property value)
  | .unbounded => none

def upperCriteria? (scope : Scope) : Option Criteria :=
  match scope.range.upper with
  | .included value => some (.compare .lte scope.property value)
  | .excluded value => some (.compare .lt scope.property value)
  | .unbounded => none

/-- The lower bound before the upper one. -/
def criteria? (scope : Scope) : Option Criteria :=
  match scope.lowerCriteria?, scope.upperCriteria? with
  | some lower, some upper => some (.group .and [lower, upper])
  | some single, none | none, some single => some single
  | none, none => none

end Scope

namespace Boundary

def empty : Boundary := ⟨[]⟩

def on? (property : String) (range : Range Value) : Result Boundary := do
  return ⟨[← Scope.on? property range]⟩

def and (boundary : Boundary) (scope : Scope) : Boundary :=
  ⟨boundary.scopes ++ [scope]⟩

def isEmpty (boundary : Boundary) : Bool :=
  boundary.scopes.isEmpty

/-- Nothing if no scope has a bound. -/
def criteria? (boundary : Boundary) : Option Criteria :=
  (Criteria.group .and (boundary.scopes.filterMap Scope.criteria?)).simplify?

end Boundary

end EntityQuery
