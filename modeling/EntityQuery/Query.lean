import EntityQuery.Identifier
import EntityQuery.Join
import EntityQuery.Paging

/-!
# Queries

A query is a value: each step gives a new query and leaves the old one as it was, so that a query
can be shared and continued in several ways.
-/

namespace EntityQuery

/-- Columns to group by, in order. -/
structure Groups where
  columns : List String
deriving DecidableEq, Inhabited

namespace Groups

def empty : Groups := ⟨[]⟩

def and? (groups : Groups) (column : String) : Result Groups := do
  checkExpression "Group column" column
  return ⟨groups.columns ++ [column]⟩

def of? (columns : List String) : Result Groups :=
  columns.foldlM and? empty

def isEmpty (groups : Groups) : Bool :=
  groups.columns.isEmpty

end Groups

structure Query where
  criteria : Option Criteria
  columns : List Identifier
  joins : Option (List Join)
  groups : Option Groups
  sorting : Sorting
  limit : Option UInt64
  offset : UInt64
deriving Inhabited

namespace Query

def empty : Query :=
  ⟨none, [], none, none, .unsorted, none, 0⟩

def ofCriteria (criteria : Criteria) : Query :=
  { empty with criteria := some criteria }

/-- Appends to the projection; duplicates are kept. -/
def select (query : Query) (columns : List Identifier) : Query :=
  { query with columns := query.columns ++ columns }

def selectNames (query : Query) (names : List String) : Query :=
  query.select (names.map .plain)

/-- Appends to the sorting, which never ignores case. -/
def sortBy? (query : Query) (sorting : Sorting) : Result Query :=
  match sorting.orders.find? Order.ignoreCase with
  | some order => .error (.ignoreCaseOrder order.property)
  | none => .ok { query with sorting := query.sorting.and sorting }

def withLimit (query : Query) (limit : UInt64) : Query :=
  { query with limit := some limit }

def withOffset (query : Query) (offset : UInt64) : Query :=
  { query with offset }

def andCriteria (query : Query) (criteria : Criteria) : Query :=
  { query with
    criteria := some <|
      match query.criteria with
      | some existing => existing.andWith criteria
      | none => criteria }

def withBoundary (query : Query) (boundary : Boundary) : Query :=
  match boundary.criteria? with
  | some bounds => query.andCriteria bounds
  | none => query

/-- Applies the boundary, then the sorting, then the window of the page. -/
def paged? (query : Query) : Pageable → Result Query
  | .unpaged => .ok query
  | .paged request boundary => do
      let bounded :=
        match boundary with
        | some boundary => query.withBoundary boundary
        | none => query
      let sorted ← bounded.sortBy? request.sorting
      return (sorted.withLimit request.size).withOffset request.offset

def groupBy (query : Query) (groups : Groups) : Query :=
  { query with groups := some groups }

def joining (query : Query) (joins : List Join) : Query :=
  { query with joins := some joins }

def isLimited (query : Query) : Bool :=
  query.limit.isSome

def hasGroups (query : Query) : Bool :=
  query.groups.any fun groups => !groups.isEmpty

def hasJoin (query : Query) : Bool :=
  query.joins.any fun joins => !joins.isEmpty

def equalJoins : List Join → List Join → Bool
  | [], [] => true
  | a :: as, b :: bs => a.equal b && equalJoins as bs
  | _, _ => false

def equal (a b : Query) : Bool :=
  (match a.criteria, b.criteria with
    | some x, some y => x.equal y
    | none, none => true
    | _, _ => false) &&
  (match a.joins, b.joins with
    | some x, some y => equalJoins x y
    | none, none => true
    | _, _ => false) &&
  a.columns == b.columns && a.groups == b.groups && a.sorting == b.sorting &&
  a.limit == b.limit && a.offset == b.offset

end Query

end EntityQuery
