/-!
# Sort orders

A sorting is a list of orders, each naming a property, a direction and the place of nulls.
-/

namespace EntityQuery

inductive Direction where
  | ascending
  | descending
deriving DecidableEq, Inhabited

def Direction.sql : Direction → String
  | .ascending => "ASC"
  | .descending => "DESC"

def Direction.isAscending : Direction → Bool
  | .ascending => true
  | .descending => false

inductive NullPlacement where
  /-- Left to the database. -/
  | native
  | first
  | last
deriving DecidableEq, Inhabited

structure Order where
  property : String
  direction : Direction
  nulls : NullPlacement
  ignoreCase : Bool
deriving DecidableEq, Inhabited

structure Sorting where
  orders : List Order
deriving DecidableEq, Inhabited

namespace Order

def of (direction : Direction) (property : String) : Order :=
  ⟨property, direction, .native, false⟩

def withDirection (order : Order) (direction : Direction) : Order :=
  { order with direction }

def withProperty (order : Order) (property : String) : Order :=
  { order with property }

def withNulls (order : Order) (nulls : NullPlacement) : Order :=
  { order with nulls }

def ignoringCase (order : Order) : Order :=
  { order with ignoreCase := true }

end Order

namespace Sorting

def unsorted : Sorting := ⟨[]⟩

def ofProperties (direction : Direction) (properties : List String) : Sorting :=
  ⟨properties.map (Order.of direction)⟩

def and (sorting other : Sorting) : Sorting :=
  ⟨sorting.orders ++ other.orders⟩

def withDirection (sorting : Sorting) (direction : Direction) : Sorting :=
  ⟨sorting.orders.map fun order => order.withDirection direction⟩

def isSorted (sorting : Sorting) : Bool :=
  !sorting.orders.isEmpty

def orderFor? (sorting : Sorting) (property : String) : Option Order :=
  sorting.orders.find? fun order => order.property == property

end Sorting

end EntityQuery
