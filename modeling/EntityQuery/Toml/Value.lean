import EntityQuery.Number.Binary64

/-!
# Values in TOML

A number that no type of numbers holds is a value all the same: it is no fault of the document, only
of whoever uses the number.
-/

namespace EntityQuery.Toml

inductive Value where
  | bool (value : Bool)
  | integer (value : Int)
  | real (value : Binary64)
  /-- A number that no type of numbers holds. -/
  | unreadable
  | string (value : String)
  /-- A date, a time or both, as written. -/
  | dateTime (text : String)
  | array (elements : List Value)
  | table (members : List (String × Value))
deriving Inhabited

end EntityQuery.Toml
