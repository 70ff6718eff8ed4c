import EntityQuery.Number.Decimal

/-!
# JSON values

Whole numbers and numbers in double precision are different values.  The members of an object are
kept in the order of their keys, one for each key.
-/

namespace EntityQuery

inductive Json where
  | null
  | bool (value : Bool)
  | integer (value : Int)
  | real (value : Binary64)
  | string (value : String)
  | array (elements : List Json)
  | object (members : List (String × Json))
deriving Inhabited

namespace Json

/-- Adds a member at the place of its key, where a later value replaces an earlier one. -/
def insertMember (key : String) (value : Json) : List (String × Json) → List (String × Json)
  | [] => [(key, value)]
  | (other, old) :: rest =>
      if key < other then (key, value) :: (other, old) :: rest
      else if key = other then (key, value) :: rest
      else (other, old) :: insertMember key value rest

def ofMembers (members : List (String × Json)) : Json :=
  .object (members.foldl (fun sorted member => insertMember member.1 member.2 sorted) [])

/-- A number in double precision; the infinities and the undefined number become null. -/
def ofReal (value : Binary64) : Json :=
  if value.isFinite then .real value else .null

mutual

/-- Equality of values, where numbers in double precision compare by value. -/
def equal : Json → Json → Bool
  | .null, .null => true
  | .bool a, .bool b => a == b
  | .integer a, .integer b => a == b
  | .real a, .real b => a.equal b
  | .string a, .string b => a == b
  | .array a, .array b => equalElements a b
  | .object a, .object b => equalMembers a b
  | _, _ => false

def equalElements : List Json → List Json → Bool
  | [], [] => true
  | a :: as, b :: bs => equal a b && equalElements as bs
  | _, _ => false

def equalMembers : List (String × Json) → List (String × Json) → Bool
  | [], [] => true
  | (key, a) :: as, (key', b) :: bs => key == key' && equal a b && equalMembers as bs
  | _, _ => false

end

def member? (key : String) : Json → Option Json
  | .object members => members.lookup key
  | _ => none

/-- The value of a member; a missing member is null. -/
def get (key : String) (json : Json) : Json :=
  (json.member? key).getD .null

def isNull : Json → Bool
  | .null => true
  | _ => false

def elements : Json → List Json
  | .array elements => elements
  | _ => []

def string? : Json → Option String
  | .string value => some value
  | _ => none

def integer? : Json → Option Int
  | .integer value => some value
  | _ => none

def bool? : Json → Option Bool
  | .bool value => some value
  | _ => none

end Json

end EntityQuery
