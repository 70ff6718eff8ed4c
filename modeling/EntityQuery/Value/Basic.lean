import EntityQuery.Json.Basic
import EntityQuery.Time.Timestamp
import EntityQuery.Uuid

/-!
# SQL values

The values that a statement binds to its markers.
-/

namespace EntityQuery

inductive Value where
  | null
  | text (value : String)
  | integer (value : Int32)
  | bigInt (value : Int64)
  | smallInt (value : Int16)
  | float (value : Binary64)
  | boolean (value : Bool)
  | uuid (value : Uuid)
  | timestamp (value : Timestamp)
  | date (value : Date)
  /-- A decimal number as it was written, so that no digit is lost. -/
  | decimal (value : String)
  | json (value : Json)
  | array (elements : List Value)
deriving Inhabited

namespace Value

def isNull : Value → Bool
  | .null => true
  | _ => false

def typeName : Value → String
  | .null => "null"
  | .text _ => "text"
  | .integer _ => "integer"
  | .bigInt _ => "bigint"
  | .smallInt _ => "smallint"
  | .float _ => "float"
  | .boolean _ => "boolean"
  | .uuid _ => "uuid"
  | .timestamp _ => "timestamp"
  | .date _ => "date"
  | .decimal _ => "decimal"
  | .json _ => "json"
  | .array _ => "array"

mutual

/-- Equality of values of one type, where numbers in double precision compare by value. -/
def equal : Value → Value → Bool
  | .null, .null => true
  | .text a, .text b => a == b
  | .integer a, .integer b => a == b
  | .bigInt a, .bigInt b => a == b
  | .smallInt a, .smallInt b => a == b
  | .float a, .float b => a.equal b
  | .boolean a, .boolean b => a == b
  | .uuid a, .uuid b => a == b
  | .timestamp a, .timestamp b => a == b
  | .date a, .date b => a == b
  | .decimal a, .decimal b => a == b
  | .json a, .json b => a.equal b
  | .array a, .array b => equalElements a b
  | _, _ => false

def equalElements : List Value → List Value → Bool
  | [], [] => true
  | a :: as, b :: bs => equal a b && equalElements as bs
  | _, _ => false

end

end Value

end EntityQuery
