import EntityQuery.Number.Width
import EntityQuery.Time.Reading
import EntityQuery.Value.Basic

/-!
# Values in JSON

Two readings of a JSON value.  `Value.ofTagged?` undoes `Value.tagged`, where an object with one
member names the type and holds the payload.  `Value.ofJson` takes any JSON value and finds the
closest type.
-/

namespace EntityQuery.Value

mutual

/-- A value under the name of its type; null is the name alone. -/
def tagged : Value → Json
  | .null => .string "Null"
  | .text value => .object [("Text", .string value)]
  | .integer value => .object [("Integer", .integer value.toInt)]
  | .bigInt value => .object [("BigInt", .integer value.toInt)]
  | .smallInt value => .object [("SmallInt", .integer value.toInt)]
  | .float value => .object [("Float", .ofReal value)]
  | .boolean value => .object [("Boolean", .bool value)]
  | .uuid value => .object [("Uuid", .string value.text)]
  | .timestamp value => .object [("Timestamp", .string (value.textWith "Z"))]
  | .date value => .object [("Date", .string value.text)]
  | .decimal value => .object [("Decimal", .string value)]
  | .json value => .object [("Json", value)]
  | .array elements => .object [("Array", .array (taggedElements elements))]

def taggedElements : List Value → List Json
  | [] => []
  | value :: rest => value.tagged :: taggedElements rest

end

def integerIn? (bits : Nat) : Json → Option Int
  | .integer n => if fitsSigned bits n then some n else none
  | _ => none

/-- The number of a JSON number, whole or not. -/
def real? : Json → Option Binary64
  | .real value => some value
  | .integer n => some (.ofRatio (n < 0) n.natAbs 1)
  | _ => none

mutual

def ofTagged? : Json → Option Value
  | .string name => if name = "Null" then some .null else none
  | .object [("Array", .array elements)] => (ofTaggedElements? elements).map .array
  | .object [(tag, payload)] =>
      if tag = "Null" then if payload.isNull then some .null else none
      else if tag = "Text" then payload.string?.map .text
      else if tag = "Integer" then (integerIn? 32 payload).map fun n => .integer (.ofInt n)
      else if tag = "BigInt" then (integerIn? 64 payload).map fun n => .bigInt (.ofInt n)
      else if tag = "SmallInt" then (integerIn? 16 payload).map fun n => .smallInt (.ofInt n)
      else if tag = "Float" then (real? payload).map .float
      else if tag = "Boolean" then payload.bool?.map .boolean
      else if tag = "Uuid" then (payload.string?.bind Uuid.read?).map .uuid
      else if tag = "Timestamp" then
        (payload.string?.bind Timestamp.readLenient?).map .timestamp
      else if tag = "Date" then (payload.string?.bind Date.readLenient?).map .date
      else if tag = "Decimal" then payload.string?.map .decimal
      else if tag = "Json" then some (.json payload)
      else none
  | _ => none

def ofTaggedElements? : List Json → Option (List Value)
  | [] => some []
  | element :: rest => do
      let value ← ofTagged? element
      let values ← ofTaggedElements? rest
      some (value :: values)

end

/-- A text is a timestamp if it reads as one, else an identifier if it reads as one. -/
def ofJsonString (content : String) : Value :=
  match Timestamp.read? content with
  | some time => .timestamp time
  | none =>
      match Uuid.read? content with
      | some identifier => .uuid identifier
      | none => .text content

/-- The narrowest type from `integer` on that holds the number. -/
def ofJsonInteger (n : Int) : Value :=
  if fitsSigned 32 n then .integer (.ofInt n)
  else if fitsSigned 64 n then .bigInt (.ofInt n)
  else .float (.ofRatio (n < 0) n.natAbs 1)

def ofJson : Json → Value
  | .null => .null
  | .bool value => .boolean value
  | .integer n => ofJsonInteger n
  | .real value => .float value
  | .string content => ofJsonString content
  | other => .json other

end EntityQuery.Value
