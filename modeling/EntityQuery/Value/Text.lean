import EntityQuery.Json.Text
import EntityQuery.Value.Basic

/-!
# Text of SQL values

A readable text for diagnostics.  Quotes stand around texts, identifiers, times and documents, and
nothing inside them is escaped.
-/

namespace EntityQuery.Value

def inQuotes (text : String) : String :=
  "'" ++ text ++ "'"

mutual

def toText : Value → String
  | .null => "NULL"
  | .text value => inQuotes value
  | .integer value => toString value.toInt
  | .bigInt value => toString value.toInt
  | .smallInt value => toString value.toInt
  | .float value => value.plainText
  | .boolean value => if value then "true" else "false"
  | .uuid value => inQuotes value.text
  | .timestamp value => inQuotes value.text
  | .date value => inQuotes value.text
  | .decimal value => value
  | .json value => inQuotes value.text
  | .array [] => "[]"
  | .array (first :: rest) => "[" ++ first.toText ++ restText rest ++ "]"

/-- The elements after the first. -/
def restText : List Value → String
  | [] => ""
  | value :: rest => ", " ++ value.toText ++ restText rest

end

end EntityQuery.Value
