import EntityQuery.Json.Basic
import EntityQuery.Toml.Value

/-!
# Settings as they are written

Settings come in two formats that differ in their scalars.  Here they have one form, which keeps
what settings are read from.
-/

namespace EntityQuery

inductive Setting where
  | nothing
  | bool (value : Bool)
  | integer (value : Int)
  | text (value : String)
  /-- A value of a kind that is never asked for. -/
  | other
  /-- A number that cannot be read. -/
  | unreadable
  | list (elements : List Setting)
  | record (members : List (String × Setting))
deriving Inhabited

namespace Setting

def text? : Setting → Option String
  | .text value => some value
  | _ => none

def bool? : Setting → Option Bool
  | .bool value => some value
  | _ => none

mutual

/-- Whether all numbers in it can be read. -/
def isReadable : Setting → Bool
  | .unreadable => false
  | .list elements => areReadable elements
  | .record members => membersReadable members
  | _ => true

def areReadable : List Setting → Bool
  | [] => true
  | element :: rest => element.isReadable && areReadable rest

def membersReadable : List (String × Setting) → Bool
  | [] => true
  | (_, member) :: rest => member.isReadable && membersReadable rest

end

mutual

def ofJson : Json → Setting
  | .null => .nothing
  | .bool value => .bool value
  | .integer value => .integer value
  | .real _ => .other
  | .string value => .text value
  | .array elements => .list (ofElements elements)
  | .object members => .record (ofMembers members)

def ofElements : List Json → List Setting
  | [] => []
  | element :: rest => ofJson element :: ofElements rest

def ofMembers : List (String × Json) → List (String × Setting)
  | [] => []
  | (key, member) :: rest => (key, ofJson member) :: ofMembers rest

end

mutual

/-- A point in time is a record of its text. -/
def ofToml : Toml.Value → Setting
  | .bool value => .bool value
  | .integer value => .integer value
  | .real _ => .other
  | .unreadable => .unreadable
  | .string value => .text value
  | .dateTime written => .record [("datetime", .text written)]
  | .array elements => .list (ofTomlElements elements)
  | .table members => .record (ofTomlMembers members)

def ofTomlElements : List Toml.Value → List Setting
  | [] => []
  | element :: rest => ofToml element :: ofTomlElements rest

def ofTomlMembers : List (String × Toml.Value) → List (String × Setting)
  | [] => []
  | (key, member) :: rest => (key, ofToml member) :: ofTomlMembers rest

end

end Setting

end EntityQuery
