/-!
# Attributes and their options

Which attributes map an item or a field, which options each of them takes, and what the value of an
option is a name of.
-/

namespace EntityQuery

/-- What an option gives a name to. -/
inductive Role where
  | table
  | column
  | lead
  | reverseColumn
  | keyColumn
deriving DecidableEq, Inhabited

namespace Role

def option : Role → String
  | .table | .column => "name"
  | .lead => "prefix"
  | .reverseColumn => "reverse_column"
  | .keyColumn => "key_column"

def description : Role → String
  | .table => "table name"
  | .column => "column name"
  | .lead => "prefix"
  | .reverseColumn => "reverse column"
  | .keyColumn => "key column"

def allowsEmpty : Role → Bool
  | .lead => true
  | _ => false

end Role

inductive AttributeKind where
  | table
  | column
  | embedded
  | reference
  | collection
deriving DecidableEq, Inhabited

namespace AttributeKind

def key : AttributeKind → String
  | .table => "table"
  | .column => "column"
  | .embedded => "embedded"
  | .reference => "reference"
  | .collection => "collection"

/-- The kinds that a field may have. -/
def ofField : List AttributeKind :=
  [.column, .embedded, .reference, .collection]

def ofFieldKey? (key : String) : Option AttributeKind :=
  ofField.find? (·.key == key)

def roles : AttributeKind → List Role
  | .table => [.table]
  | .column => [.column]
  | .embedded => [.lead]
  | .reference => [.reverseColumn]
  | .collection => [.reverseColumn, .keyColumn]

def role? (kind : AttributeKind) (option : String) : Option Role :=
  kind.roles.find? (·.option == option)

/-- Whether the attribute means nothing without options. -/
def needsOptions : AttributeKind → Bool
  | .table | .column => true
  | _ => false

/-- Whether the attribute says that the field is not simple; a field has at most one of these. -/
def isMapping (kind : AttributeKind) : Bool :=
  !kind.needsOptions

/-- What the options of an attribute are called where an unknown one is refused. -/
def optionsDescription : AttributeKind → String
  | .table => "table attribute, expected \x60name\x60"
  | .column => "column attribute, expected \x60name\x60"
  | .embedded => "embedded attribute, expected \x60prefix\x60"
  | .reference | .collection => "relation attribute"

end AttributeKind

end EntityQuery
