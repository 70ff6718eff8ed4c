import EntityQuery.Derive.Tokens

/-!
# Source items

A type declaration of a program, as far as an entity can be derived from it.  Attributes carry
options, and names may be raw: they start with a sign that lets a keyword be a name.
-/

namespace EntityQuery

inductive OptionValue where
  | missing
  | text (content : String)
  | other
deriving DecidableEq, Inhabited

structure AttributeOption where
  name : String
  value : OptionValue
deriving DecidableEq, Inhabited

inductive AttributeOptions where
  | bare
  /-- A value is assigned to the attribute itself. -/
  | assigned
  | list (options : List AttributeOption)
deriving DecidableEq, Inhabited

/-- The key of an attribute is a path as it is written. -/
structure Attribute where
  key : String
  options : AttributeOptions
deriving DecidableEq, Inhabited

structure SourceField where
  name : String
  type : Tokens
  attributes : List Attribute
deriving DecidableEq, Inhabited

inductive ItemShape where
  | namedFields
  | tuple
  | unit
  | enumeration
  | union
deriving DecidableEq, Inhabited

structure SourceItem where
  name : String
  shape : ItemShape
  /-- The brackets around the parameters with what is in them. -/
  parameters : Tokens
  attributes : List Attribute
  fields : List SourceField
deriving DecidableEq, Inhabited

/-- A name without the sign of a raw one. -/
def plainName (name : String) : String :=
  match name.toList with
  | 'r' :: '#' :: rest => String.ofList rest
  | _ => name

def SourceItem.isGeneric (item : SourceItem) : Bool :=
  item.parameters != [] && item.parameters != ["<", ">"]

def SourceField.isMarked (key : String) (field : SourceField) : Bool :=
  field.attributes.any (·.key == key)

end EntityQuery
