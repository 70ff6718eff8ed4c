import EntityQuery.Derive.Error
import EntityQuery.Derive.Source
import EntityQuery.Schema.Declaration

/-!
# Entities of source items

A struct with named fields declares an entity: each of its fields declares a property, unless it is
marked as transient.  Fields, their attributes and the options of these are looked at in order, and
of the values of an option the last one counts.
-/

namespace EntityQuery

namespace Attribute

/-- The rules for names of tables, which are also followed where an entity is registered; here a
name is refused before there is an entity. -/
def checkIdentifier (name : String) : Except NameError Unit :=
  match name.toList with
  | [] => .error .empty
  | first :: rest =>
      if 63 < name.utf8ByteSize then .error (.tooLong name)
      else if !first.isAlpha && first != '_' then .error (.badStart name)
      else if !(first :: rest).all fun c => c.isAlphanum || c == '_' then
        .error (.badCharacter name)
      else .ok ()

def checkName (role : Role) (name : String) : Except DeriveError Unit :=
  if name = "" ∧ role.allowsEmpty then .ok ()
  else (checkIdentifier name).mapError (.badName role name)

def named (kind : AttributeKind) (option : AttributeOption) :
    Except DeriveError (Role × String) := do
  let some role := kind.role? option.name | throw (.unknownOption kind)
  match option.value with
  | .missing => throw .valueMissing
  | .other => throw .valueNotText
  | .text name =>
      checkName role name
      return (role, name)

/-- The names that the options of an attribute give. -/
def names (kind : AttributeKind) (options : AttributeOptions) :
    Except DeriveError (List (Role × String)) :=
  match options with
  | .bare => if kind.needsOptions then .error (.optionsMissing kind) else .ok []
  | .assigned => .error (.optionsAssigned kind)
  | .list options => options.mapM (named kind)

/-- The last of the names that have this role. -/
def name? (role : Role) (names : List (Role × String)) : Option String :=
  names.reverse.lookup role

end Attribute

namespace Tokens

/-- The kind of a collection type and the type of its elements; of a map these are the values. -/
def collection? (type : Tokens) : Option (CollectionKind × Tokens) :=
  match applied? type with
  | some (name, [element]) =>
      if ["Vec", "VecDeque", "LinkedList"].contains name then some (.list, element.unwrapped)
      else if ["HashSet", "BTreeSet"].contains name then some (.set, element.unwrapped)
      else none
  | some (name, [_, value]) =>
      if ["HashMap", "BTreeMap"].contains name then some (.map, value.unwrapped) else none
  | _ => none

end Tokens

namespace SourceField

def identifierKey : String := "id"

def transientKey : String := "transient"

def shape? (type : Tokens) (names : List (Role × String)) :
    AttributeKind → Except DeriveError (Shape Tokens)
  | .table | .column => .ok .simple
  | .embedded => .ok (.embedded type.unwrapped ((Attribute.name? .lead names).getD ""))
  | .reference => .ok (.reference type.unwrapped)
  | .collection =>
      match type.unwrapped.collection? with
      | some (kind, element) => .ok (.collection kind element)
      | none => .error .notCollection

/-- What the attributes so far say about a field. -/
structure Draft where
  mapping : Option AttributeKind
  shape : Shape Tokens
  names : List (Role × String)

namespace Draft

def empty : Draft := ⟨none, .simple, []⟩

def extend? (type : Tokens) (draft : Draft) (mark : Attribute) : Except DeriveError Draft :=
  match AttributeKind.ofFieldKey? mark.key with
  | none => .ok draft
  | some kind => do
      if kind.isMapping then
        if let some previous := draft.mapping then throw (.conflict kind previous)
      let names ← Attribute.names kind mark.options
      if kind.isMapping then
        return ⟨some kind, ← shape? type names kind, draft.names ++ names⟩
      else return { draft with names := draft.names ++ names }

end Draft

def property? (field : SourceField) : Except DeriveError (PropertyDeclaration Tokens) := do
  let draft ← field.attributes.foldlM (Draft.extend? field.type) .empty
  let isIdentifier := field.isMarked identifierKey
  if isIdentifier && !draft.shape.isSimple then throw .identifierNotSimple
  return {
    name := plainName field.name
    shape := draft.shape
    column := Attribute.name? .column draft.names
    reverseColumn := Attribute.name? .reverseColumn draft.names
    keyColumn := Attribute.name? .keyColumn draft.names
    isIdentifier }

end SourceField

namespace SourceItem

def tableName? (item : SourceItem) : Except DeriveError (Option String) := do
  let attributes := item.attributes.filter (·.key == AttributeKind.table.key)
  let names ← attributes.mapM fun mark => Attribute.names .table mark.options
  return Attribute.name? .table names.flatten

def entity? (item : SourceItem) : Except DeriveError (EntityDeclaration Tokens) := do
  if item.isGeneric then throw .generic
  if item.shape ≠ .namedFields then throw .noNamedFields
  let table ← item.tableName?
  let stored := item.fields.filter fun field => !field.isMarked SourceField.transientKey
  let properties ← stored.mapM SourceField.property?
  if 1 < properties.countP (·.isIdentifier) then throw .severalIdentifiers
  return ⟨plainName item.name, table, properties⟩

end SourceItem

end EntityQuery
