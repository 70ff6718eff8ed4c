import EntityQuery.Derive.Attribute
import EntityQuery.Name

/-!
# Derivation errors

Why no entity can be derived from a source item.
-/

namespace EntityQuery

inductive DeriveError where
  | generic
  | noNamedFields
  | optionsMissing (kind : AttributeKind)
  | optionsAssigned (kind : AttributeKind)
  | unknownOption (kind : AttributeKind)
  | valueMissing
  | valueNotText
  | badName (role : Role) (name : String) (cause : NameError)
  | conflict (kind previous : AttributeKind)
  | notCollection
  | identifierNotSimple
  | severalIdentifiers
deriving DecidableEq, Inhabited

namespace DeriveError

def nameDetail : NameError → String
  | .badCharacter name =>
      "Name '" ++ name ++
        "' contains invalid characters: only alphanumeric characters and underscores are allowed"
  | cause => cause.message

def message : DeriveError → String
  | .generic => "Entity cannot be derived for generic structs"
  | .noNamedFields => "Entity can only be derived for structs with named fields"
  | .optionsMissing kind =>
      "expected attribute arguments in parentheses: #[" ++ kind.key ++ "(...)]"
  | .optionsAssigned kind => "expected parentheses: #[" ++ kind.key ++ "(...)]"
  | .unknownOption kind => "unsupported " ++ kind.optionsDescription
  | .valueMissing => "expected \x60=\x60"
  | .valueNotText => "expected string literal"
  | .badName role name cause =>
      "Invalid " ++ role.description ++ " '" ++ name ++ "': " ++ nameDetail cause
  | .conflict kind previous => "#[" ++ kind.key ++ "] conflicts with #[" ++ previous.key ++ "]"
  | .notCollection =>
      "#[collection] requires a Vec, VecDeque, LinkedList, HashSet, BTreeSet, HashMap or " ++
        "BTreeMap field"
  | .identifierNotSimple => "#[id] can only be placed on a simple field"
  | .severalIdentifiers => "Only one field can be marked with #[id]"

end DeriveError

end EntityQuery
