import EntityQuery.Memo
import EntityQuery.Name

/-!
# Errors

Everything that can go wrong between building a query and running it, by cause.  `Error.kind` groups
the causes by who is at fault and `Error.message` words them.
-/

namespace EntityQuery

inductive ErrorKind where
  | invalidArgument
  | illegalState
  | validation
  | incorrectResultSize
  | database
  | cache
deriving DecidableEq, Inhabited

inductive Error where
  /-- A table name or alias is refused. -/
  | badName (cause : NameError)
  /-- A property or column expression is refused. -/
  | badExpression (cause : NameError)
  /-- The dotted path is named where one was resolved. -/
  | noProperty (name entity : String) (path : Option String)
  | simpleOnPath (name entity path : String)
  | appendToSimple (name path : String)
  | duplicateProperty (name entity : String)
  | identifierNotSimple (name entity : String)
  | severalIdentifiers (entity : String)
  | notStored (name table : String)
  | valueMissing (operator field : String)
  | noUsingColumn
  | noJoinCondition (table : String)
  | pageWithoutSize
  | ignoreCaseOrder (property : String)
  | notRegistered (entity : Nat)
  /-- A property refers to a type that was not found. -/
  | typeNotRegistered (type : Nat)
  | noIdentifier (entity : String)
  | rootWithoutLeaf
  | rootWithoutParent
  | rootWithoutReverse
  | noLeafEntity (path : String)
  | negativeCount (count : Int)
  | foreignDialect (dialect : String)
  | resultSize (expected actual : Nat)
  | execution (sql cause : String)
  | memo (cause : MemoError)
deriving DecidableEq, Inhabited

namespace Error

def kind : Error → ErrorKind
  | .badName _ => .validation
  | .badExpression _ | .noProperty .. | .simpleOnPath .. | .appendToSimple .. | .duplicateProperty ..
  | .identifierNotSimple .. | .severalIdentifiers _ | .notStored .. | .valueMissing ..
  | .noUsingColumn | .noJoinCondition _ | .pageWithoutSize | .ignoreCaseOrder _ => .invalidArgument
  | .notRegistered _ | .typeNotRegistered _ | .noIdentifier _ | .rootWithoutLeaf
  | .rootWithoutParent | .rootWithoutReverse | .noLeafEntity _ | .negativeCount _
  | .foreignDialect _ => .illegalState
  | .resultSize .. => .incorrectResultSize
  | .execution .. => .database
  | .memo _ => .cache

def detail : Error → String
  | .badName cause | .badExpression cause => cause.message
  | .noProperty name entity none => "No property '" ++ name ++ "' found on " ++ entity
  | .noProperty name entity (some path) =>
      "No property '" ++ name ++ "' found on " ++ entity ++ " (path '" ++ path ++ "')"
  | .simpleOnPath name entity path =>
      "Cannot traverse simple property '" ++ name ++ "' of " ++ entity ++ " (path '" ++ path ++
        "')"
  | .appendToSimple name path => "Cannot append '" ++ name ++ "' to simple property path " ++ path
  | .duplicateProperty name entity => "Duplicate property '" ++ name ++ "' on " ++ entity
  | .identifierNotSimple name entity =>
      "Identifier property '" ++ name ++ "' of " ++ entity ++ " must be a simple property"
  | .severalIdentifiers entity => entity ++ " declares more than one identifier property"
  | .notStored name table =>
      "Property '" ++ name ++ "' is not stored in a column of " ++ table
  | .valueMissing operator field =>
      "Comparison " ++ operator ++ " on '" ++ field ++ "' requires a value"
  | .noUsingColumn => "USING join requires at least one column"
  | .noJoinCondition table => "Join on '" ++ table ++ "' has no ON condition to extend"
  | .pageWithoutSize => "Page size must not be less than one"
  | .ignoreCaseOrder property =>
      "Given sort contained an Order for " ++ property ++
        " with ignore case; ignore case sorting is not supported"
  | .notRegistered entity => "No entity registered as #" ++ toString entity
  | .typeNotRegistered type => "Entity type " ++ toString type ++ " was not registered"
  | .noIdentifier entity => "Required identifier property not found for " ++ entity
  | .rootWithoutLeaf => "The root path has no leaf property"
  | .rootWithoutParent => "The parent path of a root path is not defined"
  | .rootWithoutReverse => "Empty paths don't have a reverse column name"
  | .noLeafEntity path => "Couldn't resolve leaf entity for " ++ path
  | .negativeCount count => "Count query returned negative value " ++ toString count
  | .foreignDialect dialect =>
      "Statements rendered for " ++ dialect ++ " cannot run on a PostgreSQL pool"
  | .resultSize expected actual =>
      "expected " ++ toString expected ++ ", actual " ++ toString actual
  | .execution sql cause => "Failed to execute '" ++ sql ++ "': " ++ cause
  | .memo cause => cause.message

def heading : ErrorKind → String
  | .invalidArgument => "Invalid argument: "
  | .illegalState => "Illegal state: "
  | .validation => "Validation error: "
  | .incorrectResultSize => "Incorrect result size: "
  | .database => "Database error: "
  | .cache => "Metadata cache error: "

def message (error : Error) : String :=
  heading error.kind ++ error.detail

end Error

abbrev Result := Except Error

def checkName (name : String) : Result Unit :=
  (Name.checkIdentifier name).mapError .badName

def checkExpression (context name : String) : Result Unit :=
  (Name.checkExpression context name).mapError .badExpression

end EntityQuery
