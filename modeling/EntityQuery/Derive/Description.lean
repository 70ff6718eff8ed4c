import EntityQuery.Derive.Tokens
import EntityQuery.Schema.Declaration

/-!
# Descriptions of entities

A declaration is handed to a program as a chain of calls, written as source code.  A chain starts
with the name of an entity or of a property, every call adds one thing, and a later call replaces
what an earlier one of its kind has said; only properties add up.
-/

namespace EntityQuery

inductive PropertyCall where
  | column (name : String)
  | reverseColumn (name : String)
  | keyColumn (name : String)
  | identifier
deriving DecidableEq, Inhabited

structure PropertyChain where
  name : String
  shape : Shape Tokens
  calls : List PropertyCall
deriving DecidableEq, Inhabited

inductive EntityCall where
  | table (name : String)
  | property (chain : PropertyChain)
deriving DecidableEq, Inhabited

structure EntityChain where
  name : String
  calls : List EntityCall
deriving DecidableEq, Inhabited

/-! ## What a chain declares -/

def PropertyCall.apply (property : PropertyDeclaration Tokens) :
    PropertyCall → PropertyDeclaration Tokens
  | .column name => { property with column := some name }
  | .reverseColumn name => { property with reverseColumn := some name }
  | .keyColumn name => { property with keyColumn := some name }
  | .identifier => { property with isIdentifier := true }

def PropertyChain.declaration (chain : PropertyChain) : PropertyDeclaration Tokens :=
  chain.calls.foldl PropertyCall.apply ⟨chain.name, chain.shape, none, none, none, false⟩

def EntityCall.apply (entity : EntityDeclaration Tokens) : EntityCall → EntityDeclaration Tokens
  | .table name => { entity with table := some name }
  | .property chain => { entity with properties := entity.properties ++ [chain.declaration] }

def EntityChain.declaration (chain : EntityChain) : EntityDeclaration Tokens :=
  chain.calls.foldl EntityCall.apply ⟨chain.name, none, []⟩

/-! ## The chain of a declaration -/

def PropertyDeclaration.chain (property : PropertyDeclaration Tokens) : PropertyChain where
  name := property.name
  shape := property.shape
  calls :=
    (property.column.map .column).toList ++ (property.reverseColumn.map .reverseColumn).toList ++
      (property.keyColumn.map .keyColumn).toList ++
      (if property.isIdentifier then [.identifier] else [])

def EntityDeclaration.chain (entity : EntityDeclaration Tokens) : EntityChain where
  name := entity.name
  calls :=
    (entity.table.map .table).toList ++ entity.properties.map fun property =>
      .property property.chain

/-! ## Source code -/

namespace Tokens

/-- A literal; names have nothing in them to escape. -/
def literal (content : String) : String :=
  "\"" ++ content ++ "\""

def call (method : String) (arguments : Tokens) : Tokens :=
  [method, "("] ++ arguments ++ [")"]

def mappingModule : Tokens := ["relational_core", "::", "mapping", "::"]

end Tokens

open Tokens

def PropertyCall.tokens : PropertyCall → Tokens
  | .column name => "." :: call "column" [literal name]
  | .reverseColumn name => "." :: call "reverse_column" [literal name]
  | .keyColumn name => "." :: call "key_column" [literal name]
  | .identifier => "." :: call "id" []

/-- The function that starts the description of a property, with the type that it refers to and
its last argument. -/
def Shape.start : Shape Tokens → String × Option Tokens × Tokens
  | .simple => ("simple", none, [])
  | .reference target => ("entity", some target, [])
  | .embedded target lead => ("embedded", some target, [",", literal lead])
  | .collection .list element => ("list", some element, [])
  | .collection .set element => ("set", some element, [])
  | .collection .map element => ("map", some element, [])

def PropertyChain.tokens (chain : PropertyChain) : Tokens :=
  let (function, target, argument) := chain.shape.start
  let typed := target.elim [] fun type => ["::", "<"] ++ type ++ [">"]
  mappingModule ++ ["PropertyDescriptor", "::", function] ++ typed ++
    ["("] ++ (literal chain.name :: argument) ++ [")"] ++ chain.calls.flatMap PropertyCall.tokens

def EntityCall.tokens : EntityCall → Tokens
  | .table name => "." :: call "table" [literal name]
  | .property chain => "." :: call "property" chain.tokens

def EntityChain.tokens (chain : EntityChain) : Tokens :=
  mappingModule ++ ["EntityDescriptor", "::"] ++ call "builder" [literal chain.name] ++
    chain.calls.flatMap EntityCall.tokens ++ "." :: call "build" []

/-- The code that gives the type `type` the description of an entity. -/
def EntityDeclaration.code (type : String) (entity : EntityDeclaration Tokens) : Tokens :=
  "impl" :: mappingModule ++ ["Entity", "for", type, "\x7b", "fn"] ++ call "describe" [] ++ "->" ::
    mappingModule ++ ["EntityDescriptor", "\x7b"] ++ entity.chain.tokens ++ ["\x7d", "\x7d"]

end EntityQuery
