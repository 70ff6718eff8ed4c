import EntityQuery.Memo
import EntityQuery.Path.Column

/-!
# Mapping contexts

A registry together with the memo of the paths handed out.  Every path is looked up in the memo when
it is handed out, so the counters show how often paths were asked for.
-/

namespace EntityQuery

structure Context (n : Nat) where
  registry : Registry n
  paths : Memo PathKey Path

namespace Context

def of (naming : Naming) : Context n :=
  ⟨.empty naming, .empty⟩

def ofConfig? (naming : Naming) (config : MemoConfig) : Result (Context n) := do
  return ⟨.empty naming, ← (Memo.ofConfig? config).mapError .memo⟩

def schema (context : Context n) : Schema :=
  context.registry.schema

def register (catalog : Catalog n) (context : Context n) (type : Fin n) :
    Result EntityId × Context n :=
  let (result, registry) := Registry.register catalog type context.registry
  (result, { context with registry })

/-- The entity of a type, registered if it is not yet. -/
def entity (catalog : Catalog n) (context : Context n) (type : Fin n) :
    Result Entity × Context n :=
  let (result, context) := context.register catalog type
  (result >>= context.schema.required, context)

/-- The number of a type with the context behind the call, if it succeeds. -/
def register? (catalog : Catalog n) (context : Context n) (type : Fin n) :
    Result (EntityId × Context n) :=
  let (result, context) := context.register catalog type
  result.map (·, context)

/-- The entity of a type with the context behind the call, if it succeeds. -/
def entity? (catalog : Catalog n) (context : Context n) (type : Fin n) :
    Result (Entity × Context n) :=
  let (result, context) := context.entity catalog type
  result.map (·, context)

/-- Hands a path out through the memo. -/
def handOut (context : Context n) (path : Path) : Path × Context n :=
  let (path, paths) := context.paths.getOrInsert path.key path
  (path, { context with paths })

/-- Hands out what was resolved; after a failure the context is as before. -/
def answer (context : Context n) : Result Path → Result Path × Context n
  | .error error => (.error error, context)
  | .ok path =>
      let (path, context) := context.handOut path
      (.ok path, context)

def rootPath (context : Context n) (id : EntityId) : Result Path × Context n :=
  context.answer (context.schema.rootPath id)

/-- The path of a type with these names.  The type stays registered if the names lead nowhere. -/
def resolve (catalog : Catalog n) (context : Context n) (type : Fin n) (path : String) :
    Result Path × Context n :=
  match context.entity catalog type with
  | (.error error, context) => (.error error, context)
  | (.ok root, context) => context.answer (context.schema.resolve root path)

def append (context : Context n) (path : Path) (name : String) : Result Path × Context n :=
  context.answer (context.schema.append path name)

def parent (context : Context n) (path : Path) : Result Path × Context n :=
  context.answer (context.schema.parent path)

def description (context : Context n) : String :=
  "MappingContext \x7b naming: NamingStrategy \x7b force_quote: " ++
    (if context.schema.naming.forceQuote then "true" else "false") ++ " \x7d, entities: \"" ++
    toString context.schema.entities.length ++ "\", paths: " ++ context.paths.description ++ " \x7d"

end Context

end EntityQuery
