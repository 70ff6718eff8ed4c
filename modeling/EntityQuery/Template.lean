import EntityQuery.Context
import EntityQuery.Statement.Select

/-!
# Running queries on entities

A template renders the query on an entity and hands the statement to an executor.  A session is one
use of it: it may register entities in the context, and it records the calls made to the executor in
their order, also when it fails in the end.
-/

namespace EntityQuery

/-- What runs statements: all rows of one, or the number that it gives. -/
structure Executor (ρ : Type) where
  fetchAll : Statement → Result (List ρ)
  fetchCount : Statement → Result Int

inductive Call where
  | fetchAll (statement : Statement)
  | fetchCount (statement : Statement)
deriving Inhabited

def Call.statement : Call → Statement
  | .fetchAll statement | .fetchCount statement => statement

structure Progress (n : Nat) (α : Type) where
  context : Context n
  calls : List Call
  result : Result α

def Session (n : Nat) (α : Type) : Type :=
  Context n → Progress n α

namespace Session

def pure (value : α) : Session n α := fun context =>
  ⟨context, [], .ok value⟩

def bind (session : Session n α) (next : α → Session n β) : Session n β := fun context =>
  let first := session context
  match first.result with
  | .error error => ⟨first.context, first.calls, .error error⟩
  | .ok value =>
      let second := next value first.context
      ⟨second.context, first.calls ++ second.calls, second.result⟩

instance : Monad (Session n) where
  pure := Session.pure
  bind := Session.bind

def ofResult (result : Result α) : Session n α := fun context =>
  ⟨context, [], result⟩

def schema : Session n Schema := fun context =>
  ⟨context, [], .ok context.schema⟩

def entity (catalog : Catalog n) (type : Fin n) : Session n Entity := fun context =>
  let (result, context) := context.entity catalog type
  ⟨context, [], result⟩

def fetchAll (executor : Executor ρ) (statement : Statement) : Session n (List ρ) := fun context =>
  ⟨context, [.fetchAll statement], executor.fetchAll statement⟩

def fetchCount (executor : Executor ρ) (statement : Statement) : Session n Int := fun context =>
  ⟨context, [.fetchCount statement], executor.fetchCount statement⟩

end Session

structure Template (n : Nat) (ρ : Type) where
  dialect : Dialect
  catalog : Catalog n
  executor : Executor ρ

namespace Template

variable {n : Nat} {ρ : Type}

/-- The table of the entity, shaped by the query. -/
def selection (template : Template n ρ) (type : Fin n) (query : Query) :
    Session n Selection := do
  let entity ← Session.entity template.catalog type
  return (Selection.ofEntity entity).withQuery query

def statement (template : Template n ρ)
    (render : Renderer → Selection → Result Statement) (type : Fin n) (query : Query) :
    Session n Statement := do
  let selection ← template.selection type query
  let schema ← Session.schema
  Session.ofResult (render ⟨template.dialect, schema⟩ selection)

def select (template : Template n ρ) (type : Fin n) (query : Query) : Session n (List ρ) := do
  let statement ← template.statement Renderer.select type query
  Session.fetchAll template.executor statement

/-- The only row, or none; the query asks for two rows so that a second one is noticed. -/
def selectOne (template : Template n ρ) (type : Fin n) (query : Query) :
    Session n (Option ρ) := do
  let rows ← template.select type (query.withLimit 2)
  if 1 < rows.length then Session.ofResult (.error (.resultSize 1 rows.length))
  else return rows.getLast?

def count (template : Template n ρ) (type : Fin n) (query : Query) : Session n UInt64 := do
  let statement ← template.statement Renderer.count type query
  let count ← Session.fetchCount template.executor statement
  if count < 0 then Session.ofResult (.error (.negativeCount count))
  else return UInt64.ofNat count.toNat

def exists? (template : Template n ρ) (type : Fin n) (query : Query) : Session n Bool := do
  let statement ← template.statement Renderer.exists? type query
  let rows ← Session.fetchAll template.executor statement
  return !rows.isEmpty

/-- Whether the rows of a page show where all rows end. -/
def pinsTotal (request : PageRequest) (content : List ρ) : Bool :=
  Page.contentLength content < request.size && (request.offset = 0 || !content.isEmpty)

/-- One page.  The rows are counted only if the page does not show where they end. -/
def page (template : Template n ρ) (type : Fin n) (query : Query) (pageable : Pageable) :
    Session n (Page ρ) := do
  let paged ← Session.ofResult (query.paged? pageable)
  let content ← template.select type paged
  let total ←
    match pageable with
    | .unpaged => pure (Page.contentLength content)
    | .paged request boundary =>
        if pinsTotal request content then
          pure (Saturating.add request.offset (Page.contentLength content))
        else
          let counted :=
            match boundary with
            | some boundary => query.withBoundary boundary
            | none => query
          template.count type counted
  return Page.of content pageable total

end Template

end EntityQuery
