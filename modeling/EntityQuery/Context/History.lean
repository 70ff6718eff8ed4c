import EntityQuery.Context.Rendering

/-!
# What is done with a context

A context is used step by step.  Paths that were handed out are kept, and later steps go on from
them.
-/

namespace EntityQuery

/-- A step; the paths handed out before go by their places. -/
inductive Operation (n : Nat) where
  | register (type : Fin n)
  | rootPath (id : EntityId)
  | resolve (type : Fin n) (path : String)
  /-- A path without its last segments is asked for. -/
  | above (place steps : Nat)
  | append (place : Nat) (name : String)
  | parent (place : Nat)
  | identifierParent (place : Nat)
  | tableOwner (place : Nat)
  | report (place : Nat)
  | statement (dialect : Dialect) (kind : StatementKind) (subject : Inquiry.Subject n)
      (query : Query) (distinct : Bool)

structure History (n : Nat) where
  context : Context n
  /-- The paths handed out, the latest first. -/
  paths : List Path

namespace History

variable {n : Nat} {α : Type}

def start (context : Context n) : History n := ⟨context, []⟩

/-- Puts an inquiry and keeps the paths of its answer. -/
def ask (history : History n) (inquiry : Inquiry n α) (kept : α → List Path) :
    Option (History n) :=
  (inquiry history.context).map fun (result, context) =>
    match result with
    | .ok answer => ⟨context, kept answer ++ history.paths⟩
    | .error _ => ⟨context, history.paths⟩

/-- Puts an inquiry about a path that was handed out; there is none at a wrong place. -/
def askAt (history : History n) (place : Nat) (inquiry : Path → Inquiry n α)
    (kept : α → List Path) : Option (History n) :=
  match history.paths[place]? with
  | some path => history.ask (inquiry path) kept
  | none => some history

/-- One step, if it ends. -/
def perform (catalog : Catalog n) (history : History n) : Operation n → Option (History n)
  | .register type => history.ask (Inquiry.entity catalog type) fun _ => []
  | .rootPath id => history.ask (Inquiry.rootPath id) fun path => [path]
  | .resolve type path => history.ask (Inquiry.resolve catalog type path) fun path => [path]
  | .above place steps =>
      history.askAt place (fun path => Inquiry.handOut (path.above steps)) fun path => [path]
  | .append place name => history.askAt place (Inquiry.append · name) fun path => [path]
  | .parent place => history.askAt place Inquiry.parent fun path => [path]
  | .identifierParent place => history.askAt place Inquiry.identifierParent fun path => [path]
  | .tableOwner place => history.askAt place Inquiry.tableOwner fun path => [path]
  | .report place => history.askAt place Inquiry.report fun _ => []
  | .statement dialect kind subject query distinct =>
      history.ask (Inquiry.statement catalog dialect kind subject query distinct) fun _ => []

def run (catalog : Catalog n) (history : History n) (operations : List (Operation n)) :
    Option (History n) :=
  operations.foldlM (perform catalog) history

end History

end EntityQuery
