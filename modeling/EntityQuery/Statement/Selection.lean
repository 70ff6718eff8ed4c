import EntityQuery.Query
import EntityQuery.Schema.Basic

/-!
# Selections

What is selected: a table, the entity stored in it if it has one, and a query.  The names of
properties of the entity stand for its columns.
-/

namespace EntityQuery

structure Selection where
  table : Table
  entity : Option Entity
  query : Query
  distinct : Bool
deriving Inhabited

namespace Selection

def ofTable (table : Table) : Selection :=
  ⟨table, none, .empty, false⟩

def ofTableName? (name : String) : Result Selection := do
  return .ofTable (← Table.ofName? name)

def ofEntity (entity : Entity) : Selection :=
  ⟨.ofIdentifier entity.table, some entity, .empty, false⟩

def withQuery (selection : Selection) (query : Query) : Selection :=
  { selection with query }

def asDistinct (selection : Selection) : Selection :=
  { selection with distinct := true }

end Selection

end EntityQuery
