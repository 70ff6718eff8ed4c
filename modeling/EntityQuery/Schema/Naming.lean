import EntityQuery.Identifier
import EntityQuery.Text.SnakeCase

/-!
# Derived names

The names of tables and columns that a declaration leaves open.
-/

namespace EntityQuery

structure Naming where
  /-- Whether every name is quoted. -/
  forceQuote : Bool
deriving DecidableEq, Inhabited

namespace Naming

def standard : Naming := ⟨false⟩

def tableName (entity : String) : String :=
  Text.snakeCase entity

def columnName (property : String) : String :=
  Text.snakeCase property

def identifier (naming : Naming) (name : String) : Identifier :=
  if naming.forceQuote then .quoted name else .plain name

/-- A column that refers back to a row is named after the table of that row. -/
def reverseColumn (naming : Naming) (table : Identifier) : Identifier :=
  naming.identifier table.name

def keyColumn (reverse : Identifier) : Identifier :=
  reverse.map (· ++ "_key")

end Naming

end EntityQuery
