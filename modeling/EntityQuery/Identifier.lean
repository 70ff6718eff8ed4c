import EntityQuery.Error
import EntityQuery.Text.Case

/-!
# Identifiers and tables

A name stays symbolic until it is written for a dialect.  A quoted name takes the dialect's letter
case and stands between its quotes; a plain name and an expression are written as they are.
-/

namespace EntityQuery

inductive Casing where
  | upper
  | lower
  | asWritten
deriving DecidableEq, Inhabited

def Casing.apply : Casing → String → String
  | .upper, name => Text.upper name
  | .lower, name => Text.lower name
  | .asWritten, name => name

structure Quoting where
  opening : String
  closing : String
deriving DecidableEq, Inhabited

namespace Quoting

def ansi : Quoting := ⟨"\"", "\""⟩

def backtick : Quoting := ⟨"\x60", "\x60"⟩

def brackets : Quoting := ⟨"[", "]"⟩

def none : Quoting := ⟨"", ""⟩

def apply (quoting : Quoting) (name : String) : String :=
  quoting.opening ++ name ++ quoting.closing

end Quoting

/-- How a dialect writes a quoted name. -/
structure NameStyle where
  quoting : Quoting
  casing : Casing
deriving DecidableEq, Inhabited

namespace NameStyle

def ansi : NameStyle := ⟨.ansi, .upper⟩

def plain : NameStyle := ⟨.none, .asWritten⟩

def quote (style : NameStyle) (name : String) : String :=
  style.quoting.apply name

def standardCase (style : NameStyle) (name : String) : String :=
  style.casing.apply name

end NameStyle

inductive Identifier where
  | plain (name : String)
  | quoted (name : String)
  /-- An expression such as a count is never quoted or qualified. -/
  | expression (name : String)
deriving DecidableEq, Inhabited

namespace Identifier

def name : Identifier → String
  | .plain name | .quoted name | .expression name => name

def isQuoted : Identifier → Bool
  | .quoted _ => true
  | _ => false

def isExpression : Identifier → Bool
  | .expression _ => true
  | _ => false

/-- Changes the name and keeps the kind. -/
def map (f : String → String) : Identifier → Identifier
  | .plain name => .plain (f name)
  | .quoted name => .quoted (f name)
  | .expression name => .expression (f name)

def sql (style : NameStyle) : Identifier → String
  | .quoted name => style.quote (style.standardCase name)
  | .plain name | .expression name => name

@[simp]
theorem name_map (f : String → String) (identifier : Identifier) :
    (identifier.map f).name = f identifier.name := by
  cases identifier <;> rfl

end Identifier

structure Table where
  name : Identifier
  aliasName : Option Identifier
deriving DecidableEq, Inhabited

namespace Table

def ofIdentifier (name : Identifier) : Table :=
  ⟨name, none⟩

def ofName? (name : String) : Result Table := do
  checkName name
  return .ofIdentifier (.plain name)

def withAlias? (table : Table) (name : String) : Result Table := do
  checkName name
  return { table with aliasName := some (.plain name) }

/-- What columns of the table are qualified with. -/
def reference (table : Table) : Identifier :=
  table.aliasName.getD table.name

/-- The text of the table in a FROM clause. -/
def sql (style : NameStyle) (table : Table) : String :=
  match table.aliasName with
  | none => table.name.sql style
  | some name => table.name.sql style ++ " AS " ++ name.sql style

end Table

end EntityQuery
