import EntityQuery.Dialect
import EntityQuery.Value.Basic

/-!
# Statements

A statement is a text with markers and the values that are bound to them.  While the text is
rendered, a binder hands out the markers and keeps a record of what each stands for, so that no
value becomes part of the text.
-/

namespace EntityQuery

structure Binding where
  index : Nat
  marker : String
  value : Value
deriving Inhabited

structure Statement where
  sql : String
  bindings : List Binding
deriving Inhabited

namespace Statement

def values (statement : Statement) : List Value :=
  statement.bindings.map Binding.value

def binding? (statement : Statement) (index : Nat) : Option Binding :=
  statement.bindings[index]?

end Statement

/-- Hands out markers and records the values that are bound to them. -/
structure Binder where
  markers : Markers
  bindings : List Binding

namespace Binder

def start (style : MarkerStyle) : Binder := ⟨.start style, []⟩

/-- Binds a value to the next marker, which then stands for it in the text. -/
def bind (binder : Binder) (value : Value) : String × Binder :=
  let ((index, marker), markers) := binder.markers.next
  (marker, ⟨markers, binder.bindings ++ [⟨index, marker, value⟩]⟩)

end Binder

/-- What renders a part of a statement, with the binder of the whole statement. -/
abbrev Rendering (m : Type → Type) := StateT Binder m

namespace Rendering

variable {m : Type → Type} [Monad m]

/-- The marker that a value is bound to. -/
def markerFor (value : Value) : Rendering m String :=
  modifyGet fun binder => binder.bind value

/-- The statement with this text, which is rendered with a binder of its own. -/
def statement (style : MarkerStyle) (text : Rendering m String) : m Statement := do
  let (sql, binder) ← text.run (.start style)
  return ⟨sql, binder.bindings⟩

end Rendering

end EntityQuery
