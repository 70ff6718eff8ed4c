import EntityQuery.Identifier

/-!
# SQL dialects

What differs between databases: how names are quoted, how markers of bound values are spelled, and
how a window of rows is asked for.
-/

namespace EntityQuery

inductive MarkerStyle where
  /-- `lead` and a number that starts at `base`. -/
  | numbered (lead : String) (base : Nat)
  /-- The same text for every value. -/
  | anonymous (text : String)
deriving DecidableEq, Inhabited

namespace MarkerStyle

/-- The marker of the value at this position. -/
def marker : MarkerStyle → Nat → String
  | .numbered lead base, index => lead ++ toString (base + index)
  | .anonymous text, _ => text

end MarkerStyle

/-- The markers of one statement, which are handed out from left to right. -/
structure Markers where
  style : MarkerStyle
  /-- How many are handed out already. -/
  count : Nat

namespace Markers

def start (style : MarkerStyle) : Markers := ⟨style, 0⟩

/-- The next marker with its position. -/
def next (markers : Markers) : (Nat × String) × Markers :=
  ((markers.count, markers.style.marker markers.count), { markers with count := markers.count + 1 })

/-- As many markers as are asked for. -/
def take : Nat → Markers → List (Nat × String)
  | 0, _ => []
  | count + 1, markers =>
      let (marker, markers) := markers.next
      marker :: take count markers

end Markers

/-- The first markers with their positions. -/
def MarkerStyle.firstMarkers (style : MarkerStyle) (count : Nat) : List (Nat × String) :=
  (Markers.start style).take count

inductive Dialect where
  | postgres
  | mysql
  | sqlserver
deriving DecidableEq, Inhabited

namespace Dialect

def standard : Dialect := .postgres

def name : Dialect → String
  | .postgres => "postgres"
  | .mysql => "mysql"
  | .sqlserver => "sqlserver"

def ofName? (name : String) : Option Dialect :=
  [postgres, mysql, sqlserver].find? fun dialect => dialect.name == name

def nameStyle : Dialect → NameStyle
  | .postgres => ⟨.ansi, .lower⟩
  | .mysql => ⟨.backtick, .asWritten⟩
  | .sqlserver => ⟨.brackets, .asWritten⟩

def markerStyle : Dialect → MarkerStyle
  | .postgres => .numbered "$" 1
  | .mysql => .anonymous "?"
  | .sqlserver => .numbered "@P" 0

/-- The clause for a window of rows; none is needed for all rows from the first on. -/
def limitClause? (dialect : Dialect) (limit : Option UInt64) (offset : UInt64) : Option String :=
  match dialect, limit with
  | .postgres, some limit =>
      if offset = 0 then some ("LIMIT " ++ toString limit)
      else some ("LIMIT " ++ toString limit ++ " OFFSET " ++ toString offset)
  | .postgres, none => if offset = 0 then none else some ("OFFSET " ++ toString offset)
  | .mysql, some limit =>
      if offset = 0 then some ("LIMIT " ++ toString limit)
      else some ("LIMIT " ++ toString offset ++ ", " ++ toString limit)
  | .mysql, none =>
      -- An offset needs a limit here, so the largest one stands for none.
      if offset = 0 then none else some ("LIMIT " ++ toString offset ++ ", 18446744073709551615")
  | .sqlserver, some limit =>
      some ("OFFSET " ++ toString offset ++ " ROWS FETCH NEXT " ++ toString limit ++ " ROWS ONLY")
  | .sqlserver, none =>
      if offset = 0 then none else some ("OFFSET " ++ toString offset ++ " ROWS")

/-- Whether an order can place nulls. -/
def ordersNulls : Dialect → Bool
  | .postgres => true
  | _ => false

/-- Whether a window of rows needs an order. -/
def windowNeedsOrder : Dialect → Bool
  | .sqlserver => true
  | _ => false

end Dialect

end EntityQuery
