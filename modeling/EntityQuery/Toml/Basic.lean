import EntityQuery.Toml.Value

/-!
# Tables under construction

A document names the same table in several places, so that a table is built in steps.  A table that
was only passed through on the way to another may be opened once by a header of its own; one that
came from dotted keys grows by dotted keys alone; one that was opened is never opened again.  The
table that an array of tables added last is the one that later headers refer to.
-/

namespace EntityQuery.Toml

inductive TableKind where
  /-- Has a header of its own, or is the document. -/
  | opened
  /-- Stands in a longer header only. -/
  | passed
  /-- Comes from dotted keys. -/
  | dotted
deriving DecidableEq, Inhabited

inductive Node where
  | value (content : Value)
  | table (kind : TableKind) (members : List (String × Node))
  /-- An array of tables, the last one first. -/
  | tables (latest : List (String × Node)) (earlier : List (List (String × Node)))
deriving Inhabited

abbrev Members := List (String × Node)

abbrev Key := List String

namespace Members

def put (key : String) (node : Node) : Members → Members
  | [] => [(key, node)]
  | (other, old) :: rest =>
      if other = key then (key, node) :: rest else (other, old) :: put key node rest

/-- Changes the table that a header leads to, passing through tables that may be missing. -/
def within (change : Members → Option Members) : Key → Members → Option Members
  | [], members => change members
  | step :: steps, members => do
      match members.lookup step with
      | none => some (members.put step (.table .passed (← within change steps [])))
      | some (.table kind inner) =>
          some (members.put step (.table kind (← within change steps inner)))
      | some (.tables latest earlier) =>
          some (members.put step (.tables (← within change steps latest) earlier))
      | some (.value _) => none

/-- Opens the table of this name. -/
def openTable (key : String) (members : Members) : Option Members :=
  match members.lookup key with
  | none => some (members.put key (.table .opened []))
  | some (.table .passed inner) => some (members.put key (.table .opened inner))
  | some _ => none

/-- Adds a table to the array of tables of this name. -/
def addTable (key : String) (members : Members) : Option Members :=
  match members.lookup key with
  | none => some (members.put key (.tables [] []))
  | some (.tables latest earlier) => some (members.put key (.tables [] (latest :: earlier)))
  | some _ => none

/-- Sets a value below a dotted key.  `mayEnd` says whether the last name may belong to this
table. -/
def setDotted (content : Value) : Bool → Key → Members → Option Members
  | _, [], _ => none
  | mayEnd, [name], members =>
      if mayEnd && (members.lookup name).isNone then some (members.put name (.value content))
      else none
  | _, step :: steps, members => do
      match members.lookup step with
      | none => some (members.put step (.table .dotted (← setDotted content true steps [])))
      | some (.table .opened _) | some (.value _) => none
      | some (.table kind inner) =>
          let changed ← setDotted content (kind == .dotted) steps inner
          some (members.put step (.table kind changed))
      | some (.tables latest earlier) =>
          some (members.put step (.tables (← setDotted content false steps latest) earlier))

/-- Sets a value in a table that is open. -/
def set (key : Key) (content : Value) (members : Members) : Option Members :=
  members.setDotted content true key

end Members

mutual

def Node.toValue : Node → Value
  | .value content => content
  | .table _ members => .table (membersValue members)
  | .tables latest earlier => .array (tablesValue earlier [.table (membersValue latest)])

def membersValue : List (String × Node) → List (String × Value)
  | [] => []
  | (key, node) :: rest => (key, node.toValue) :: membersValue rest

/-- The tables in their order, in front of those already done. -/
def tablesValue : List (List (String × Node)) → List Value → List Value
  | [], done => done
  | members :: earlier, done => tablesValue earlier (.table (membersValue members) :: done)

end

end EntityQuery.Toml
