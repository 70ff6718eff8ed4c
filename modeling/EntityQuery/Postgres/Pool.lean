import EntityQuery.Number.Width
import EntityQuery.Postgres.Parameter
import EntityQuery.Template

/-!
# Statements on a PostgreSQL pool

A request is a statement with its parameters, and the server answers it with rows of one column and
a tag, or with an error.  The rows of a count statement must hold a number of eight bytes.
-/

namespace EntityQuery.Postgres

structure Request where
  sql : String
  parameters : List Parameter
deriving DecidableEq, Inhabited

structure Reply where
  /-- The type of the only column. -/
  columnType : Nat
  rows : List Json
  tag : String
  error : Option String
deriving Inhabited

/-- A pool is closed, or has a server that answers requests. -/
inductive Pool where
  | closed
  | connected (server : Request → Reply)

def Request.ofStatement (statement : Statement) : Request :=
  ⟨statement.sql, statement.values.map Parameter.ofValue⟩

inductive RequestError where
  | poolClosed
  | server (text : String)
  | noRow
  | unexpectedNull
  | columnType (type : Nat)
deriving DecidableEq, Inhabited

def typeName (type : Nat) : String :=
  if type = bigIntType then "INT8" else if type = integerType then "INT4" else "TEXT"

def RequestError.message : RequestError → String
  | .poolClosed => "attempted to acquire a connection on a closed pool"
  | .server text => "error returned from database: " ++ text
  | .noRow => "no rows returned by a query that expected to return at least one row"
  | .unexpectedNull =>
      "error occurred while decoding column 0: unexpected null; try decoding as an \x60Option\x60"
  | .columnType type =>
      "error occurred while decoding column 0: mismatched types; Rust type \x60i64\x60 (as SQL type " ++
        "\x60INT8\x60) is not compatible with SQL type \x60" ++ typeName type ++ "\x60"

namespace Pool

/-- What the server gets to see of a request. -/
def seen (pool : Pool) (request : Request) : List Request :=
  match pool with
  | .closed => []
  | .connected _ => [request]

def send (pool : Pool) (request : Request) : Except RequestError Reply :=
  match pool with
  | .closed => .error .poolClosed
  | .connected server =>
      let reply := server request
      match reply.error with
      | some text => .error (.server text)
      | none => .ok reply

def countOf (reply : Reply) : Except RequestError Int :=
  match reply.rows with
  | [] => .error .noRow
  | .null :: _ => .error .unexpectedNull
  | .integer count :: _ =>
      if reply.columnType = bigIntType then .ok count else .error (.columnType reply.columnType)
  | _ :: _ => .error (.columnType reply.columnType)

def withoutPlus : List Char → List Char
  | '+' :: rest => rest
  | text => text

/-- The number that the last word of the tag starts with; a tag of one word has none. -/
def affectedOf (reply : Reply) : UInt64 :=
  match (Text.pieces ' ' reply.tag).reverse with
  | last :: _ :: _ =>
      let digits := (withoutPlus last.toList).takeWhile Char.isDigit
      let count := Decimal.digitsValue digits
      if fitsUnsigned 64 count then UInt64.ofNat count else 0
  | _ => 0

def naming (statement : Statement) (outcome : Except RequestError α) : Result α :=
  outcome.mapError fun cause => .execution statement.sql cause.message

def fetchAll (pool : Pool) (statement : Statement) : Result (List Json) :=
  naming statement do
    return (← pool.send (.ofStatement statement)).rows

def fetchCount (pool : Pool) (statement : Statement) : Result Int :=
  naming statement do
    countOf (← pool.send (.ofStatement statement))

/-- The number of rows that the statement changed. -/
def execute (pool : Pool) (statement : Statement) : Result UInt64 :=
  naming statement do
    return affectedOf (← pool.send (.ofStatement statement))

def executor (pool : Pool) : Executor Json :=
  ⟨pool.fetchAll, pool.fetchCount⟩

/-- The check of a connection asks for a constant and needs a row. -/
def healthRequest : Request := ⟨"SELECT 1", []⟩

def health (pool : Pool) : Except RequestError Unit := do
  let reply ← pool.send healthRequest
  if reply.rows.isEmpty then throw .noRow

end Pool

end EntityQuery.Postgres
