import EntityQuery.Config.Basic
import EntityQuery.Config.Setting
import EntityQuery.Json.Form
import EntityQuery.Number.Width

/-!
# Reading settings

Settings are read from what is written, and are themselves written as JSON.  Unknown members are
passed over, the connection has to be complete, and everything else has a standard value.  A record
may also be given as a list of its fields in their order.
-/

namespace EntityQuery

/-- What a format leaves open about records and names. -/
structure RecordRules where
  /-- What may stand for the absent content of a name. -/
  isNothing : Setting → Bool
  /-- Whether a list may go on after the last field. -/
  allowsMore : Bool

namespace RecordRules

def json : RecordRules where
  isNothing
    | .nothing => true
    | _ => false
  allowsMore := false

/-- A format without null has empty collections in its place. -/
def nullFree : RecordRules where
  isNothing
    | .list [] | .record [] => true
    | _ => false
  allowsMore := true

end RecordRules

namespace Record

/-- The fields of a record in the order of their names; nothing stands for a missing one.  Members
that are passed over have to be readable; what follows the last field of a list is never looked at.
-/
def fields? (rules : RecordRules) (names : List String) :
    Setting → Option (List (Option Setting))
  | .record members =>
      if members.all fun member => names.contains member.1 || member.2.isReadable then
        some (names.map fun name => members.lookup name)
      else none
  | .list elements =>
      if elements.length ≤ names.length ∨ rules.allowsMore then
        some ((List.range names.length).map fun index => elements[index]?)
      else none
  | _ => none

def natural? (bits : Nat) : Setting → Option Nat
  | .integer n => if fitsUnsigned bits n then some n.toNat else none
  | _ => none

/-- A missing field has its standard value. -/
def orElse (standard : α) (read : Setting → Option α) : Option Setting → Option α
  | none => some standard
  | some setting => read setting

end Record

open Record

namespace Config

def connectionNames : List String :=
  ["host", "port", "database", "username", "password", "min_connections", "max_connections",
    "connection_timeout_seconds", "idle_timeout_seconds", "max_lifetime_seconds"]

def connection? (rules : RecordRules) (setting : Setting) : Option ConnectionConfig := do
  match ← fields? rules connectionNames setting with
  | [some host, some port, some database, some username, some password, some least, some most,
      some timeout, some idle, some lifetime] =>
      some {
        host := ← host.text?
        port := .ofNat (← natural? 16 port)
        database := ← database.text?
        username := ← username.text?
        password := ← password.text?
        minConnections := .ofNat (← natural? 32 least)
        maxConnections := .ofNat (← natural? 32 most)
        connectionTimeout := .ofNat (← natural? 64 timeout)
        idleTimeout := .ofNat (← natural? 64 idle)
        maxLifetime := .ofNat (← natural? 64 lifetime) }
  | _ => none

/-- A dialect is given by its name, alone or with no content. -/
def dialectName? (rules : RecordRules) : Setting → Option Dialect
  | .text name => Dialect.ofName? name
  | .record [(name, content)] => if rules.isNothing content then Dialect.ofName? name else none
  | _ => none

def dialect? (rules : RecordRules) (setting : Setting) : Option Dialect := do
  match ← fields? rules ["kind"] setting with
  | [kind] => orElse .standard (dialectName? rules) kind
  | _ => none

def naming? (rules : RecordRules) (setting : Setting) : Option Naming := do
  match ← fields? rules ["force_quote"] setting with
  | [force] => (orElse Naming.standard.forceQuote Setting.bool? force).map Naming.mk
  | _ => none

def memo? (rules : RecordRules) (setting : Setting) : Option MemoConfig := do
  match ← fields? rules ["enabled", "initial_capacity"] setting with
  | [enabled, capacity] =>
      some ⟨← orElse MemoConfig.standard.enabled Setting.bool? enabled,
        ← orElse MemoConfig.standard.initialCapacity (natural? 64) capacity⟩
  | _ => none

def ofSetting? (rules : RecordRules) (setting : Setting) : Option Config := do
  match ← fields? rules ["database", "dialect", "mapping", "cache"] setting with
  | [some connection, dialect, naming, memo] =>
      some {
        connection := ← connection? rules connection
        dialect := ← orElse .standard (dialect? rules) dialect
        naming := ← orElse .standard (naming? rules) naming
        memo := ← orElse .standard (memo? rules) memo }
  | _ => none

def ofJson? (json : Json) : Option Config :=
  ofSetting? .json (.ofJson json)

end Config

instance : JsonForm ConnectionConfig where
  toJson connection :=
    Json.ofMembers [("host", connection.host), ("port", connection.port),
      ("database", connection.database), ("username", connection.username),
      ("password", connection.password), ("min_connections", connection.minConnections),
      ("max_connections", connection.maxConnections),
      ("connection_timeout_seconds", connection.connectionTimeout),
      ("idle_timeout_seconds", connection.idleTimeout),
      ("max_lifetime_seconds", connection.maxLifetime)]

instance : JsonForm Config where
  toJson config :=
    Json.ofMembers [("database", config.connection),
      ("dialect", Json.object [("kind", config.dialect.name)]),
      ("mapping", Json.object [("force_quote", config.naming.forceQuote)]),
      ("cache", Json.ofMembers [("enabled", config.memo.enabled),
        ("initial_capacity", config.memo.initialCapacity)])]

end EntityQuery
