import EntityQuery.Config.Address
import EntityQuery.Config.Basic
import EntityQuery.Postgres.Pool

/-!
# A configured database

Settings that pass the check become a mapping context and the limits of a pool.  Statements can be
rendered for every dialect, but a template runs them only if the dialect is that of the server.
-/

namespace EntityQuery

inductive DatabaseError where
  | config (fault : ConfigFault)
  /-- The address is unreadable, or nothing answers there. -/
  | connection
  | query (cause : Error)
deriving DecidableEq, Inhabited

def DatabaseError.configMessage (fault : ConfigFault) : String :=
  "Configuration error: " ++ fault.text

/-- Times are in seconds. -/
structure PoolLimits where
  maxConnections : UInt32
  minConnections : UInt32
  acquireTimeout : UInt64
  idleTimeout : UInt64
  maxLifetime : UInt64
deriving DecidableEq, Inhabited

namespace PoolLimits

/-- The lifetime of a connection for which none is set. -/
def standardLifetime : UInt64 := 1800

def ofConfig (connection : ConnectionConfig) : PoolLimits where
  maxConnections := connection.maxConnections
  minConnections := connection.minConnections
  acquireTimeout := connection.connectionTimeout
  idleTimeout := connection.idleTimeout
  maxLifetime := if connection.maxLifetime = 0 then standardLifetime else connection.maxLifetime

end PoolLimits

structure Database (n : Nat) where
  limits : PoolLimits
  dialect : Dialect
  context : Context n

namespace Database

/-- Opens a database if something answers at its address. -/
def openAt? (answers : Address → Bool) (config : Config) : Except DatabaseError (Database n) := do
  (config.check).mapError .config
  let address ← (Address.ofText? config.connection.text).elim (throw .connection) pure
  if !answers address then throw .connection
  let context ← (Context.ofConfig? config.naming config.memo).mapError .query
  return ⟨.ofConfig config.connection, config.dialect, context⟩

/-- Opens a database without asking whether it answers. -/
def openLater? (config : Config) : Except DatabaseError (Database n) :=
  openAt? (fun _ => true) config

/-- Opens a database behind which a server answers at this place, though it encrypts nothing. -/
def connect? (host : String) (port : UInt16) (config : Config) :
    Except DatabaseError (Database n) :=
  openAt? (fun address => decide (address = ⟨host, some port.toNat, false⟩)) config

def template? (database : Database n) (catalog : Catalog n) (pool : Postgres.Pool) :
    Result (Template n Json) :=
  if database.dialect = .postgres then .ok ⟨database.dialect, catalog, pool.executor⟩
  else .error (.foreignDialect database.dialect.name)

end Database

end EntityQuery
