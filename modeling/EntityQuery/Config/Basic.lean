import EntityQuery.Dialect
import EntityQuery.Memo
import EntityQuery.Schema.Naming

/-!
# Settings

What has to be known before queries can run: where the database is, how its connections are kept,
its dialect, and how entities are mapped.  A check lists what it refuses in the order in which it
looks.
-/

namespace EntityQuery

/-- Times are in seconds. -/
structure ConnectionConfig where
  host : String
  port : UInt16
  database : String
  username : String
  password : String
  minConnections : UInt32
  maxConnections : UInt32
  connectionTimeout : UInt64
  idleTimeout : UInt64
  maxLifetime : UInt64
deriving DecidableEq, Inhabited

structure Config where
  connection : ConnectionConfig
  dialect : Dialect
  naming : Naming
  memo : MemoConfig
deriving DecidableEq, Inhabited

inductive ConfigFault where
  | noHost
  | noPort
  | noDatabase
  | noUsername
  | noConnections
  | tooManyConnections
  | noTimeout
  | noCapacity
  /-- No file is named and the standard one is missing. -/
  | noFile
deriving DecidableEq, Inhabited

inductive ConfigError where
  | invalid (fault : ConfigFault)
  | malformed
  | unreadable
deriving DecidableEq, Inhabited

namespace Config

def variableName : String := "QUERYHAUS_CONFIG"

def standardFile : String := "./queryhaus.toml"

end Config

def ConfigFault.message : ConfigFault → String
  | .noHost => "Database host cannot be empty"
  | .noPort => "Database port cannot be zero"
  | .noDatabase => "Database name cannot be empty"
  | .noUsername => "Database username cannot be empty"
  | .noConnections => "Database max_connections must be greater than 0"
  | .tooManyConnections => "Database min_connections cannot be greater than max_connections"
  | .noTimeout => "Database connection_timeout_seconds must be greater than 0"
  | .noCapacity => "Cache initial_capacity must be greater than 0 when the cache is enabled"
  | .noFile =>
      "Config path must be specified as " ++ Config.variableName ++ " or in " ++
        Config.standardFile ++ " file"

def ConfigFault.text (fault : ConfigFault) : String :=
  "Invalid configuration: " ++ fault.message

namespace ConnectionConfig

def check (connection : ConnectionConfig) : Except ConfigFault Unit :=
  if connection.host = "" then .error .noHost
  else if connection.port = 0 then .error .noPort
  else if connection.database = "" then .error .noDatabase
  else if connection.username = "" then .error .noUsername
  else if connection.maxConnections = 0 then .error .noConnections
  else if connection.maxConnections < connection.minConnections then .error .tooManyConnections
  else if connection.connectionTimeout = 0 then .error .noTimeout
  else .ok ()

/-- The connection as one text; nothing in the parts is escaped. -/
def text (connection : ConnectionConfig) : String :=
  "postgresql://" ++ connection.username ++ ":" ++ connection.password ++ "@" ++ connection.host ++
    ":" ++ toString connection.port ++ "/" ++ connection.database

end ConnectionConfig

def Config.check (config : Config) : Except ConfigFault Unit := do
  config.connection.check
  if config.memo.enabled && config.memo.initialCapacity == 0 then throw .noCapacity

end EntityQuery
