import EntityQuery.Config.Reading
import EntityQuery.Environment
import EntityQuery.Text.Pieces
import EntityQuery.Toml.Reading

/-!
# Loading settings

Settings are kept in a TOML file.  Its path is in a variable that the environment or an environment
file sets, or else it is the standard one.
-/

namespace EntityQuery

/-- The contents of files by name. -/
abbrev Files := List (String × String)

namespace Files

/-- The steps of a path, without those that stay in place. -/
def steps (path : String) : List String :=
  (Text.pieces '/' path).filter fun step => step != "" && step != "."

/-- Whether files lie below this place. -/
def isDirectory (files : Files) (place : List String) : Bool :=
  place.isEmpty || files.any fun file =>
    let steps := steps file.1
    place.isPrefixOf steps && place.length < steps.length

/-- The place that the steps lead to without leaving the directory that holds the files. -/
def walk? (files : Files) : List String → List String → Option (List String)
  | place, [] => some place
  | place, step :: rest =>
      if !files.isDirectory place || (place.isEmpty && step == "..") then none
      else if step = ".." then walk? files place.dropLast rest
      else walk? files (place ++ [step]) rest

/-- The content of the file that a path names. -/
def content? (files : Files) (path : String) : Option String := do
  let pieces := Text.pieces '/' path
  if 1 < pieces.length ∧ pieces.head? = some "" then none
  if pieces.getLast? = some "" ∨ pieces.getLast? = some "." then none
  let place ← files.walk? [] (steps path)
  (files.find? fun file => steps file.1 == place).map Prod.snd

end Files

namespace Config

def environmentFile : String := ".env"

/-- Settings that pass the check. -/
def ofToml (content : String) : Except ConfigError Config := do
  match (Toml.read? content).bind fun document => ofSetting? .nullFree (.ofToml document) with
  | none => throw .malformed
  | some config =>
      (config.check).mapError .invalid
      return config

def ofFile (files : Files) (path : String) : Except ConfigError Config :=
  match files.content? path with
  | none => .error .unreadable
  | some content => ofToml content

/-- The settings named by the environment, and the variables that are set afterwards. -/
def load (files : Files) (vars : Variables) : Except ConfigError Config × Variables :=
  let vars :=
    match files.content? environmentFile with
    | some content => Environment.load content vars
    | none => vars
  let config :=
    match vars.lookup variableName with
    | some path => ofFile files path
    | none =>
        match files.content? standardFile with
        | some content => ofToml content
        | none => .error (.invalid .noFile)
  (config, vars)

end Config

end EntityQuery
