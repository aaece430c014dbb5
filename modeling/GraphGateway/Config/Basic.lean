/-
The configuration of the server, and the layers it is made of.

Every field has an initial value. A file gives fields of its own; the environment overrides some of
them. A variable for a path that is blank counts as one that is not set, and a blank variable for a
flag says no. Paths may be any bytes, but where a configuration is written down they are texts, so one
with another path cannot be written.
-/
import GraphGateway.Failure
import GraphGateway.Files.Path
import GraphGateway.Json.Codec
import GraphGateway.Text.Blank

namespace GraphGateway

open Json (Codec)

structure Config where
  /-- The database. -/
  dbPath : Files.Path
  /-- Whether the database is opened for reading only, and never seeded. -/
  readOnly : Bool
  /-- The script that an empty database is seeded from. -/
  seedFile : Option Files.Path
  /-- How much is logged. -/
  logLevel : String
deriving DecidableEq, Repr

namespace Config

/-- Where the database is unless something else is said: below the directory for data, or below the
working directory if there is none. -/
def initialPath : Option Files.Path → Files.Path
  | some dataDirectory => (dataDirectory.child "kuzu-mcp").child "database"
  | none => (Files.Path.ofString "kuzu-mcp-data").child "database"

/-- What holds unless something else is said. -/
def initial (dataDirectory : Option Files.Path) : Config :=
  ⟨initialPath dataDirectory, false, none, "info"⟩

/-! ## In transport -/

/-- What is given of a configuration where it is written down: any of the fields, with paths as
texts. -/
structure Given where
  dbPath : Option String
  readOnly : Option Bool
  seedFile : Option String
  logLevel : Option String
deriving DecidableEq, Repr

/-- A configuration with the fields that are given. -/
def Given.over (g : Given) (c : Config) : Config where
  dbPath := (g.dbPath.map Files.Path.ofString).getD c.dbPath
  readOnly := g.readOnly.getD c.readOnly
  seedFile := (g.seedFile.map Files.Path.ofString).or c.seedFile
  logLevel := g.logLevel.getD c.logLevel

/-- What a configuration gives when it is written down. It cannot be if one of its paths is no
text. -/
def given? (c : Config) : Option Given :=
  match c.dbPath.text?, c.seedFile.mapM Files.Path.text? with
  | some dbPath, some seedFile => some ⟨some dbPath, some c.readOnly, seedFile, some c.logLevel⟩
  | _, _ => none

/-- The text of a path. -/
def pathText : Codec String := .parsed "path string" .ok id

def Given.codec : Codec Given :=
  .record "ServerConfig"
    (.cons (.given "db_path" pathText)
      (.cons (.given "read_only" .flag)
        (.cons { name := "seed_file", codec := pathText.optional, absence := .anywhere none }
          (.cons (.given "log_level" .text) .nil))))
    (fun (dbPath, readOnly, seedFile, logLevel, ()) => ⟨dbPath, readOnly, seedFile, logLevel⟩)
    (fun g => (g.dbPath, g.readOnly, g.seedFile, g.logLevel, ()))

/-- The configuration that a JSON text holds; what it leaves out holds as it does from the start. -/
def decode (dataDirectory : Option Files.Path) (text : String) : Except Json.Fault Config :=
  (Given.codec.decode text).map (Given.over · (initial dataDirectory))

/-- A configuration as JSON, unless one of its paths is no text. -/
def toJson? (c : Config) : Option Json := c.given?.map Given.codec.write

end Config

/-! ## The environment -/

/-- The variables of an environment and their values, the first of each name. -/
abbrev Environment := List (String × List UInt8)

namespace Environment

/-- The value of a variable that is set to a text. -/
def text? (env : Environment) (name : String) : Option String :=
  (env.lookup name).bind fun bytes => (Text.Utf8.decode bytes).toOption

/-- The value of a variable that is set to a text with something in it besides blanks. -/
def nonBlank? (env : Environment) (name : String) : Option String :=
  (env.text? name).filter fun s => !Text.isAllBlank s

end Environment

namespace Config

def dbPathVariable : String := "KUZU_MCP_DB_PATH"

def readOnlyVariable : String := "KUZU_MCP_READ_ONLY"

def seedFileVariable : String := "KUZU_MCP_SEED_FILE"

/-- What a variable says that is set to yes or no; blank is no. -/
def flagOf (name value : String) : Except Failure Bool :=
  let word := (Text.trim value).toLower
  if ["1", "true", "yes", "on"].contains word then .ok true
  else if ["0", "false", "no", "off", ""].contains word then .ok false
  else .error (.config s!"invalid boolean for {name}: '{word}'")

/-- Overrides fields by variables, in order, up to the first that cannot be understood. -/
def override (env : Environment) (c : Config) : Except Failure Unit × Config :=
  let path? := (env.nonBlank? dbPathVariable).map Files.Path.ofString
  let c := { c with dbPath := path?.getD c.dbPath }
  let seeded (c : Config) : Config :=
    { c with seedFile := ((env.nonBlank? seedFileVariable).map Files.Path.ofString).or c.seedFile }
  match env.text? readOnlyVariable with
  | none => (.ok (), seeded c)
  | some value =>
    match flagOf readOnlyVariable value with
    | .ok readOnly => (.ok (), seeded { c with readOnly := readOnly })
    | .error f => (.error f, c)

end Config

end GraphGateway
