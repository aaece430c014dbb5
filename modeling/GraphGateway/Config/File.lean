/-
Configurations in TOML files.

A file gives any of the fields; what it does not give has its initial value, and whatever else it
holds is passed over. Saving writes a temporary file beside the target first, which is then moved
over it, so that the target is never seen half written.
-/
import GraphGateway.Config.Basic
import GraphGateway.Files.Tree
import GraphGateway.Toml.Document

namespace GraphGateway.Config

/-! ## The text -/

/-- Why a text is no configuration. -/
inductive FileFault where
  | notToml
  | wrongType (field expected : String)
deriving DecidableEq, Repr

def FileFault.message : FileFault → String
  | .notToml => "not a TOML document"
  | .wrongType field expected => s!"`{field}` is not {expected}"

/-- The string that a field is set to, if it is set. -/
def stringField (entries : Toml.Entries) (name : String) : Except FileFault (Option String) :=
  match entries.lookup name with
  | none => .ok none
  | some (.string s) => .ok (some s)
  | some _ => .error (.wrongType name "a string")

/-- The truth value that a field is set to, if it is set. -/
def flagField (entries : Toml.Entries) (name : String) : Except FileFault (Option Bool) :=
  match entries.lookup name with
  | none => .ok none
  | some (.flag b) => .ok (some b)
  | some _ => .error (.wrongType name "a boolean")

/-- What a table gives of a configuration. -/
def ofEntries (entries : Toml.Entries) : Except FileFault Given := do
  let dbPath ← stringField entries "db_path"
  let readOnly ← flagField entries "read_only"
  let seedFile ← stringField entries "seed_file"
  let logLevel ← stringField entries "log_level"
  .ok ⟨dbPath, readOnly, seedFile, logLevel⟩

/-- The configuration that a text gives; fields that are left out are those of `c`. -/
def ofText (c : Config) (text : String) : Except FileFault Config :=
  match Toml.ofText? text with
  | none => .error .notToml
  | some entries => (ofEntries entries).map (·.over c)

/-- A line that sets a field to a string. -/
def stringLine (name value : String) : List Char :=
  name.toList ++ [' ', '=', ' '] ++ Toml.Quoted.write value.toList ++ ['\n']

/-- A line that sets a field to a truth value. -/
def flagLine (name : String) (value : Bool) : List Char :=
  name.toList ++ [' ', '=', ' '] ++
    (if value then ['t', 'r', 'u', 'e'] else ['f', 'a', 'l', 's', 'e']) ++ ['\n']

/-- The lines that set the fields that are given. -/
def Given.lines (g : Given) : List Char :=
  g.dbPath.elim [] (stringLine "db_path") ++ g.readOnly.elim [] (flagLine "read_only") ++
    g.seedFile.elim [] (stringLine "seed_file") ++ g.logLevel.elim [] (stringLine "log_level")

/-- The text of a configuration. There is none if one of the paths is no text. -/
def text? (c : Config) : Option String := c.given?.map fun g => String.ofList g.lines

/-! ## The file -/

/-- The configuration in a file; fields that are left out are those of `c`. -/
def load (c : Config) (t : Files.Tree) (path : Files.Path) : Except Failure Config :=
  match t.readText path with
  | .error error =>
    .error (.config s!"failed to read config file '{path.display}': {error.message}")
  | .ok text =>
    match ofText c text with
    | .error fault =>
      .error (.config s!"failed to parse config file '{path.display}': {fault.message}")
    | .ok c => .ok c

/-- The extension of temporary files. -/
def temporaryExtension : Files.Name := Text.Utf8.encode "tmp"

/-- Makes the directory that a file is going to be in. -/
def prepareDirectory (t : Files.Tree) (path : Files.Path) : Except Failure Unit × Files.Tree :=
  match path.parent? with
  | none => (.ok (), t)
  | some parent =>
    let (made, t) := t.createDirectories parent
    (made.mapError fun error =>
      .config s!"failed to create config directory '{parent.display}': {error.message}", t)

/-- Writes a text to a file by way of a temporary one. -/
def replaceFile (t : Files.Tree) (path : Files.Path) (text : String) :
    Except Failure Unit × Files.Tree :=
  let temporary := path.withExtension temporaryExtension
  match t.writeBytes temporary (Text.Utf8.encode text) with
  | .error error =>
    (.error (.config
      s!"failed to write temporary config file '{temporary.display}': {error.message}"), t)
  | .ok t =>
    match t.renameFile temporary path with
    | .error error =>
      (.error (.config (s!"failed to rename temporary config file '{temporary.display}' to " ++
        s!"'{path.display}': {error.message}")), t)
    | .ok t => (.ok (), t)

/-- Saves a configuration to a file. -/
def save (c : Config) (t : Files.Tree) (path : Files.Path) : Except Failure Unit × Files.Tree :=
  match prepareDirectory t path with
  | (.error f, t) => (.error f, t)
  | (.ok (), t) =>
    match c.text? with
    | none =>
      (.error (.config "failed to serialize config: path contains invalid UTF-8 characters"), t)
    | some text => replaceFile t path text

end GraphGateway.Config
