/-
The program as it is run.

The part of the file system that a command line is about is looked at first, the run is worked out
on what was found, and the directories that it makes are then made. No engine is built in: whatever
needs a database is told that it cannot be opened, and nothing is read from standard input.
-/
import GraphGateway.CommandLine.Program
import GraphGateway.Native.Database
import Std.Time.DateTime.Timestamp

namespace GraphGateway.Shell

/-- What stands in for an engine. -/
def noEngine : Native.World :=
  .ofTable (some "no graph engine is built into this program") none []

/-! ## Files -/

/-- The text of the path to a location. -/
def pathOf (l : Files.Location) : Option String :=
  Files.Path.text? ⟨l.flatMap (Files.slash :: ·)⟩

/-- What stands at a location. -/
def nodeAt (l : Files.Location) : IO (Option Files.Node) := do
  match pathOf l with
  | none => pure none
  | some name =>
    let place := (← IO.currentDir) / name
    if ← place.isDir then pure (some .directory)
    else
      try
        let content ← IO.FS.readBinFile place
        pure (some (.file content.toList))
      catch _ => pure none

/-- The locations on the way that a path leads. -/
def wayOf (t : Files.Tree) (path : Files.Path) : List Files.Location :=
  (path.segments.foldl (fun (here, way) segment =>
    if Files.Path.isIdle segment then (here, way)
    else if segment = [Files.dot, Files.dot] then (here.dropLast, way)
    else (here ++ [segment], way ++ [here ++ [segment]])) (t.start path, [])).2

/-- A tree with what stands on the way of a path. -/
def look (t : Files.Tree) (path : Files.Path) : IO Files.Tree :=
  (wayOf t path).foldlM (fun t l => do
    match ← nodeAt l with
    | none => pure t
    | some node => pure (t.put l node)) t

/-- The working directory and the directories above it. -/
def workingTree : IO Files.Tree := do
  let bytes := Text.Utf8.encode (← IO.currentDir).toString
  let here := (Files.Path.cut bytes).filter (· ≠ [])
  let above := (List.range here.length).map fun n => here.take (n + 1)
  pure ⟨here, above.map (·, .directory)⟩

/-- Makes the directories that are in one tree and not in another. -/
def makeDirectories (before after : Files.Tree) : IO Unit :=
  (after.nodes.map Prod.fst).forM fun l => do
    if after.isDirectoryAt l && !before.isDirectoryAt l then
      match pathOf l with
      | some name => IO.FS.createDirAll name
      | none => pure ()

/-! ## Surroundings -/

/-- The variables that the program looks at. -/
def environment : IO Environment := do
  let names := [Config.dbPathVariable, Config.readOnlyVariable, Config.seedFileVariable,
    CommandLine.filterVariable]
  let found ← names.mapM fun name => do
    pure ((← IO.getEnv name).map fun value => (name, Text.Utf8.encode value))
  pure (found.filterMap id)

/-- The directory for data of programs: the one that the environment names, or one below home. -/
def dataDirectory : IO (Option Files.Path) := do
  let named := (← IO.getEnv "XDG_DATA_HOME").map Files.Path.ofString
  let home := (← IO.getEnv "HOME").map Files.Path.ofString
  pure ((named.filter Files.Path.isAbsolute).or
    (home.map fun home => (home.child ".local").child "share"))

def currentTime : IO Calendar.Moment := do
  let nanos := (← Std.Time.Timestamp.now).toNanosecondsSinceUnixEpoch.val
  pure ⟨nanos.fdiv 1000000000, (nanos.fmod 1000000000).toNat⟩

/-- The paths that a run with some options is about, as far as they are known so far. -/
def pathsOf (options : CommandLine.Options) (s : CommandLine.Surroundings) : List Files.Path :=
  match options.resolve s with
  | .error _ => []
  | .ok c => [c.dbPath] ++ c.seedFile.toList

/-- What the program finds for a command line. -/
def surroundings (args : List CommandLine.Arg) : IO CommandLine.Surroundings := do
  let now ← currentTime
  let s : CommandLine.Surroundings := {
    environment := ← environment
    tree := ← workingTree
    dataDirectory := ← dataDirectory
    input := []
    opener := noEngine.opener
    clock := fun _ => now }
  match CommandLine.read args with
  | .run options _ =>
    let tree ← options.config.toList.foldlM look s.tree
    let s := { s with tree := tree }
    let tree ← (pathsOf options s).foldlM look s.tree
    pure { s with tree := tree }
  | _ => pure s

end GraphGateway.Shell

/-- Runs a command line and prints what comes of it. -/
def main (args : List String) : IO UInt32 := do
  let args := args.map GraphGateway.Text.Utf8.encode
  let s ← GraphGateway.Shell.surroundings args
  let outcome := GraphGateway.CommandLine.run args s
  GraphGateway.Shell.makeDirectories s.tree outcome.tree
  let stdout ← IO.getStdout
  stdout.write (ByteArray.mk outcome.output.toArray)
  stdout.flush
  for level in outcome.levels do
    IO.eprintln level.name
  IO.eprint outcome.complaint
  pure (UInt32.ofNat outcome.code)
