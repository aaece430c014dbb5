/-
The program: a command line, its surroundings, and what comes of running it.

The configuration is put together first; if that fails, nothing else is done. Then the database is
opened and seeded, and only on the service that this gives is the command run. What goes wrong is
told in one line behind the log messages.
-/
import GraphGateway.CommandLine.Help
import GraphGateway.CommandLine.LogFilter
import GraphGateway.Config.File
import GraphGateway.Protocol.Stream
import GraphGateway.Startup.Machine

namespace GraphGateway.CommandLine

/-- What the program finds when it is run. -/
structure Surroundings where
  environment : Environment
  tree : Files.Tree
  /-- The directory for data of programs, if there is one. -/
  dataDirectory : Option Files.Path
  input : List UInt8
  opener : Opener
  /-- What time it is when each line of the input is handled; a command has the first of these. -/
  clock : Protocol.Clock

/-- What the program leaves. -/
structure Outcome where
  code : Nat
  output : List UInt8
  /-- What is told of a failure, behind the log messages. -/
  complaint : String
  /-- Which log messages were shown. -/
  filter : LogFilter
  journal : Journal
  tree : Files.Tree

/-- The levels of the log messages that were shown. -/
def Outcome.levels (o : Outcome) : List Level :=
  (o.journal.notices.filter o.filter.passes).map Notice.level

/-! ## Configuration -/

/-- The variable that holds a filter for log messages. -/
def filterVariable : String := "RUST_LOG"

/-- A configuration with what is given on the command line. -/
def Options.applyTo (o : Options) (c : Config) : Config where
  dbPath := o.dbPath.getD c.dbPath
  readOnly := o.readOnly || c.readOnly
  seedFile := o.seedFile.or c.seedFile
  logLevel := o.logLevel.getD c.logLevel

/-- The configuration in the layers of a file, the environment and the command line. -/
def Options.resolve (o : Options) (s : Surroundings) : Except Failure Config := do
  let initial := Config.initial s.dataDirectory
  let c ← match o.config with
    | some path => Config.load initial s.tree path
    | none => .ok initial
  let (result, c) := c.override s.environment
  result
  .ok (o.applyTo c)

/-! ## Commands -/

/-- What a command prints, whether it reports that something is unhealthy, and why it failed, if it
did. -/
structure Printed where
  output : List UInt8
  unhealthy : Bool := false
  failure : Option Failure := none

namespace Printed

/-- A text and the end of its line. -/
def line (text : String) (unhealthy : Bool) : Printed :=
  ⟨Text.Utf8.encode text ++ [Protocol.newline], unhealthy, none⟩

/-- A text, or the failure that there is instead. -/
def ofResult : Except Failure String → Printed
  | .ok text => line text false
  | .error f => ⟨[], false, some f⟩

end Printed

/-- Runs a command on a service. A server whose catalogs are not in order serves nothing. -/
def Command.run (service : Service) (clock : Protocol.Clock) (input : List UInt8) :
    Command → Session Printed
  | .serve =>
    match Protocol.Server.checkCatalogs with
    | .error f => pure ⟨[], false, some f⟩
    | .ok () => do
      let (delivery, _) ← (Protocol.Server.serve service clock { bytes := input } none).run {}
      pure ⟨delivery.written, false, delivery.failure⟩
  | .schema => do
    let schema ← service.schema.run
    pure (.ofResult (schema.map Catalog.Schema.text))
  | .health => do
    let health ← service.health (clock 0)
    pure (.line health.text (health.status == .unhealthy))
  | .query statement => do
    let rows ← (service.query statement).run
    pure (.ofResult (rows.map rowsText))

/-- The catalogs are in order, so what is printed is what the server writes. -/
theorem Command.run_serve (service : Service) (clock : Protocol.Clock) (input : List UInt8) :
    Command.serve.run service clock input = (do
      let (delivery, _) ← (Protocol.Server.serve service clock { bytes := input } none).run {}
      pure ⟨delivery.written, false, delivery.failure⟩) := by
  simp only [run, Protocol.Server.checkCatalogs_eq_ok]

/-! ## The program -/

/-- What is told of a failure. -/
def complaintOf (f : Failure) : String := s!"Error: {f.message}\n"

/-- A run that ends before anything is done. -/
def Outcome.early (s : Surroundings) (code : Nat) (output complaint : String) : Outcome :=
  ⟨code, Text.Utf8.encode output, complaint, [], [], s.tree⟩

/-- Starts up and runs a command. -/
def launch (s : Surroundings) (c : Config) (command : Command) :
    Session (Printed × Files.Tree) := do
  match ← Startup.start s.opener c s.tree with
  | (.error problem, tree) => pure (⟨[], false, some problem.toFailure⟩, tree)
  | (.ok service, tree) =>
    let printed ← command.run service s.clock s.input
    pure (printed, tree)

/-- What a command line is told that is refused. -/
def usageText : String :=
  "Usage: " ++ programName ++ " [OPTIONS] [COMMAND]\n\nFor more information, try '--help'.\n"

/-- Runs the program. -/
def run (args : List Arg) (s : Surroundings) : Outcome :=
  match read args with
  | .help topic => .early s 0 (helpText topic) ""
  | .version => .early s 0 versionText ""
  | .usage => .early s 2 "" usageText
  | .run options command =>
    match options.resolve s with
    | .error f => .early s 1 "" (complaintOf f)
    | .ok c =>
      let ((printed, tree), journal) := (launch s c command).run []
      { code := if printed.failure.isSome || printed.unhealthy then 1 else 0
        output := printed.output
        complaint := (printed.failure.map complaintOf).getD ""
        filter := .choose (s.environment.text? filterVariable) c.logLevel
        journal := journal
        tree := tree }

end GraphGateway.CommandLine
