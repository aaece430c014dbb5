/-
Startup: open the database, seed it if it is empty, hand out a service.

The three steps are taken in this order, each at its own stage, and a step at another stage is
refused without doing anything. A service is held from the moment the database is open. A step that
fails leaves the stage as it was. A database that is opened for reading only is not touched: no
directory is made for it and no statement is executed.
-/
import GraphGateway.Config.Basic
import GraphGateway.Files.Tree
import GraphGateway.Service
import GraphGateway.Startup.Script

namespace GraphGateway

/-- How a database is opened, given its path and whether it is opened for reading only. -/
abbrev Opener := Files.Path → Bool → Except String Engine

/-- Opens a database. The journal records the attempt, and success is logged. -/
def Opener.connect (opener : Opener) (path : Files.Path) (readOnly : Bool) :
    Session (Except String Engine) := do
  Session.record (.opening path readOnly)
  let opened := opener path readOnly
  if opened.toBool then Session.log .databaseOpened
  pure opened

namespace Startup

/-! ## Stages -/

inductive Stage where
  | uninitialized
  | seeding
  | ready
deriving DecidableEq, Repr

def Stage.name : Stage → String
  | .uninitialized => "uninitialized"
  | .seeding => "seeding"
  | .ready => "ready"

/-- How far startup has come, with the service as soon as there is one. -/
inductive Progress where
  | uninitialized
  | seeding (service : Service)
  | ready (service : Service)

namespace Progress

def stage : Progress → Stage
  | .uninitialized => .uninitialized
  | .seeding _ => .seeding
  | .ready _ => .ready

def service? : Progress → Option Service
  | .uninitialized => none
  | .seeding service | .ready service => some service

end Progress

/-- A startup that has not been finished. -/
structure Machine where
  config : Config
  progress : Progress := .uninitialized

/-- What the seeding step did. -/
inductive Outcome where
  | readOnly
  /-- The catalog lists something already. -/
  | notEmpty
  | noScript
  /-- The script has run; so many statements. -/
  | seeded (statements : Nat)
deriving DecidableEq, Repr

/-! ## Problems -/

inductive Step where
  | connect
  | seed
  | finish
deriving DecidableEq, Repr

namespace Step

def name : Step → String
  | .connect => "open"
  | .seed => "seed"
  | .finish => "finish"

/-- The stage at which a step is taken. -/
def stage : Step → Stage
  | .connect => .uninitialized
  | .seed => .seeding
  | .finish => .ready

end Step

/-- Why a step of startup fails. -/
inductive Problem where
  | outOfOrder (step : Step) (stage : Stage)
  /-- The directory of the database cannot be made. -/
  | directory (path : Files.Path) (error : Files.IoError)
  | database (path : Files.Path) (message : String)
  /-- The tables cannot be listed. -/
  | catalog (failure : Failure)
  | script (path : Files.Path) (error : Files.IoError)
  /-- A statement of the script fails, the first one being number 1. -/
  | statement (number : Nat) (failure : Failure)
deriving DecidableEq, Repr

namespace Problem

def message : Problem → String
  | .outOfOrder step stage =>
    s!"cannot {step.name} while {stage.name} (expected {step.stage.name})"
  | .directory path error =>
    s!"failed to create database directory '{path.display}': {error.message}"
  | .database path message => s!"failed to open database '{path.display}': {message}"
  | .catalog failure => s!"failed to inspect catalog: {failure.message}"
  | .script path error => s!"failed to read seed script '{path.display}': {error.message}"
  | .statement number failure => s!"seed statement {number} failed: {failure.message}"

/-- A problem as a failure to serve. -/
def toFailure (p : Problem) : Failure := .startup p.message

end Problem

/-! ## Steps -/

namespace Machine

def stage (m : Machine) : Stage := m.progress.stage

/-- Moves on, which is logged. -/
def advance (m : Machine) (progress : Progress) : Session Machine := do
  Session.log .stageChanged
  pure { m with progress := progress }

/-- Makes the directory that a database is going to be in, unless the database is opened for reading
only. -/
def prepare (c : Config) (t : Files.Tree) : Except Problem Unit × Files.Tree :=
  if c.readOnly then (.ok (), t)
  else
    match c.dbPath.parent? with
    | none => (.ok (), t)
    | some parent =>
      if parent.isEmpty then (.ok (), t)
      else
        let (made, t) := t.createDirectories parent
        (made.mapError (.directory parent), t)

/-- Opens the database. -/
def openDatabase (opener : Opener) (m : Machine) (t : Files.Tree) :
    Session (Except Problem Unit × Machine × Files.Tree) := do
  match m.progress with
  | .uninitialized =>
    match prepare m.config t with
    | (.error problem, t) => pure (.error problem, m, t)
    | (.ok (), t) =>
      match ← opener.connect m.config.dbPath m.config.readOnly with
      | .error message => pure (.error (.database m.config.dbPath message), m, t)
      | .ok engine =>
        let m ← m.advance (.seeding ⟨engine, m.config.dbPath, m.config.readOnly⟩)
        pure (.ok (), m, t)
  | _ => pure (.error (.outOfOrder .connect m.stage), m, t)

/-- Runs statements in order up to the first that fails; `number` is that of the first. -/
def runStatements (service : Service) : Nat → List String → Session (Except Problem Unit)
  | _, [] => pure (.ok ())
  | number, statement :: statements => do
    match ← (service.query statement).run with
    | .error failure => pure (.error (.statement number failure))
    | .ok _ => runStatements service (number + 1) statements

/-- Runs a script. -/
def runScript (service : Service) (path : Files.Path) (t : Files.Tree) :
    Session (Except Problem Outcome) := do
  match t.readText path with
  | .error error => pure (.error (.script path error))
  | .ok script =>
    let statements := Script.split script
    Session.log .seedingStarted
    let ran ← runStatements service 1 statements
    pure (ran.map fun () => .seeded statements.length)

/-- Seeds a database if it is empty and there is a script. -/
def seedDatabase (c : Config) (service : Service) (t : Files.Tree) :
    Session (Except Problem Outcome) := do
  if c.readOnly then pure (.ok .readOnly)
  else
    match ← (service.query Catalog.showTables).run with
    | .error failure => pure (.error (.catalog failure))
    | .ok (_ :: _) => pure (.ok .notEmpty)
    | .ok [] =>
      match c.seedFile with
      | none => pure (.ok .noScript)
      | some path => runScript service path t

/-- Takes the seeding step. -/
def seed (m : Machine) (t : Files.Tree) : Session (Except Problem Outcome × Machine) := do
  match m.progress with
  | .seeding service =>
    match ← seedDatabase m.config service t with
    | .error problem => pure (.error problem, m)
    | .ok outcome =>
      Session.log .seedingDone
      let m ← m.advance (.ready service)
      pure (.ok outcome, m)
  | _ => pure (.error (.outOfOrder .seed m.stage), m)

/-- Hands out the service. The startup is over, whatever comes of it. -/
def finish (m : Machine) : Except Problem Service :=
  match m.progress with
  | .ready service => .ok service
  | _ => .error (.outOfOrder .finish m.stage)

end Machine

/-- Takes all three steps. -/
def start (opener : Opener) (c : Config) (t : Files.Tree) :
    Session (Except Problem Service × Files.Tree) := do
  match ← Machine.openDatabase opener ⟨c, .uninitialized⟩ t with
  | (.error problem, _, t) => pure (.error problem, t)
  | (.ok (), m, t) =>
    match ← m.seed t with
    | (.error problem, _) => pure (.error problem, t)
    | (.ok _, m) => pure (m.finish, t)

end Startup

end GraphGateway
