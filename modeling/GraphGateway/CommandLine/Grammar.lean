/-
Command lines: options, at most one command, and what belongs to it.

Arguments are read one after the other, each in the light of those before it, so what is refused
first is refused whatever follows, and the same holds of a request for help or for the version.
Options may stand in front of the command and behind it; one that is given at both places counts as
given behind, one that is given twice at one place is refused. Two hyphens end the options.

An option whose value stands in an argument of its own is not looked at when that value is read, but
when the next option, the statement of a query or the end comes. If a command comes first, all that
stands behind the command is looked at before that option, so help on the command is still given.

Arguments are bytes. A path may be any bytes, though not none; the names of options and commands, the
level of log messages and the statement of a query are text.
-/
import GraphGateway.Files.Path

namespace GraphGateway.CommandLine

/-! ## Arguments -/

/-- An argument of a command line. -/
abbrev Arg := List UInt8

def hyphen : UInt8 := 0x2D

def equals : UInt8 := 0x3D

namespace Arg

/-- The text that an argument is, if it is text. -/
def text? (arg : Arg) : Option String := (Text.Utf8.decode arg).toOption

/-- The path that an argument is, unless it is empty. -/
def path? (arg : Arg) : Option Files.Path := if arg = [] then none else some ⟨arg⟩

/-- Whether an argument has the looks of an option. -/
def isOptionLike (arg : Arg) : Bool := arg.head? == some hyphen && arg != [hyphen]

end Arg

/-! ## What a command line asks for -/

/-- The names of commands. -/
inductive Verb where
  | serve
  | schema
  | health
  | query
deriving DecidableEq, Repr

namespace Verb

def all : List Verb := [.serve, .schema, .health, .query]

def name : Verb → String
  | .serve => "serve"
  | .schema => "schema"
  | .health => "health"
  | .query => "query"

/-- The command of a name. -/
def ofName? (name : String) : Option Verb := all.find? (·.name == name)

end Verb

inductive Command where
  | serve
  | schema
  | health
  | query (statement : String)
deriving DecidableEq, Repr

/-- What help is asked for. -/
inductive Topic where
  | program
  | verb (verb : Verb)
  | help
deriving DecidableEq, Repr

/-- The options that take a value. -/
inductive Setting where
  | config
  | dbPath
  | seedFile
  | logLevel
deriving DecidableEq, Repr

/-- The values of options. -/
structure Options where
  config : Option Files.Path := none
  dbPath : Option Files.Path := none
  readOnly : Bool := false
  seedFile : Option Files.Path := none
  logLevel : Option String := none
deriving DecidableEq, Repr

/-- What a command line asks for. -/
inductive Reply where
  | help (topic : Topic)
  | version
  /-- The command line is refused. -/
  | usage
  | run (options : Options) (command : Command)
deriving DecidableEq, Repr

namespace Setting

def all : List Setting := [.config, .dbPath, .seedFile, .logLevel]

def name : Setting → String
  | .config => "config"
  | .dbPath => "db-path"
  | .seedFile => "seed-file"
  | .logLevel => "log-level"

/-- The option of a name. -/
def ofName? (name : String) : Option Setting := all.find? (·.name == name)

end Setting

namespace Options

/-- Whether an option has been given a value. -/
def has (o : Options) : Setting → Bool
  | .config => o.config.isSome
  | .dbPath => o.dbPath.isSome
  | .seedFile => o.seedFile.isSome
  | .logLevel => o.logLevel.isSome

/-- Gives an option a value, whatever it had, if it takes this one. -/
def put? (o : Options) (value : Arg) : Setting → Option Options
  | .config => value.path?.map ({ o with config := some · })
  | .dbPath => value.path?.map ({ o with dbPath := some · })
  | .seedFile => value.path?.map ({ o with seedFile := some · })
  | .logLevel => value.text?.map ({ o with logLevel := some · })

/-- Gives an option its value, unless it has one or does not take this one. -/
def set? (o : Options) (s : Setting) (value : Arg) : Option Options :=
  if o.has s then none else o.put? value s

/-- Options together with others that go before them. -/
def orElse (inner outer : Options) : Options where
  config := inner.config.or outer.config
  dbPath := inner.dbPath.or outer.dbPath
  readOnly := inner.readOnly || outer.readOnly
  seedFile := inner.seedFile.or outer.seedFile
  logLevel := inner.logLevel.or outer.logLevel

end Options

/-! ## Reading -/

/-- Where the reading of a command line stands. -/
inductive Place where
  /-- No command has been named. -/
  | front
  /-- Help has been asked for by a word, and maybe a topic named. -/
  | helping (topic : Option Topic)
  /-- Behind a command, and the statement of a query if there was one. -/
  | behind (verb : Verb) (statement : Option String)
deriving DecidableEq, Repr

structure State where
  place : Place := .front
  /-- The options at the place where the reading stands. -/
  options : Options := {}
  /-- The options in front of the command, or nothing if the last of them is refused. -/
  before : Option Options := some {}
  /-- The option that waits for its value, or with its value for being looked at. -/
  pending : Option (Setting × Option Arg) := none
  /-- Whether options have ended. -/
  ended : Bool := false
deriving DecidableEq, Repr

/-- A step of reading: where it leads, or what is asked for whatever follows. -/
abbrev Step := Except Reply State

namespace State

/-- What help is about at the place where the reading stands. -/
def topic (s : State) : Topic :=
  match s.place with
  | .behind verb _ => .verb verb
  | _ => .program

/-- Gives an option its value. -/
def assign (s : State) (setting : Setting) (value : Arg) : Step :=
  match s.options.set? setting value with
  | some options => .ok { s with options := options, pending := none }
  | none => .error .usage

/-- Looks at the option that waits. -/
def settle (s : State) : Step :=
  match s.pending with
  | none => .ok s
  | some (_, none) => .error .usage
  | some (setting, some value) => s.assign setting value

/-- Turns on reading only. -/
def assignReadOnly (s : State) : Step :=
  if s.options.readOnly then .error .usage
  else .ok { s with options := { s.options with readOnly := true } }

/-- Reads an option of several letters, and its value if there is one behind an equals sign. -/
def readLong (s : State) (name : String) (value : Option Arg) : Step :=
  match Setting.ofName? name, value with
  | some setting, some value => s.assign setting value
  | some setting, none => .ok { s with pending := some (setting, none) }
  | none, some _ => .error .usage
  | none, none =>
    if name = "read-only" then s.assignReadOnly
    else if name = "help" then .error (.help s.topic)
    else if name = "version" ∧ s.place = .front then .error .version
    else .error .usage

/-- Reads an option of one letter, and its value if it follows at once. -/
def readShort (s : State) (letter : UInt8) (value : Arg) : Step :=
  if letter = 'c'.toUInt8 then
    match value with
    | [] => .ok { s with pending := some (.config, none) }
    | first :: rest => s.assign .config (if first = equals then rest else value)
  else if letter = 'h'.toUInt8 then .error (.help s.topic)
  else if letter = 'V'.toUInt8 ∧ s.place = .front then .error .version
  else .error .usage

/-- Reads a word that is no option. -/
def readWord (s : State) (word : String) : Step :=
  match s.place with
  | .front =>
    if s.ended then .error .usage
    else if word = "help" then .ok { s with place := .helping none }
    else
      match Verb.ofName? word with
      | some verb =>
        .ok { s with
          place := .behind verb none
          options := {}
          before := s.settle.toOption.map options
          pending := none }
      | none => .error .usage
  | .helping none =>
    if word = "help" then .ok { s with place := .helping (some .help) }
    else
      match Verb.ofName? word with
      | some verb => .ok { s with place := .helping (some (.verb verb)) }
      | none => .error .usage
  | .behind .query none => s.settle.map ({ · with place := .behind .query (some word) })
  | .helping (some _) | .behind .. => .error .usage

/-- Reads an argument that is no option. Nowhere may it be other than text. -/
def readPlain (s : State) (arg : Arg) : Step := arg.text?.elim (.error .usage) s.readWord

/-- Reads an argument that has the looks of an option. -/
def readOption (s : State) (arg : Arg) : Step :=
  match arg with
  | _ :: letter :: rest =>
    if letter = hyphen then
      let name : Arg := rest.takeWhile (· ≠ equals)
      let value := (rest.dropWhile (· ≠ equals)).tail?
      name.text?.elim (.error .usage) (s.readLong · value)
    else s.readShort letter rest
  | _ => .error .usage

/-- Reads an argument. -/
def step (s : State) (arg : Arg) : Step :=
  match s.pending, s.place with
  | some (setting, none), _ =>
    if arg.isOptionLike then .error .usage
    else .ok { s with pending := some (setting, some arg) }
  | _, .helping _ => s.readPlain arg
  | _, _ =>
    if s.ended || !arg.isOptionLike then s.readPlain arg
    else if arg = [hyphen, hyphen] then .ok { s with ended := true }
    else s.settle.bind (readOption · arg)

/-- What is asked for when the arguments end. -/
def finish (s : State) : Reply :=
  match s.place, s.settle, s.before with
  | .helping topic, _, _ => .help (topic.getD .program)
  | _, .error reply, _ => reply
  | _, _, none => .usage
  | .front, .ok s, some _ => .run s.options .serve
  | .behind verb statement, .ok s, some before =>
    let options := s.options.orElse before
    match verb, statement with
    | .serve, _ => .run options .serve
    | .schema, _ => .run options .schema
    | .health, _ => .run options .health
    | .query, some statement => .run options (.query statement)
    | .query, none => .usage

end State

/-- What a command line asks for. -/
def read (args : List Arg) : Reply :=
  match args.foldlM State.step {} with
  | .ok s => s.finish
  | .error reply => reply

example :
    read (["--db-path", "x", "schema", "--db-path=y"].map Text.Utf8.encode) =
      .run { dbPath := some ⟨[0x79]⟩ } .schema ∧
    read (["query", "--", "--read-only"].map Text.Utf8.encode) = .run {} (.query "--read-only") ∧
    read (["--help", "--bogus"].map Text.Utf8.encode) = .help .program := by decide +kernel

/-- A path that is empty is refused, but not before the command in front of which it stands. -/
example :
    read (["-c", "", "schema", "-h"].map Text.Utf8.encode) = .help (.verb .schema) ∧
    read (["-c", "", "schema"].map Text.Utf8.encode) = .usage ∧
    read (["-c=", "schema", "-h"].map Text.Utf8.encode) = .usage ∧
    read (["schema", "-c", "", "-h"].map Text.Utf8.encode) = .usage := by decide +kernel

/-- A path need not be text. -/
example : read [[hyphen, 'c'.toUInt8, 0xFF]] = .run { config := some ⟨[0xFF]⟩ } .serve ∧
    read [[0xFF]] = .usage := by decide +kernel

end GraphGateway.CommandLine
