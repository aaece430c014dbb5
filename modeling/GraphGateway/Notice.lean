/-
The log messages of the program.

What a message is about fixes how severe it is, which part of the program it comes from and which
fields it carries. Nothing else of it is ever looked at, so neither its text nor the values of its
fields are kept.
-/
namespace GraphGateway

/-- How severe a log message is, the most severe first. -/
inductive Level where
  | error
  | warn
  | info
  | debug
  | trace
deriving DecidableEq, Repr

namespace Level

def severity : Level → Nat
  | .error => 1
  | .warn => 2
  | .info => 3
  | .debug => 4
  | .trace => 5

def name : Level → String
  | .error => "ERROR"
  | .warn => "WARN"
  | .info => "INFO"
  | .debug => "DEBUG"
  | .trace => "TRACE"

end Level

/-- What a log message is about. -/
inductive Notice where
  /-- A statement is given to the engine. -/
  | statementSubmitted
  /-- A statement is going to be run to its end. -/
  | statementStarted
  | statementFailed
  | statementDone
  | databaseOpened
  | healthConfirmed
  | healthFailed
  /-- The table listing has a row without a name. -/
  | rowWithoutName
  /-- The table listing has an entry that is no table. -/
  | entryIgnored
  /-- The description of a table cannot be read. -/
  | tableSkipped
  | schemaRead
  /-- Startup has come to its next stage. -/
  | stageChanged
  | seedingStarted
  /-- The seeding step has been taken. -/
  | seedingDone
  | promptRendered
  | toolCalled
  | toolFailed
  | serverReady
  /-- The input of the server has ended. -/
  | serverClosed
  /-- A line of input is no request. -/
  | lineRejected
  | requestReceived
  | notificationReceived
  /-- A request is answered with an error. -/
  | requestFailed
deriving DecidableEq, Repr

namespace Notice

def level : Notice → Level
  | .statementFailed => .error
  | .healthFailed | .rowWithoutName | .tableSkipped | .toolFailed => .warn
  | .databaseOpened | .stageChanged | .seedingStarted | .serverReady | .serverClosed => .info
  | .statementStarted | .statementDone | .healthConfirmed | .entryIgnored | .schemaRead
  | .seedingDone | .promptRendered | .toolCalled | .lineRejected | .requestReceived
  | .notificationReceived | .requestFailed => .debug
  | .statementSubmitted => .trace

/-- The name of the whole program among its parts. -/
def program : String := "kuzu_mcp"

/-- The part of the program that a message comes from: names from the outside to the inside. -/
def origin : Notice → String
  | .statementSubmitted => program ++ "::db::engine"
  | .statementStarted | .statementFailed | .statementDone => program ++ "::db::executor"
  | .databaseOpened => program ++ "::db::kuzu"
  | .healthConfirmed | .healthFailed => program ++ "::graph::health"
  | .rowWithoutName | .entryIgnored | .tableSkipped | .schemaRead => program ++ "::graph::schema"
  | .stageChanged | .seedingStarted | .seedingDone => program ++ "::bootstrap"
  | .promptRendered => program ++ "::mcp::prompts"
  | .toolCalled | .toolFailed => program ++ "::mcp::tools"
  | .serverReady | .serverClosed | .lineRejected | .requestReceived | .notificationReceived
  | .requestFailed => program ++ "::mcp::server"

/-- The fields of a message besides its text. -/
def fields : Notice → List String
  | .statementSubmitted | .statementStarted => ["statement"]
  | .statementFailed => ["statement", "error"]
  | .statementDone => ["rows"]
  | .databaseOpened => ["path", "read_only"]
  | .healthConfirmed => ["tables"]
  | .healthFailed | .requestFailed => ["error"]
  | .rowWithoutName | .serverReady | .lineRejected => []
  | .entryIgnored => ["table", "kind"]
  | .tableSkipped => ["table", "kind", "error"]
  | .schemaRead => ["entity_tables", "relationship_tables"]
  | .stageChanged => ["from", "to"]
  | .seedingStarted => ["path", "statements"]
  | .seedingDone => ["outcome"]
  | .promptRendered => ["prompt"]
  | .toolCalled => ["tool"]
  | .toolFailed => ["tool", "error"]
  | .serverClosed => ["stats"]
  | .requestReceived => ["method", "id"]
  | .notificationReceived => ["method"]

/-- Whether a message has a field of a name. The text is a field that every message has. -/
def carries (n : Notice) (field : String) : Bool := field == "message" || n.fields.contains field

end Notice

end GraphGateway
