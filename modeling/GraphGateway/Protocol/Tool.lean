/-
Tools: operations that clients call by name.

A call that names no tool, or whose arguments are no object, is a failure of the transport. Once the
tool is known, whatever goes wrong is told in the result.
-/
import GraphGateway.Protocol.Prompt

namespace GraphGateway.Protocol

open Json (Codec)

/-! ## What clients see -/

/-- A tool as it is listed. -/
structure ToolDefinition where
  name : String
  description : String
  /-- The JSON Schema of its arguments. -/
  inputSchema : Json
deriving DecidableEq, Repr

/-- What a tool gives, which may be an error. -/
structure ToolResult where
  content : List Content
  isError : Bool
deriving DecidableEq, Repr

namespace ToolResult

/-- A result of one text. -/
def success (text : String) : ToolResult := ⟨[.plain text], false⟩

/-- An error of one text. -/
def failure (text : String) : ToolResult := ⟨[.plain text], true⟩

/-- The result that tells how an operation went. -/
def ofOutcome : Except Failure String → ToolResult
  | .ok text => success text
  | .error f => failure f.message

end ToolResult

def ToolDefinition.codec : Codec ToolDefinition :=
  .record "ToolDefinition"
    (.cons { name := "name", codec := .text }
      (.cons { name := "description", codec := .text }
        (.cons { name := "inputSchema", codec := .any } .nil)))
    (fun (name, description, inputSchema, ()) => ⟨name, description, inputSchema⟩)
    (fun d => (d.name, d.description, d.inputSchema, ()))

def ToolContent.codec : Codec Content :=
  .record "ToolContent" contentFields (fun (type, text, ()) => ⟨type, text⟩)
    (fun c => (c.type, c.text, ()))

def ToolResult.codec : Codec ToolResult :=
  .record "ToolResult"
    (.cons { name := "content", codec := .list ToolContent.codec }
      (.cons { name := "isError", codec := .flag } .nil))
    (fun (content, isError, ()) => ⟨content, isError⟩)
    (fun r => (r.content, r.isError, ()))

/-! ## The tools -/

inductive Tool where
  | graphQuery
  | getSchema
  | healthCheck
  | generateCypher
deriving DecidableEq, Repr

namespace Tool

def all : List Tool := [.graphQuery, .getSchema, .healthCheck, .generateCypher]

def name : Tool → String
  | .graphQuery => "graphQuery"
  | .getSchema => "getSchema"
  | .healthCheck => "healthCheck"
  | .generateCypher => "generateCypher"

/-- The tool of a name. -/
def ofName? (name : String) : Option Tool := all.find? (·.name == name)

def description : Tool → String
  | .graphQuery =>
    "Execute a Cypher statement against the Kùzu graph database and return the result rows as " ++
      "JSON. 64-bit integers are returned as strings."
  | .getSchema =>
    "Return the database schema: node tables with their properties and primary keys, and " ++
      "relationship tables with their properties and source/destination tables."
  | .healthCheck =>
    "Report whether the database connection is healthy, with database path, read-only mode and " ++
      "table count."
  | .generateCypher =>
    "Turn a natural-language question into Cypher. Use the generateKuzuCypher prompt for this; " ++
      "the tool only points there."

def arguments : Tool → List Argument
  | .graphQuery => [⟨"cypher", "Cypher statement to execute", true⟩]
  | .getSchema | .healthCheck => []
  | .generateCypher => [⟨"question", "Natural-language question about the graph", true⟩]

def definition (t : Tool) : ToolDefinition :=
  ⟨t.name, t.description, Argument.jsonSchema t.arguments⟩

/-- Checks that the tools can be told apart, and the arguments of each as well. -/
def checkAll : Except Failure Unit :=
  checkCatalog "tool" [] (all.map fun t => (t.name, t.arguments))

theorem checkAll_eq_ok : checkAll = .ok () := by
  simp only [checkAll, checkCatalog_eq_ok_iff, Argument.checkDeclared_eq_ok_iff]
  decide +kernel

/-! ## Calls -/

/-- Where a question is to be taken instead. -/
def referral (question : String) : String :=
  "Cypher generation is provided as a prompt, not a tool. Request the '" ++
    Prompt.generateCypher.name ++ "' prompt with question " ++ Text.Quoted.quote question ++
    " to get schema-aware instructions, then run the resulting statement with the " ++
    "'graphQuery' tool."

/-- The text that a tool gives for arguments that have been checked. -/
def run (service : Service) (now : Calendar.Moment) (members : Members) : Tool → Attempt String
  | .graphQuery => do
    let statement ← Attempt.ofResult (Argument.text "cypher" members)
    let rows ← service.query statement
    pure (rowsText rows)
  | .getSchema => do
    let schema ← service.schema
    pure schema.text
  | .healthCheck => do
    let health ← ExceptT.lift (service.health now)
    pure health.text
  | .generateCypher => do
    let question ← Attempt.ofResult (Argument.text "question" members)
    pure (referral question)

/-- The text that a tool gives for some arguments. -/
def attempt (service : Service) (now : Calendar.Moment) (members : Members) (t : Tool) :
    Attempt String := do
  Attempt.ofResult (Argument.validate t.arguments members)
  t.run service now members

/-- The result of a call of a tool by its name. -/
def call (service : Service) (now : Calendar.Moment) (name : String) (arguments : Json) :
    Attempt ToolResult := do
  if Text.isAllBlank name then throw (.protocol "missing tool name")
  match ofName? name with
  | none => throw (.protocol s!"unknown tool: {name}")
  | some tool =>
    let members ← Attempt.ofResult (Argument.membersOf arguments)
    ExceptT.lift do
      Session.log .toolCalled
      let outcome ← (tool.attempt service now members).run
      unless outcome.toBool do Session.log .toolFailed
      pure (.ofOutcome outcome)

end Tool

end GraphGateway.Protocol
