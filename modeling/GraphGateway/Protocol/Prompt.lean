/-
Prompts: texts that clients ask for to start a conversation with.

There is one. It tells how to write a statement that answers a question, and holds the schema of the
graph between two fences and the question behind them.
-/
import GraphGateway.Protocol.Argument
import GraphGateway.Service

namespace GraphGateway.Protocol

open Json (Codec)

/-! ## What clients see -/

/-- A prompt as it is listed. -/
structure PromptDefinition where
  name : String
  description : String
  arguments : List Argument
deriving DecidableEq, Repr

/-- A piece of a message. -/
structure Content where
  type : String
  text : String
deriving DecidableEq, Repr

structure PromptMessage where
  role : String
  content : Content
deriving DecidableEq, Repr

/-- What a prompt gives. -/
structure PromptResult where
  description : String
  messages : List PromptMessage
deriving DecidableEq, Repr

/-- A piece of plain text. -/
def Content.plain (text : String) : Content := ⟨"text", text⟩

/-- A prompt of one message in the user's name. -/
def PromptResult.ofUser (description text : String) : PromptResult :=
  ⟨description, [⟨"user", .plain text⟩]⟩

def contentFields : Json.Fields (String × String × Unit) :=
  .cons { name := "type", codec := .text } (.cons { name := "text", codec := .text } .nil)

def PromptContent.codec : Codec Content :=
  .record "PromptContent" contentFields (fun (type, text, ()) => ⟨type, text⟩)
    (fun c => (c.type, c.text, ()))

def PromptMessage.codec : Codec PromptMessage :=
  .record "PromptMessage"
    (.cons { name := "role", codec := .text }
      (.cons { name := "content", codec := PromptContent.codec } .nil))
    (fun (role, content, ()) => ⟨role, content⟩)
    (fun m => (m.role, m.content, ()))

def PromptResult.codec : Codec PromptResult :=
  .record "PromptResult"
    (.cons { name := "description", codec := .text }
      (.cons { name := "messages", codec := .list PromptMessage.codec } .nil))
    (fun (description, messages, ()) => ⟨description, messages⟩)
    (fun r => (r.description, r.messages, ()))

def PromptArgument.codec : Codec Argument :=
  .record "PromptArgument"
    (.cons { name := "name", codec := .text }
      (.cons { name := "description", codec := .text }
        (.cons { name := "required", codec := .flag } .nil)))
    (fun (name, description, required, ()) => ⟨name, description, required⟩)
    (fun a => (a.name, a.description, a.required, ()))

def PromptDefinition.codec : Codec PromptDefinition :=
  .record "PromptDefinition"
    (.cons { name := "name", codec := .text }
      (.cons { name := "description", codec := .text }
        (.cons { name := "arguments", codec := .list PromptArgument.codec } .nil)))
    (fun (name, description, arguments, ()) => ⟨name, description, arguments⟩)
    (fun d => (d.name, d.description, d.arguments, ()))

/-! ## The prompts -/

inductive Prompt where
  | generateCypher
deriving DecidableEq, Repr

namespace Prompt

def all : List Prompt := [.generateCypher]

def name : Prompt → String
  | .generateCypher => "generateKuzuCypher"

/-- The prompt of a name. -/
def ofName? (name : String) : Option Prompt := all.find? (·.name == name)

def description : Prompt → String
  | .generateCypher =>
    "Instructions for writing a Kùzu Cypher statement that answers a question, " ++
      "constrained to the live database schema."

def arguments : Prompt → List Argument
  | .generateCypher =>
    [⟨"question", "The question to answer with a Cypher statement", true⟩]

def definition (p : Prompt) : PromptDefinition := ⟨p.name, p.description, p.arguments⟩

/-- Checks that the prompts can be told apart, and the arguments of each as well. -/
def checkAll : Except Failure Unit :=
  checkCatalog "prompt" [] (all.map fun p => (p.name, p.arguments))

theorem checkAll_eq_ok : checkAll = .ok () := by
  simp only [checkAll, checkCatalog_eq_ok_iff, Argument.checkDeclared_eq_ok_iff]
  decide +kernel

/-! ## The text -/

/-- What stands in front of the schema. -/
def instructions : String :=
  "Task: write one Kùzu Cypher statement that answers the question below.\n\n" ++
  "Rules:\n" ++
  "1. Use only the node tables, relationship tables and properties listed in the schema. " ++
  "Never invent labels, relationship types or properties.\n" ++
  "2. Name the node label and relationship type explicitly in every pattern.\n" ++
  "3. Relationship directions must follow the src/dst pairs listed under \"connectivity\".\n" ++
  "4. Kùzu does not support FOREACH (use UNWIND) or FINISH (use RETURN COUNT(*)).\n" ++
  "5. For case-insensitive string comparison apply lower() to both sides.\n" ++
  "6. Return only what the question needs, with readable aliases.\n" ++
  "7. Reply with the statement only: no explanations, apologies or Markdown fences.\n\n" ++
  "Schema:\n"

/-- The line that opens the block of the schema. -/
def openingFence : String := "```json\n"

/-- What closes the block, from the end of its last line on. -/
def closingFence : String := "\n```"

/-- The instructions for a question about a graph. -/
def render (question : String) (schema : Catalog.Schema) : String :=
  instructions ++ openingFence ++ schema.text ++ closingFence ++ "\n\nQuestion:\n" ++ question

/-- The result of asking for a prompt by its name. -/
def get (service : Service) (name : String) (arguments : Json) : Attempt PromptResult := do
  if Text.isAllBlank name then throw (.protocol "missing prompt name")
  match ofName? name with
  | none => throw (.protocol s!"unknown prompt: {name}")
  | some prompt =>
    let members ← Attempt.ofResult (Argument.membersOf arguments)
    Attempt.ofResult (Argument.validate prompt.arguments members)
    ExceptT.lift (Session.log .promptRendered)
    match prompt with
    | .generateCypher =>
      let question := ((members.lookup "question").bind Json.asString?).getD ""
      let schema ← service.schema
      pure (.ofUser prompt.description (render (Text.trim question) schema))

end Prompt

end GraphGateway.Protocol
