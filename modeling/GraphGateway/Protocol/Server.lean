/-
The server: requests in, responses out.

A line that is blank gets no response, and neither does a notification. A line that is no request
gets an error response without an identifier. Every other request is answered once, by a result or
by an error. The server counts what it does.
-/
import GraphGateway.Protocol.Message
import GraphGateway.Protocol.Tool

namespace GraphGateway.Protocol

/-! ## Counters -/

/-- How much a server has done. -/
structure Stats where
  /-- Requests and notifications. -/
  totalRequests : UInt64 := 0
  /-- Calls that name a tool. -/
  toolCalls : UInt64 := 0
  /-- Calls whose result was an error. -/
  toolErrors : UInt64 := 0
  /-- Error responses. -/
  transportErrors : UInt64 := 0
deriving DecidableEq, Repr

/-- Actions of a server, which keep its counters. -/
abbrev Serving := StateT Stats Session

namespace Serving

def countRequest : Serving Unit :=
  modify fun s => { s with totalRequests := s.totalRequests + 1 }

def countToolCall : Serving Unit := modify fun s => { s with toolCalls := s.toolCalls + 1 }

def countToolError : Serving Unit := modify fun s => { s with toolErrors := s.toolErrors + 1 }

def countTransportError : Serving Unit :=
  modify fun s => { s with transportErrors := s.transportErrors + 1 }

def log (notice : Notice) : Serving Unit := StateT.lift (Session.log notice)

end Serving

/-! ## Methods -/

/-- What a request may ask for. -/
inductive Method where
  | handshake
  | ping
  | listTools
  | callTool
  | listPrompts
  | getPrompt
deriving DecidableEq, Repr

namespace Method

def all : List Method := [.handshake, .ping, .listTools, .callTool, .listPrompts, .getPrompt]

def name : Method → String
  | .handshake => "initialize"
  | .ping => "ping"
  | .listTools => "tools/list"
  | .callTool => "tools/call"
  | .listPrompts => "prompts/list"
  | .getPrompt => "prompts/get"

/-- The method of a name. -/
def ofName? (name : String) : Option Method := all.find? (·.name == name)

end Method

/-- The revision of the protocol that is spoken. -/
def protocolVersion : String := "2024-11-05"

/-- What the server tells about itself. -/
def introduction : Json :=
  Json.canonical (.object [
    ("protocolVersion", .string protocolVersion),
    ("capabilities", .object [("tools", .object []), ("prompts", .object [])]),
    ("serverInfo", .object [
      ("name", .string "kuzu"), ("version", .string Catalog.Health.currentVersion)])])

/-- All tools as they are listed. -/
def toolList : Json :=
  .object [("tools",
    .array (Tool.all.map fun t => (ToolDefinition.codec.write t.definition).canonical))]

/-- All prompts as they are listed. -/
def promptList : Json :=
  .object [("prompts",
    .array (Prompt.all.map fun p => (PromptDefinition.codec.write p.definition).canonical))]

/-- The name that parameters give for what a method asks for. -/
def requiredName (method : Method) (what : String) : Json → Except Failure String
  | .object members =>
    let name := ((members.lookup "name").bind Json.asString?).getD ""
    if Text.isAllBlank name then .error (.protocol s!"missing {what} name") else .ok name
  | _ => .error (.protocol s!"missing params for {method.name}")

/-- The arguments that parameters give. -/
def argumentsOf (params : Json) : Json := (params.get? "arguments").getD .null

namespace Server

/-! ## Catalogs -/

/-- Checks what the server offers, before it serves anything. -/
def checkCatalogs : Except Failure Unit := do
  Tool.checkAll
  Prompt.checkAll

theorem checkCatalogs_eq_ok : checkCatalogs = .ok () := by
  rw [checkCatalogs, Tool.checkAll_eq_ok]
  exact Prompt.checkAll_eq_ok

/-! ## Requests -/

/-- Calls the tool that parameters name. -/
def callTool (service : Service) (now : Calendar.Moment) (params : Json) :
    Serving (Except Failure Json) := do
  match requiredName .callTool "tool" params with
  | .error f => pure (.error f)
  | .ok name =>
    Serving.countToolCall
    match ← StateT.lift (Tool.call service now name (argumentsOf params)).run with
    | .error f => pure (.error f)
    | .ok result =>
      if result.isError then Serving.countToolError
      pure (.ok (ToolResult.codec.write result).canonical)

/-- Gets the prompt that parameters name. -/
def getPrompt (service : Service) (params : Json) : Serving (Except Failure Json) := do
  match requiredName .getPrompt "prompt" params with
  | .error f => pure (.error f)
  | .ok name =>
    match ← StateT.lift (Prompt.get service name (argumentsOf params)).run with
    | .error f => pure (.error f)
    | .ok result => pure (.ok (PromptResult.codec.write result).canonical)

/-- What a method gives for some parameters. -/
def perform (service : Service) (now : Calendar.Moment) (params : Json) :
    Method → Serving (Except Failure Json)
  | .handshake => pure (.ok introduction)
  | .ping => pure (.ok (.object []))
  | .listTools => pure (.ok toolList)
  | .callTool => callTool service now params
  | .listPrompts => pure (.ok promptList)
  | .getPrompt => getPrompt service params

/-- Handles a request. Notifications get no response. -/
def handleRequest (service : Service) (now : Calendar.Moment) (r : Request) :
    Serving (Option Response) := do
  Serving.countRequest
  Serving.log .requestReceived
  if r.isNotification then
    Serving.log .notificationReceived
    pure none
  else
    match Method.ofName? r.method with
    | none =>
      Serving.countTransportError
      pure (some (.failure r.id .methodNotFound s!"method not found: {r.method}"))
    | some method =>
      match ← perform service now (r.params.getD .null) method with
      | .ok result => pure (some (.success r.id result))
      | .error f =>
        Serving.countTransportError
        Serving.log .requestFailed
        pure (some (.ofFailure r.id f))

/-! ## Lines -/

/-- Answers a line that is no request. -/
def rejectLine (reason : String) : Serving (Option Response) := do
  Serving.countTransportError
  Serving.log .lineRejected
  pure (some (.failure .null .parseError reason))

/-- Handles a line; blanks at both ends are dropped. -/
def handleText (service : Service) (now : Calendar.Moment) (line : String) :
    Serving (Option Response) :=
  let line := Text.trim line
  if line = "" then pure none
  else
    match Request.codec.decode line with
    | .ok request => handleRequest service now request
    | .error fault => rejectLine s!"failed to parse JSON-RPC request: {fault.message line}"

/-- Handles a line that may be no text. -/
def handleBytes (service : Service) (now : Calendar.Moment) (line : List UInt8) :
    Serving (Option Response) :=
  match Text.Utf8.decode line with
  | .ok line => handleText service now line
  | .error fault => rejectLine s!"request is not valid UTF-8: {fault.message}"

end Server

end GraphGateway.Protocol
