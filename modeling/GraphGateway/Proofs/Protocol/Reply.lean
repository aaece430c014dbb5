/-
What comes of a line: the response, what is counted, and the statements that are executed.

Each action of the server is told by an `Effect`, worked out from the engine's answers and the
statements executed before, with no journal and no counters to carry along. One lemma for each
action says that it has its effect; they follow the definitions from the operations of a tool up to
a line of bytes (`Server.handleBytes_has`).
-/
import GraphGateway.Proofs.Catalog.Inquiry

namespace GraphGateway.Protocol

/-- What comes of an action. -/
structure Effect (α : Type) where
  value : α
  /-- How much is added to the counters. -/
  counted : Stats := {}
  /-- The statements that are executed. -/
  statements : List String := []

/-- An action has an effect, whatever the counters were. -/
abbrev Serving.Has {α : Type} (x : Serving α) (earlier : List String) (effect : Effect α) : Prop :=
  Serving.Gives x earlier effect.value effect.counted effect.statements

/-! ## Counting -/

namespace Serving

variable (earlier : List String)

theorem countRequest_gives : Gives countRequest earlier () { totalRequests := 1 } [] :=
  Gives.count (fun s => by simp [Stats.add_def]) earlier

theorem countToolCall_gives : Gives countToolCall earlier () { toolCalls := 1 } [] :=
  Gives.count (fun s => by simp [Stats.add_def]) earlier

theorem countToolError_gives : Gives countToolError earlier () { toolErrors := 1 } [] :=
  Gives.count (fun s => by simp [Stats.add_def]) earlier

theorem countTransportError_gives :
    Gives countTransportError earlier () { transportErrors := 1 } [] :=
  Gives.count (fun s => by simp [Stats.add_def]) earlier

end Serving

/-! ## Tools -/

namespace Tool

/-- The statements that a tool executes for arguments that have been checked. -/
def inquiries (e : Engine) (earlier : List String) (members : Members) : Tool → List String
  | .graphQuery => (Argument.text "cypher" members).toOption.toList
  | .getSchema => e.reflectionStatements earlier
  | .healthCheck => [Catalog.showTables]
  | .generateCypher => []

/-- The text that a tool gives for arguments that have been checked, or why it gives none. -/
def answer (service : Service) (now : Calendar.Moment) (earlier : List String) (members : Members) :
    Tool → Except Failure String
  | .graphQuery => do
    let statement ← Argument.text "cypher" members
    (service.engine.result earlier statement).map rowsText
  | .getSchema => (service.engine.reflection earlier).map Catalog.Schema.text
  | .healthCheck => .ok (Catalog.Health.ofListing service.path.display service.readOnly now
      (service.engine.result earlier Catalog.showTables)).text
  | .generateCypher => (Argument.text "question" members).map referral

theorem run_gives (service : Service) (now : Calendar.Moment) (earlier : List String)
    (members : Members) (t : Tool) :
    Attempt.Gives (t.run service now members) earlier (t.answer service now earlier members)
      (t.inquiries service.engine earlier members) := by
  cases t with
  | graphQuery =>
    have hstatements : (Argument.text "cypher" members).toOption.toList =
        (Argument.text "cypher" members).toOption.elim [] fun statement => [statement] := by
      cases (Argument.text "cypher" members).toOption <;> rfl
    rw [inquiries, hstatements]
    exact Attempt.Gives.ofResult_bind fun statement _ =>
      (service.engine.query_gives earlier statement).bind_pure rowsText
  | getSchema => exact (service.engine.schema_gives earlier).bind_pure Catalog.Schema.text
  | healthCheck =>
    have hcheck := Catalog.Health.check_gives service.engine service.path.display service.readOnly
      now earlier
    exact (Attempt.Gives.lift hcheck).bind_pure Catalog.Health.text
  | generateCypher =>
    exact (Attempt.Gives.ofResult (Argument.text "question" members) earlier).bind_pure referral

/-- The text that a tool gives for some arguments, or why it gives none. -/
def outcome (service : Service) (now : Calendar.Moment) (earlier : List String) (members : Members)
    (t : Tool) : Except Failure String := do
  Argument.validate t.arguments members
  t.answer service now earlier members

/-- The statements that a tool executes for some arguments. -/
def statements (e : Engine) (earlier : List String) (members : Members) (t : Tool) : List String :=
  (Argument.validate t.arguments members).toOption.elim [] fun _ => t.inquiries e earlier members

theorem attempt_gives (service : Service) (now : Calendar.Moment) (earlier : List String)
    (members : Members) (t : Tool) :
    Attempt.Gives (t.attempt service now members) earlier (t.outcome service now earlier members)
      (t.statements service.engine earlier members) :=
  Attempt.Gives.ofResult_bind fun _ _ => t.run_gives service now earlier members

/-- The tool of a name and the members of its arguments, or why there are none. -/
def requested (name : String) (arguments : Json) : Except Failure (Tool × Members) :=
  if Text.isAllBlank name then .error (.protocol "missing tool name")
  else
    match ofName? name with
    | none => .error (.protocol s!"unknown tool: {name}")
    | some tool => (Argument.membersOf arguments).map (tool, ·)

/-- Whatever goes wrong once the tool is known is told in the result. -/
theorem told_gives (service : Service) (now : Calendar.Moment) (earlier : List String)
    (members : Members) (t : Tool) :
    Session.Gives (do
        Session.log .toolCalled
        let outcome ← (t.attempt service now members).run
        unless outcome.toBool do Session.log .toolFailed
        pure (ToolResult.ofOutcome outcome))
      earlier (.ofOutcome (t.outcome service now earlier members))
      (t.statements service.engine earlier members) := by
  have htell (outcome : Except Failure String) (earlier : List String) :
      Session.Gives (do
        unless outcome.toBool do Session.log .toolFailed
        pure (ToolResult.ofOutcome outcome)) earlier (.ofOutcome outcome) [] := by
    cases outcome with
    | ok text => exact Session.Gives.pure _ _
    | error f => exact (Session.Gives.pure _ _).after_log
  refine Session.Gives.after_log ?_
  rw [← List.append_nil (t.statements service.engine earlier members)]
  exact Session.Gives.bind (t.attempt_gives service now earlier members) (htell _ _)

theorem call_gives (service : Service) (now : Calendar.Moment) (earlier : List String)
    (name : String) (arguments : Json) :
    Attempt.Gives (call service now name arguments) earlier
      ((requested name arguments).map fun (tool, members) =>
        .ofOutcome (tool.outcome service now earlier members))
      ((requested name arguments).toOption.elim [] fun (tool, members) =>
        tool.statements service.engine earlier members) := by
  unfold call requested
  by_cases hblank : Text.isAllBlank name = true
  · simp only [hblank, if_true]
    exact (Attempt.Gives.throw _ earlier).bind_error
  simp only [hblank]
  refine (Attempt.Gives.pure _ earlier).after ?_
  cases ofName? name with
  | none => exact Attempt.Gives.throw _ earlier
  | some tool =>
    have h := Attempt.Gives.ofResult_bind (r := Argument.membersOf arguments) fun members _ =>
      Attempt.Gives.lift (told_gives service now earlier members tool)
    cases hm : Argument.membersOf arguments with
    | error f =>
      rw [hm] at h
      exact h
    | ok members =>
      rw [hm] at h
      exact h

end Tool

/-! ## Prompts -/

namespace Prompt

/-- The prompt of a name and the members of its arguments, which have been checked, or why there are
none. -/
def requested (name : String) (arguments : Json) : Except Failure (Prompt × Members) :=
  if Text.isAllBlank name then .error (.protocol "missing prompt name")
  else
    match ofName? name with
    | none => .error (.protocol s!"unknown prompt: {name}")
    | some prompt => do
      let members ← Argument.membersOf arguments
      Argument.validate prompt.arguments members
      pure (prompt, members)

/-- What a prompt gives for arguments that have been checked, or why it gives nothing. -/
def answer (e : Engine) (earlier : List String) (members : Members) :
    Prompt → Except Failure PromptResult
  | .generateCypher => (e.reflection earlier).map fun schema =>
    let question := ((members.lookup "question").bind Json.asString?).getD ""
    .ofUser (description .generateCypher) (render (Text.trim question) schema)

theorem get_gives (service : Service) (earlier : List String) (name : String) (arguments : Json) :
    Attempt.Gives (get service name arguments) earlier
      (requested name arguments >>= fun (prompt, members) =>
        prompt.answer service.engine earlier members)
      ((requested name arguments).toOption.elim [] fun _ =>
        service.engine.reflectionStatements earlier) := by
  unfold get requested
  by_cases hblank : Text.isAllBlank name = true
  · simp only [hblank, if_true]
    exact (Attempt.Gives.throw _ earlier).bind_error
  simp only [hblank]
  refine (Attempt.Gives.pure _ earlier).after ?_
  cases ofName? name with
  | none => exact Attempt.Gives.throw _ earlier
  | some prompt =>
    cases prompt with
    | generateCypher =>
      have hschema (members : Members) := (service.engine.schema_gives earlier).bind_pure
        fun schema => PromptResult.ofUser (description .generateCypher)
          (render (Text.trim (((members.lookup "question").bind Json.asString?).getD "")) schema)
      have hlog := Attempt.Gives.lift (Session.Gives.log .promptRendered earlier)
      cases Argument.membersOf arguments with
      | error f => exact Attempt.Gives.throw f earlier
      | ok members =>
        refine (Attempt.Gives.ofResult (.ok members) earlier).after ?_
        cases hv : Argument.validate (Prompt.arguments .generateCypher) members with
        | error f =>
          simp only [bind, Except.bind, hv]
          exact Attempt.Gives.throw f earlier
        | ok u =>
          simp only [bind, Except.bind, hv]
          exact (Attempt.Gives.ofResult (.ok ()) earlier).after (hlog.after (hschema members))

end Prompt

/-! ## Requests -/

namespace Server

/-- What comes of calling the tool that parameters name. A call counts as one as soon as it names
something. -/
def toolEffect (service : Service) (now : Calendar.Moment) (earlier : List String) (params : Json) :
    Effect (Except Failure Json) :=
  match requiredName .callTool "tool" params with
  | .error f => { value := .error f }
  | .ok name =>
    match Tool.requested name (argumentsOf params) with
    | .error f => { value := .error f, counted := { toolCalls := 1 } }
    | .ok (tool, members) =>
      let outcome := tool.outcome service now earlier members
      { value := .ok (ToolResult.codec.write (.ofOutcome outcome)).canonical
        counted := { toolCalls := 1, toolErrors := if outcome.toBool then 0 else 1 }
        statements := tool.statements service.engine earlier members }

/-- Of a result, only whether it is an error is counted. -/
theorem countOutcome_gives (outcome : Except Failure String) (earlier : List String) :
    Serving.Gives (do
        if (ToolResult.ofOutcome outcome).isError then Serving.countToolError
        pure (Except.ok (ToolResult.codec.write (.ofOutcome outcome)).canonical))
      earlier (.ok (ToolResult.codec.write (.ofOutcome outcome)).canonical : Except Failure Json)
      { toolErrors := if outcome.toBool then 0 else 1 } [] := by
  cases outcome with
  | ok text => exact Serving.Gives.pure _ earlier
  | error f =>
    show Serving.Gives (do
      Serving.countToolError
      pure (Except.ok (ToolResult.codec.write (.ofOutcome (.error f))).canonical))
      earlier _ { toolErrors := 1 } []
    exact .of_eq (Stats.add_zero _)
      ((Serving.countToolError_gives earlier).behind (Serving.Gives.pure _ _))

theorem callTool_has (service : Service) (now : Calendar.Moment) (earlier : List String)
    (params : Json) :
    (callTool service now params).Has earlier (toolEffect service now earlier params) := by
  unfold callTool toolEffect
  cases requiredName .callTool "tool" params with
  | error f => exact Serving.Gives.pure _ earlier
  | ok name =>
    have hcall := Serving.Gives.lift (Tool.call_gives service now earlier name (argumentsOf params))
    cases hr : Tool.requested name (argumentsOf params) with
    | error f =>
      have hfailed : Serving.Gives (StateT.lift (Tool.call service now name (argumentsOf params)).run)
          earlier (.error f) {} [] := by
        rw [hr] at hcall
        exact hcall
      simp only [hr]
      refine .of_eq (Stats.add_zero _) ((Serving.countToolCall_gives earlier).behind ?_)
      exact hfailed.after (Serving.Gives.pure _ _)
    | ok found =>
      obtain ⟨tool, members⟩ := found
      have htold : Serving.Gives (StateT.lift (Tool.call service now name (argumentsOf params)).run)
          earlier (.ok (.ofOutcome (tool.outcome service now earlier members))) {}
          (tool.statements service.engine earlier members) := by
        rw [hr] at hcall
        exact hcall
      have hcounted (errors : UInt64) : ({ toolCalls := 1 } + ({} + { toolErrors := errors }) : Stats) =
          { toolCalls := 1, toolErrors := errors } := by simp [Stats.add_def]
      simp only [hr]
      refine .of_eq (hcounted _) ((Serving.countToolCall_gives earlier).behind ?_)
      exact htold.before (countOutcome_gives _ _)

/-- What comes of getting the prompt that parameters name. -/
def promptEffect (e : Engine) (earlier : List String) (params : Json) :
    Effect (Except Failure Json) :=
  match requiredName .getPrompt "prompt" params with
  | .error f => { value := .error f }
  | .ok name =>
    match Prompt.requested name (argumentsOf params) with
    | .error f => { value := .error f }
    | .ok (prompt, members) =>
      { value := (prompt.answer e earlier members).map fun result =>
          (PromptResult.codec.write result).canonical
        statements := e.reflectionStatements earlier }

theorem getPrompt_has (service : Service) (earlier : List String) (params : Json) :
    (getPrompt service params).Has earlier (promptEffect service.engine earlier params) := by
  unfold getPrompt promptEffect
  cases requiredName .getPrompt "prompt" params with
  | error f => exact Serving.Gives.pure _ earlier
  | ok name =>
    have hget := Serving.Gives.lift (Prompt.get_gives service earlier name (argumentsOf params))
    cases hr : Prompt.requested name (argumentsOf params) with
    | error f =>
      have hfailed : Serving.Gives (StateT.lift (Prompt.get service name (argumentsOf params)).run)
          earlier (.error f) {} [] := by
        rw [hr] at hget
        exact hget
      simp only [hr]
      exact hfailed.after (Serving.Gives.pure _ _)
    | ok found =>
      obtain ⟨prompt, members⟩ := found
      have hgiven : Serving.Gives (StateT.lift (Prompt.get service name (argumentsOf params)).run)
          earlier (prompt.answer service.engine earlier members) {}
          (service.engine.reflectionStatements earlier) := by
        rw [hr] at hget
        exact hget
      simp only [hr]
      refine .of_eq (Stats.zero_add {}) (hgiven.before ?_)
      cases prompt.answer service.engine earlier members with
      | error f => exact Serving.Gives.pure _ _
      | ok result => exact Serving.Gives.pure _ _

/-- What comes of a method for some parameters. -/
def methodEffect (service : Service) (now : Calendar.Moment) (earlier : List String) (params : Json) :
    Method → Effect (Except Failure Json)
  | .handshake => { value := .ok introduction }
  | .ping => { value := .ok (.object []) }
  | .listTools => { value := .ok toolList }
  | .callTool => toolEffect service now earlier params
  | .listPrompts => { value := .ok promptList }
  | .getPrompt => promptEffect service.engine earlier params

theorem perform_has (service : Service) (now : Calendar.Moment) (earlier : List String)
    (params : Json) (method : Method) :
    (perform service now params method).Has earlier
      (methodEffect service now earlier params method) := by
  cases method with
  | handshake => exact Serving.Gives.pure _ earlier
  | ping => exact Serving.Gives.pure _ earlier
  | listTools => exact Serving.Gives.pure _ earlier
  | callTool => exact callTool_has service now earlier params
  | listPrompts => exact Serving.Gives.pure _ earlier
  | getPrompt => exact getPrompt_has service earlier params

/-- The response to a request, from what its method gives. -/
def responseTo (r : Request) : Except Failure Json → Response
  | .ok result => .success r.id result
  | .error f => .ofFailure r.id f

/-- What comes of a request that is no notification and asks for a method. -/
def callEffect (service : Service) (now : Calendar.Moment) (earlier : List String) (r : Request)
    (method : Method) : Effect (Option Response) :=
  let done := methodEffect service now earlier (r.params.getD .null) method
  { value := some (responseTo r done.value)
    counted := { totalRequests := 1 } +
      (done.counted + { transportErrors := if done.value.toBool then 0 else 1 })
    statements := done.statements }

/-- What comes of a request. -/
def requestEffect (service : Service) (now : Calendar.Moment) (earlier : List String) (r : Request) :
    Effect (Option Response) :=
  if r.isNotification then { value := none, counted := { totalRequests := 1 } }
  else
    match Method.ofName? r.method with
    | none =>
      { value := some (.failure r.id .methodNotFound s!"method not found: {r.method}")
        counted := { totalRequests := 1, transportErrors := 1 } }
    | some method => callEffect service now earlier r method

/-- A failure is counted when it is told. -/
theorem respond_gives (r : Request) (outcome : Except Failure Json) (earlier : List String) :
    Serving.Gives (match outcome with
        | .ok result => pure (some (.success r.id result))
        | .error f => do
          Serving.countTransportError
          Serving.log .requestFailed
          pure (some (.ofFailure r.id f)))
      earlier (some (responseTo r outcome))
      { transportErrors := if outcome.toBool then 0 else 1 } [] := by
  cases outcome with
  | ok result => exact Serving.Gives.pure _ earlier
  | error f =>
    refine .of_eq (Stats.add_zero _) ((Serving.countTransportError_gives earlier).behind ?_)
    exact (Serving.Gives.log _ earlier).after (Serving.Gives.pure _ earlier)

theorem handleRequest_has (service : Service) (now : Calendar.Moment) (earlier : List String)
    (r : Request) :
    (handleRequest service now r).Has earlier (requestEffect service now earlier r) := by
  have hcount := Serving.countRequest_gives earlier
  have hlog (notice : Notice) := Serving.Gives.log notice earlier
  unfold handleRequest requestEffect
  by_cases hn : r.isNotification = true
  · simp only [hn, if_true]
    refine .of_eq (Stats.add_zero _) (hcount.behind ((hlog _).after ?_))
    exact (hlog _).after (Serving.Gives.pure _ earlier)
  simp only [hn]
  cases Method.ofName? r.method with
  | none =>
    have hcounted : ({ totalRequests := 1 } + ({ transportErrors := 1 } + {}) : Stats) =
        { totalRequests := 1, transportErrors := 1 } := by simp [Stats.add_def]
    refine .of_eq hcounted (hcount.behind ((hlog _).after ?_))
    exact (Serving.countTransportError_gives earlier).behind (Serving.Gives.pure _ earlier)
  | some method =>
    refine hcount.behind ((hlog _).after ?_)
    exact (perform_has service now earlier (r.params.getD .null) method).before
      (respond_gives r _ _)

/-! ## Lines -/

/-- What comes of a line that is no request. -/
def rejection (reason : String) : Effect (Option Response) where
  value := some (.failure .null .parseError reason)
  counted := { transportErrors := 1 }

theorem rejectLine_has (reason : String) (earlier : List String) :
    (rejectLine reason).Has earlier (rejection reason) := by
  refine .of_eq (Stats.add_zero _) ((Serving.countTransportError_gives earlier).behind ?_)
  exact (Serving.Gives.log _ earlier).after (Serving.Gives.pure _ earlier)

/-- What comes of a line of text. -/
def textEffect (service : Service) (now : Calendar.Moment) (earlier : List String) (line : String) :
    Effect (Option Response) :=
  if Text.trim line = "" then { value := none }
  else
    match Request.codec.decode (Text.trim line) with
    | .ok r => requestEffect service now earlier r
    | .error fault =>
      rejection s!"failed to parse JSON-RPC request: {fault.message (Text.trim line)}"

theorem handleText_has (service : Service) (now : Calendar.Moment) (earlier : List String)
    (line : String) :
    (handleText service now line).Has earlier (textEffect service now earlier line) := by
  unfold handleText textEffect
  by_cases hblank : Text.trim line = ""
  · simp only [hblank, if_true]
    exact Serving.Gives.pure _ earlier
  simp only [hblank, if_false]
  cases Request.codec.decode (Text.trim line) with
  | ok r => exact handleRequest_has service now earlier r
  | error fault => exact rejectLine_has _ earlier

/-- What comes of a line. -/
def lineEffect (service : Service) (now : Calendar.Moment) (earlier : List String)
    (line : List UInt8) : Effect (Option Response) :=
  match Text.Utf8.decode line with
  | .ok text => textEffect service now earlier text
  | .error fault => rejection s!"request is not valid UTF-8: {fault.message}"

/-- **Handling a line has the effect that is worked out for it.** -/
theorem handleBytes_has (service : Service) (now : Calendar.Moment) (earlier : List String)
    (line : List UInt8) :
    (handleBytes service now line).Has earlier (lineEffect service now earlier line) := by
  unfold handleBytes lineEffect
  cases Text.Utf8.decode line with
  | ok text => exact handleText_has service now earlier text
  | error fault => exact rejectLine_has _ earlier

end Server

end GraphGateway.Protocol
