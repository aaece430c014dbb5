/-
Which statements a line makes the engine execute.

Four kinds of requests reach the engine: a query with a statement, a health check, a request for the
schema, and a prompt with a question. What they execute is told by `Reaches`. Every other line, a
notification of any kind among them, leaves the engine alone, because names and arguments are looked
at before anything is run.
-/
import GraphGateway.Proofs.Protocol.Refusal

namespace GraphGateway.Protocol

/-- A line holds a request that is no notification, for a method. -/
def Asks (line : List UInt8) (r : Request) (method : String) : Prop :=
  Holds line r ∧ r.id ≠ .null ∧ r.method = method

/-- A line makes the engine execute statements. -/
inductive Reaches (e : Engine) (earlier : List String) (line : List UInt8) : List String → Prop where
  /-- The statement of a query, as it is. -/
  | query {r : Request} {members : Members} {statement : String} : Asks line r "tools/call" →
    Names r.parameters "graphQuery" members → Supplies members "cypher" statement →
    Reaches e earlier line [statement]
  | health {r : Request} {members : Members} : Asks line r "tools/call" →
    Names r.parameters "healthCheck" members → Reaches e earlier line [Catalog.showTables]
  | schema {r : Request} {members : Members} : Asks line r "tools/call" →
    Names r.parameters "getSchema" members → Reaches e earlier line (e.reflectionStatements earlier)
  | prompt {r : Request} {members : Members} {question : String} : Asks line r "prompts/get" →
    Names r.parameters "generateKuzuCypher" members → Supplies members "question" question →
    Reaches e earlier line (e.reflectionStatements earlier)

/-! ## Tools -/

namespace Tool

variable (e : Engine) (earlier : List String) {members : Members}

/-- A query wants a statement and nothing else. -/
theorem validate_graphQuery_iff : Argument.validate (arguments .graphQuery) members = .ok () ↔
    ∃ statement, Supplies members "cypher" statement :=
  Argument.validate_one_eq_ok_iff rfl

theorem statements_graphQuery {statement : String} (h : Supplies members "cypher" statement) :
    statements e earlier members .graphQuery = [statement] := by
  rw [statements, validate_graphQuery_iff.mpr ⟨statement, h⟩, inquiries,
    Argument.text_of_supplies h]
  rfl

theorem statements_graphQuery_of_none (h : ∀ statement, ¬Supplies members "cypher" statement) :
    statements e earlier members .graphQuery = [] := by
  rw [statements]
  cases hvalid : Argument.validate (arguments .graphQuery) members with
  | error f => rfl
  | ok u =>
    obtain ⟨statement, hs⟩ := validate_graphQuery_iff.mp hvalid
    exact absurd hs (h statement)

theorem statements_generateCypher : statements e earlier members .generateCypher = [] := by
  rw [statements]
  cases Argument.validate (arguments .generateCypher) members <;> rfl

end Tool

/-! ## Requests -/

namespace Server

variable (service : Service) (now : Calendar.Moment) (earlier : List String)

/-- A line that asks for a method comes to what the method does. -/
theorem lineEffect_of_asks {line : List UInt8} {r : Request} {m : Method} (h : Asks line r m.name) :
    lineEffect service now earlier line = callEffect service now earlier r m := by
  obtain ⟨hr, hid, hm⟩ := h
  have hn : r.isNotification = false := Request.not_isNotification hid
  rw [lineEffect_of_holds service now earlier hr, requestEffect]
  simp only [hn, Method.ofName?_eq_some_iff.mpr hm.symm]
  rfl

theorem lineEffect_statements {line : List UInt8} {r : Request} {m : Method}
    (h : Asks line r m.name) :
    (lineEffect service now earlier line).statements =
      (methodEffect service now earlier r.parameters m).statements := by
  rw [lineEffect_of_asks service now earlier h]
  rfl

/-- A line that reaches the engine executes what it reaches it with. -/
theorem statements_of_reaches {line : List UInt8} {statements : List String}
    (h : Reaches service.engine earlier line statements) :
    (lineEffect service now earlier line).statements = statements := by
  cases h with
  | query hasks hnames hsupplies =>
    rw [lineEffect_statements service now earlier (m := .callTool) hasks, methodEffect,
      toolEffect_of_names service now earlier (t := .graphQuery) hnames]
    exact Tool.statements_graphQuery service.engine earlier hsupplies
  | health hasks hnames =>
    rw [lineEffect_statements service now earlier (m := .callTool) hasks, methodEffect,
      toolEffect_of_names service now earlier (t := .healthCheck) hnames]
    rfl
  | schema hasks hnames =>
    rw [lineEffect_statements service now earlier (m := .callTool) hasks, methodEffect,
      toolEffect_of_names service now earlier (t := .getSchema) hnames]
    rfl
  | prompt hasks hnames hsupplies =>
    rw [lineEffect_statements service now earlier (m := .getPrompt) hasks, methodEffect,
      promptEffect_of_prompted service.engine earlier (p := .generateCypher) ⟨hnames, _, hsupplies⟩]

/-- Calling a tool executes nothing, or reaches the engine. -/
theorem call_reaches {line : List UInt8} {r : Request} (h : Asks line r "tools/call") :
    (toolEffect service now earlier r.parameters).statements = [] ∨
      Reaches service.engine earlier line (toolEffect service now earlier r.parameters).statements := by
  by_cases hmisdirected : Misdirected Tool.names r.parameters
  · exact .inl (toolEffect_of_misdirected service now earlier hmisdirected).2
  rw [misdirected_iff, not_not] at hmisdirected
  obtain ⟨name, members, hnames, -, hknown⟩ := hmisdirected
  obtain ⟨t, -, rfl⟩ := List.mem_map.mp hknown
  rw [toolEffect_of_names service now earlier hnames]
  cases t with
  | graphQuery =>
    by_cases hsupplies : ∃ statement, Supplies members "cypher" statement
    · obtain ⟨statement, hsupplies⟩ := hsupplies
      rw [Tool.statements_graphQuery service.engine earlier hsupplies]
      exact .inr (.query h hnames hsupplies)
    · refine .inl (Tool.statements_graphQuery_of_none service.engine earlier ?_)
      exact fun statement hs => hsupplies ⟨statement, hs⟩
  | getSchema => exact .inr (.schema h hnames)
  | healthCheck => exact .inr (.health h hnames)
  | generateCypher => exact .inl (Tool.statements_generateCypher service.engine earlier)

/-- Getting a prompt executes nothing, or reaches the engine. -/
theorem get_reaches {line : List UInt8} {r : Request} (h : Asks line r "prompts/get") :
    (promptEffect service.engine earlier r.parameters).statements = [] ∨
      Reaches service.engine earlier line
        (promptEffect service.engine earlier r.parameters).statements := by
  rcases prompted_or_unprompted r.parameters with ⟨p, members, hprompted⟩ | hunprompted
  · rw [promptEffect_of_prompted service.engine earlier hprompted]
    obtain ⟨hnames, question, hsupplies⟩ := hprompted
    cases p with
    | generateCypher => exact .inr (.prompt h hnames hsupplies)
  · exact .inl (promptEffect_of_unprompted service.engine earlier hunprompted).2

/-- A line executes nothing, or reaches the engine. -/
theorem nothing_or_reaches (line : List UInt8) :
    (lineEffect service now earlier line).statements = [] ∨
      Reaches service.engine earlier line (lineEffect service now earlier line).statements := by
  rcases line_cases line with hblank | ⟨r, hr⟩ | hunreadable
  · rw [lineEffect_of_isBlank service now earlier hblank]
    exact .inl rfl
  · by_cases hid : r.id = .null
    · rw [lineEffect_of_holds service now earlier hr, requestEffect_of_null service now earlier hid]
      exact .inl rfl
    cases hmethod : Method.ofName? r.method with
    | none =>
      have hn : r.isNotification = false := Request.not_isNotification hid
      rw [lineEffect_of_holds service now earlier hr, requestEffect]
      simp only [hn, hmethod]
      exact .inl rfl
    | some m =>
      have hm := Method.ofName?_eq_some_iff.mp hmethod
      have hasks : Asks line r m.name := ⟨hr, hid, hm.symm⟩
      rw [lineEffect_statements service now earlier hasks]
      cases m with
      | handshake | ping | listTools | listPrompts => exact .inl rfl
      | callTool => exact call_reaches service now earlier hasks
      | getPrompt => exact get_reaches service earlier hasks
  · obtain ⟨reason, heffect⟩ := lineEffect_of_unreadable service now earlier hunreadable
    rw [heffect]
    exact .inl rfl

end Server

/-- **Exactly these statements reach the engine.** A line that reaches it executes what `Reaches`
says, after everything that was executed before; any other line executes nothing. -/
theorem executed_by_line (service : Service) (now : Calendar.Moment) (line : List UInt8)
    (stats : Stats) (j : Journal) :
    (∀ statements, Reaches service.engine j.statements line statements →
      ((Server.handleBytes service now line).journal stats j).statements =
        j.statements ++ statements) ∧
    ((∀ statements, ¬Reaches service.engine j.statements line statements) →
      ((Server.handleBytes service now line).journal stats j).statements = j.statements) := by
  rw [(Server.handleBytes_has service now j.statements line).statements_eq stats]
  constructor
  · intro statements h
    rw [Server.statements_of_reaches service now j.statements h]
  · intro h
    rcases Server.nothing_or_reaches service now j.statements line with hnone | hreaches
    · rw [hnone, List.append_nil]
    · exact absurd hreaches (h _)

end GraphGateway.Protocol
