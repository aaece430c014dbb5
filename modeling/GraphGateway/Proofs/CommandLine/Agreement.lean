/-
Commands and tools agree.

The schema, the health report and the rows of a statement can be had in two ways: a command prints
them, and a tool gives them as the text of its result. Behind the startup both ask the engine the
same (`Command.schema_gives`, `Command.query_gives`, `Command.health_gives`, and `Tool.outcome` on
the other side). What differs is where a failure goes: a tool gives its text as that of an error, a
command prints nothing and the program tells it (`Outcome.Tells`).
-/
import GraphGateway.Proofs.CommandLine.Launch
import GraphGateway.Proofs.Protocol.Access
import GraphGateway.Proofs.Protocol.QueryText

namespace GraphGateway.CommandLine

open Protocol (Tool ToolResult Argument Supplies)

/-! ## What commands give -/

namespace Command

variable (service : Service) (clock : Protocol.Clock) (input : List UInt8)
  (earlier : List String)

theorem schema_gives :
    Session.Gives (schema.run service clock input) earlier
      (.ofResult ((service.engine.reflection earlier).map Catalog.Schema.text))
      (service.engine.reflectionStatements earlier) :=
  Session.Gives.before (service.engine.schema_gives earlier) (.pure _ _)

theorem query_gives (statement : String) :
    Session.Gives ((query statement).run service clock input) earlier
      (.ofResult ((service.engine.result earlier statement).map rowsText)) [statement] :=
  Session.Gives.before (service.engine.query_gives earlier statement) (.pure _ _)

/-- What a health check finds after earlier statements. -/
def healthOf (now : Calendar.Moment) : Catalog.Health :=
  .ofListing service.path.display service.readOnly now
    (service.engine.result earlier Catalog.showTables)

/-- Only the time of a check depends on the time. -/
theorem healthOf_eq (now now' : Calendar.Moment) :
    healthOf service earlier now' = { healthOf service earlier now with timestamp := now' } := by
  unfold healthOf
  cases service.engine.result earlier Catalog.showTables <;> rfl

theorem health_gives :
    Session.Gives (health.run service clock input) earlier
      (.line (healthOf service earlier (clock 0)).text
        ((healthOf service earlier (clock 0)).status == .unhealthy)) [Catalog.showTables] :=
  Session.Gives.before (Catalog.Health.check_gives service.engine _ _ (clock 0) earlier) (.pure _ _)

end Command

/-! ## What is printed and told -/

/-- The text of a tool's result is printed, or told if it is that of an error. -/
inductive Outcome.Tells (o : Outcome) : ToolResult → Prop
  | success {text : String} (code : o.code = 0)
      (output : o.output = Text.Utf8.encode text ++ [Protocol.newline])
      (complaint : o.complaint = "") : Tells o (.success text)
  | failure {text : String} (code : o.code = 1) (output : o.output = [])
      (complaint : o.complaint = "Error: " ++ text ++ "\n") : Tells o (.failure text)

/-- A program run tells what a tool call gives on a journal, and both execute the same. -/
def Outcome.Mirrors (o : Outcome) (call : Attempt ToolResult) (j : Journal) : Prop :=
  ∃ result, call.result j = .ok result ∧ o.Tells result ∧
    o.journal.statements = (call.journal j).statements

section Run

variable {args : List Arg} {options : Options} {command : Command} {s : Surroundings}
  {c : Config} {service : Service} {tree : Files.Tree} {j : Journal}
  (hread : read args = .run options command) (hresolve : options.resolve s = .ok c)
  (hstart : (Startup.start s.opener c s.tree).run [] = ((.ok service, tree), j))

include hread hresolve hstart

/-- Behind both gates, a run is told from what its command gives. -/
theorem run_printed {printed : Printed} {executed : List String}
    (h : Session.Gives (command.run service s.clock s.input) j.statements printed executed) :
    ∃ k : Journal, k.statements = j.statements ++ executed ∧
      run args s = .ofPrinted s c printed tree k := by
  obtain ⟨k, hk, hexecuted⟩ := h j rfl
  refine ⟨j ++ k, by rw [Journal.statements_append, hexecuted], ?_⟩
  rw [run_started hread hresolve hstart, hk]

/-- A command that gives what a tool gives mirrors a call of that tool. -/
theorem run_mirrors (t : Tool) (now : Calendar.Moment) {given : Json} {members : Members}
    (hgiven : Argument.membersOf given = .ok members)
    (h : Session.Gives (command.run service s.clock s.input) j.statements
      (.ofResult (t.outcome service now j.statements members))
      (t.statements service.engine j.statements members)) :
    (run args s).Mirrors (Tool.call service now t.name given) j := by
  have hcall := Tool.call_name_gives service now t hgiven j.statements
  obtain ⟨k, hk, hrun⟩ := run_printed hread hresolve hstart h
  refine ⟨_, hcall.result_eq, ?_, ?_⟩
  · rw [hrun]
    cases t.outcome service now j.statements members with
    | ok text => exact .success rfl rfl rfl
    | error f => exact .failure rfl rfl rfl
  · rw [hrun, hcall.statements_eq]
    exact hk

end Run

/-! ## Agreement -/

/-- **Commands and tools agree.** On a service that startup hands out, the command for the schema and
that for a statement print what a call of their tool gives as its text, or fail with that text if it
is an error. The command for the health report prints the text of the tool, but for the time, and
fails exactly if the database is not healthy. All execute what the tool executes. -/
theorem commands_agree {s : Surroundings} {c : Config} {service : Service} {tree : Files.Tree}
    {j : Journal} (hstart : (Startup.start s.opener c s.tree).run [] = ((.ok service, tree), j))
    {args : List Arg} {options : Options} {command : Command}
    (hread : read args = .run options command) (hresolve : options.resolve s = .ok c)
    (now : Calendar.Moment) {given : Json} {members : Members}
    (hgiven : Argument.membersOf given = .ok members) :
    (command = .schema →
      (run args s).Mirrors (Tool.call service now "getSchema" given) j) ∧
    (∀ statement, command = .query statement → Supplies members "cypher" statement →
      (run args s).Mirrors (Tool.call service now "graphQuery" given) j) ∧
    (command = .health → ∃ record : Catalog.Health,
      (Tool.call service now "healthCheck" given).result j =
        .ok (.success { record with timestamp := now }.text) ∧
      (run args s).output =
        Text.Utf8.encode { record with timestamp := s.clock 0 }.text ++ [Protocol.newline] ∧
      (run args s).complaint = "" ∧
      (run args s).code = (if record.status = .unhealthy then 1 else 0) ∧
      (run args s).journal.statements =
        ((Tool.call service now "healthCheck" given).journal j).statements) := by
  refine ⟨?_, ?_, ?_⟩
  · rintro rfl
    exact run_mirrors hread hresolve hstart .getSchema now hgiven
      (Command.schema_gives service s.clock s.input j.statements)
  · rintro statement rfl hsupplies
    have hquery := Command.query_gives service s.clock s.input j.statements statement
    rw [← Tool.outcome_graphQuery now j.statements hsupplies,
      ← Tool.statements_graphQuery service.engine j.statements hsupplies] at hquery
    exact run_mirrors hread hresolve hstart .graphQuery now hgiven hquery
  · rintro rfl
    have hcall : Attempt.Gives (Tool.call service now "healthCheck" given) j.statements
        (.ok (.success (Command.healthOf service j.statements now).text)) [Catalog.showTables] :=
      Tool.call_name_gives service now .healthCheck hgiven j.statements
    obtain ⟨k, hk, hrun⟩ := run_printed hread hresolve hstart
      (Command.health_gives service s.clock s.input j.statements)
    refine ⟨Command.healthOf service j.statements (s.clock 0), ?_, ?_, ?_, ?_, ?_⟩
    · rw [hcall.result_eq, ← Command.healthOf_eq]
    · rw [hrun, ← Command.healthOf_eq]
      rfl
    · rw [hrun]
      rfl
    · rw [hrun]
      cases (Command.healthOf service j.statements (s.clock 0)).status <;> rfl
    · rw [hrun, hcall.statements_eq]
      exact hk

/-- The database that was seeded, and a statement that it has an answer for. -/
theorem commands_agree_seeded :
    ∃ (tree : Files.Tree) (j : Journal),
      (Startup.start (scene [] (worldOf (.ok ⟨[], []⟩))).opener scriptedConfig scriptTree).run [] =
        ((.ok (scriptedService (.ok ⟨[], []⟩)), tree), j) ∧
      read (scriptedArgs ++ ["query", "B;"].map Text.Utf8.encode) = .run scriptedOptions (.query "B;") ∧
      scriptedOptions.resolve (scene [] (worldOf (.ok ⟨[], []⟩))) = .ok scriptedConfig ∧
      Argument.membersOf (.object [("cypher", .string "B;")]) = .ok [("cypher", .string "B;")] ∧
      Supplies [("cypher", .string "B;")] "cypher" "B;" ∧
      (run (scriptedArgs ++ ["query", "B;"].map Text.Utf8.encode) (scene [] (worldOf (.ok ⟨[], []⟩)))).Mirrors
        (Tool.call (scriptedService (.ok ⟨[], []⟩)) ⟨1, 0⟩ "graphQuery"
          (.object [("cypher", .string "B;")])) j := by
  have hread : read (scriptedArgs ++ ["query", "B;"].map Text.Utf8.encode) = .run scriptedOptions (.query "B;") := by
    decide +kernel
  have hresolve : scriptedOptions.resolve (scene [] (worldOf (.ok ⟨[], []⟩))) =
      .ok scriptedConfig := scriptedOptions_resolve _
  have hsupplies : Supplies [("cypher", .string "B;")] "cypher" "B;" := ⟨rfl, by decide +kernel⟩
  obtain ⟨j, hstart, -⟩ := (worldOf_starts_seeded ⟨[], []⟩).gives [] rfl
  exact ⟨_, j, hstart, hread, hresolve, rfl, hsupplies,
    (commands_agree hstart hread hresolve ⟨1, 0⟩ rfl).2.1 "B;" rfl hsupplies⟩

end GraphGateway.CommandLine
