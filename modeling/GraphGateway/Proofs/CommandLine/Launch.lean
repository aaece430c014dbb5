/-
Nothing is served unless startup succeeded.

A command line that asks for a command leads through two gates before the command is run: the
configuration has to be resolved, and the startup has to hand out a service. Where a gate is shut,
the run ends there (`run_unresolved`, `run_unstarted`); what has been done by then is nothing in the
first case, and in the second what the startup did, whose ways are those of `Startup.Starts`. Only
behind both gates is the command run, on the journal that the startup left (`run_started`).
-/
import GraphGateway.CommandLine.Program
import GraphGateway.Native.Database
import GraphGateway.Proofs.Startup.Ending

namespace GraphGateway

/-! ## Configuration -/

namespace Config

theorem load_eq_error {c : Config} {t : Files.Tree} {path : Files.Path} {f : Failure}
    (h : load c t path = .error f) : ∃ message, f = .config message := by
  unfold load at h
  split at h
  · cases h
    exact ⟨_, rfl⟩
  · split at h
    · cases h
      exact ⟨_, rfl⟩
    · cases h

theorem flagOf_eq_error {name value : String} {f : Failure} (h : flagOf name value = .error f) :
    ∃ message, f = .config message := by
  unfold flagOf at h
  dsimp only at h
  split at h
  · cases h
  · split at h
    · cases h
    · cases h
      exact ⟨_, rfl⟩

theorem override_eq_error {env : Environment} {c : Config} {f : Failure}
    (h : (c.override env).1 = .error f) : ∃ message, f = .config message := by
  unfold override at h
  dsimp only at h
  split at h
  · cases h
  · split at h
    · cases h
    · next hflag =>
      cases h
      exact flagOf_eq_error hflag

end Config

namespace CommandLine

open Startup (Starts)

variable {args : List Arg} {options : Options} {command : Command} {s : Surroundings}
  {c : Config} {f : Failure}

/-- A configuration that cannot be resolved is told as that. -/
theorem Options.resolve_eq_error (h : options.resolve s = .error f) :
    ∃ message, f = .config message := by
  -- The file comes first; the environment goes over whatever there is by then.
  have hlayer (layer : Config) (h : (do
      (layer.override s.environment).1
      .ok (options.applyTo (layer.override s.environment).2)) = Except.error f) :
      ∃ message, f = .config message := by
    cases hover : (layer.override s.environment).1 with
    | error g =>
      rw [hover] at h
      cases h
      exact Config.override_eq_error hover
    | ok =>
      rw [hover] at h
      cases h
  unfold resolve at h
  cases hconfig : options.config with
  | none =>
    rw [hconfig] at h
    exact hlayer _ h
  | some path =>
    rw [hconfig] at h
    cases hload : Config.load (Config.initial s.dataDirectory) s.tree path with
    | error g =>
      simp only [hload] at h
      cases h
      exact Config.load_eq_error hload
    | ok layer =>
      simp only [hload] at h
      exact hlayer layer h

/-! ## The gates -/

theorem run_unresolved (hread : read args = .run options command)
    (hresolve : options.resolve s = .error f) :
    run args s = .early s 1 "" (complaintOf f) := by
  simp only [run, hread, hresolve]

/-- What a run behind the first gate leaves, by what there is to print. -/
def Outcome.ofPrinted (s : Surroundings) (c : Config) (printed : Printed) (tree : Files.Tree)
    (j : Journal) : Outcome where
  code := if printed.failure.isSome || printed.unhealthy then 1 else 0
  output := printed.output
  complaint := (printed.failure.map complaintOf).getD ""
  filter := .choose (s.environment.text? filterVariable) c.logLevel
  journal := j
  tree := tree

theorem run_unstarted (hread : read args = .run options command)
    (hresolve : options.resolve s = .ok c) {problem : Startup.Problem} {tree : Files.Tree}
    {j : Journal} (hstart : (Startup.start s.opener c s.tree).run [] = ((.error problem, tree), j)) :
    run args s = .ofPrinted s c ⟨[], false, some problem.toFailure⟩ tree j := by
  simp only [run, hread, hresolve, launch, StateT.run_bind, hstart]
  rfl

theorem run_started (hread : read args = .run options command)
    (hresolve : options.resolve s = .ok c) {service : Service} {tree : Files.Tree} {j : Journal}
    (hstart : (Startup.start s.opener c s.tree).run [] = ((.ok service, tree), j)) :
    run args s = .ofPrinted s c ((command.run service s.clock s.input).run j).1 tree
      ((command.run service s.clock s.input).run j).2 := by
  simp only [run, hread, hresolve, launch, StateT.run_bind, hstart]
  rfl

/-! ## What is served -/

/-- A run that fails: nothing is printed, the failure is told, and so many statements were executed
by then. -/
structure Outcome.Fails (o : Outcome) (f : Failure) (executed : List String) : Prop where
  code : o.code = 1
  output : o.output = []
  complaint : o.complaint = "Error: " ++ f.message ++ "\n"
  statements : o.journal.statements = executed

/-- **Nothing is served unless startup succeeded.** A run whose configuration cannot be resolved
fails with that, and neither opens a database nor changes a file. A run whose startup fails tells
why, having executed what the startup had executed by then. Else the server is given the service
that the startup handed out, and what it writes is what is printed. -/
theorem served_only_if_started (hread : read args = .run options command) (s : Surroundings) :
    (∀ f, options.resolve s = .error f →
      (∃ message, f = .config message) ∧ (run args s).Fails f [] ∧
        (run args s).journal.openings = [] ∧ (run args s).tree = s.tree) ∧
    ∀ c, options.resolve s = .ok c →
      (∃ result executed, Starts s.opener c s.tree result executed) ∧
      (∀ problem executed, Starts s.opener c s.tree (.error problem) executed →
        (run args s).Fails (.startup problem.message) executed) ∧
      ∀ service executed, Starts s.opener c s.tree (.ok service) executed →
        ∃ (tree : Files.Tree) (j : Journal), j.statements = executed ∧
          (Startup.start s.opener c s.tree).run [] = ((.ok service, tree), j) ∧
          (command = .serve → (run args s).output =
            ((Protocol.Server.serve service s.clock ⟨s.input, none⟩ none).value {} j).written) := by
  refine ⟨fun f hresolve => ?_, fun c hresolve => ⟨?_, ?_, ?_⟩⟩
  · have hempty : Text.Utf8.encode "" = [] := by decide +kernel
    rw [run_unresolved hread hresolve]
    exact ⟨Options.resolve_eq_error hresolve, ⟨rfl, hempty, rfl, rfl⟩, rfl, rfl⟩
  · exact Startup.exists_starts s.opener c s.tree
  · intro problem executed hstarts
    obtain ⟨j, hstart, hexecuted⟩ := hstarts.gives [] rfl
    rw [run_unstarted hread hresolve hstart]
    exact ⟨rfl, rfl, rfl, hexecuted⟩
  · intro service executed hstarts
    obtain ⟨j, hstart, hexecuted⟩ := hstarts.gives [] rfl
    refine ⟨_, j, hexecuted, hstart, ?_⟩
    rintro rfl
    rw [run_started hread hresolve hstart, Command.run_serve]
    rfl

/-! ### A database and a script, with an engine that cannot be reached, fails, or works -/

def scriptedArgs : List Arg := ["--db-path", "d", "--seed-file", "s"].map Text.Utf8.encode

def scriptedOptions : Options := { dbPath := some ⟨[0x64]⟩, seedFile := some ⟨[0x73]⟩ }

def scriptedConfig : Config := ⟨⟨[0x64]⟩, false, some ⟨[0x73]⟩, "info"⟩

/-- A working directory with a script of two statements. -/
def scriptTree : Files.Tree := ⟨[], [([[0x73]], .file (Text.Utf8.encode "A;\nB;"))]⟩

/-- There is nothing to serve. -/
def scene (environment : Environment) (w : Native.World) : Surroundings :=
  ⟨environment, scriptTree, none, [], w.opener, fun _ => ⟨0, 0⟩⟩

def unclear : Environment := [(Config.readOnlyVariable, Text.Utf8.encode "maybe")]

def unreachable : Native.World := .ofTable none (some "locked") []

/-- A world without tables that answers the first statement without rows. -/
def worldOf (second : Except String Native.Answer) : Native.World :=
  .ofTable none none
    [(Catalog.showTables, .ok ⟨[], []⟩), ("A;", .ok ⟨[], []⟩), ("B;", second)]

def scriptedService (second : Except String Native.Answer) : Service :=
  ⟨(worldOf second).engine, ⟨[0x64]⟩, false⟩

theorem scriptedOptions_resolve (w : Native.World) :
    scriptedOptions.resolve (scene [] w) = .ok scriptedConfig := by
  -- The engine does not matter, and any is as good as another to evaluate with.
  have h : scriptedOptions.resolve (scene [] unreachable) = .ok scriptedConfig := by decide +kernel
  exact h

theorem scriptTree_readText : scriptTree.readText ⟨[0x73]⟩ = .ok "A;\nB;" := by decide +kernel

theorem split_script : Startup.Script.split "A;\nB;" = ["A;", "B;"] := by decide +kernel

theorem unreachable_starts : Starts unreachable.opener scriptedConfig scriptTree
    (.error (.database ⟨[0x64]⟩ "failed to connect to database: locked")) [] :=
  .unopened rfl rfl

theorem worldOf_starts_broken (message : String) :
    Starts (worldOf (.error message)).opener scriptedConfig scriptTree
      (.error (.statement 2 (.engine s!"Query execution failed: {message}" "B;")))
      [Catalog.showTables, "A;", "B;"] := by
  have hfirst : (worldOf (.error message)).engine.ReadsAll ([] ++ [Catalog.showTables]) ["A;"] :=
    .cons ⟨_, rfl, rfl, rfl⟩ (.nil _)
  exact .unseeded rfl rfl
    (.broken rfl ⟨_, rfl, rfl, rfl⟩ rfl scriptTree_readText split_script hfirst (.inl rfl))

theorem worldOf_starts_seeded (answer : Native.Answer) :
    Starts (worldOf (.ok answer)).opener scriptedConfig scriptTree
      (.ok (scriptedService (.ok answer))) [Catalog.showTables, "A;", "B;"] := by
  have hall : (worldOf (.ok answer)).engine.ReadsAll ([] ++ [Catalog.showTables]) ["A;", "B;"] :=
    .cons ⟨_, rfl, rfl, rfl⟩ (.cons ⟨_, rfl, rfl, rfl⟩ (.nil _))
  rw [← split_script] at hall ⊢
  exact .started rfl rfl (.seeded rfl ⟨_, rfl, rfl, rfl⟩ rfl scriptTree_readText hall)

/-- Three runs that fail and one that serves. -/
theorem served_only_if_started_scripted :
    read scriptedArgs = .run scriptedOptions .serve ∧
    (run scriptedArgs (scene unclear unreachable)).Fails
      (.config "invalid boolean for KUZU_MCP_READ_ONLY: 'maybe'") [] ∧
    (run scriptedArgs (scene [] unreachable)).Fails
      (.startup "failed to open database 'd': failed to connect to database: locked") [] ∧
    (run scriptedArgs (scene [] (worldOf (.error "disk full")))).Fails
      (.startup "seed statement 2 failed: Query execution failed: disk full (statement: B;)")
      [Catalog.showTables, "A;", "B;"] ∧
    ∃ j : Journal, j.statements = [Catalog.showTables, "A;", "B;"] ∧
      (run scriptedArgs (scene [] (worldOf (.ok ⟨[], []⟩)))).output =
        ((Protocol.Server.serve (scriptedService (.ok ⟨[], []⟩)) (fun _ => ⟨0, 0⟩)
          { bytes := [] } none).value {} j).written := by
  have hread : read scriptedArgs = .run scriptedOptions .serve := by decide +kernel
  have hrefused : scriptedOptions.resolve (scene unclear unreachable) =
      .error (.config "invalid boolean for KUZU_MCP_READ_ONLY: 'maybe'") := by decide +kernel
  have hconnect : Startup.Problem.message
      (.database ⟨[0x64]⟩ "failed to connect to database: locked") =
        "failed to open database 'd': failed to connect to database: locked" := by decide +kernel
  have hseed : Startup.Problem.message
      (.statement 2 (.engine "Query execution failed: disk full" "B;")) =
        "seed statement 2 failed: Query execution failed: disk full (statement: B;)" := by
    decide +kernel
  obtain ⟨-, hfails, -⟩ :=
    (served_only_if_started hread (scene [] unreachable)).2 _ (scriptedOptions_resolve _)
  obtain ⟨-, hbroken, -⟩ :=
    (served_only_if_started hread (scene [] (worldOf (.error "disk full")))).2 _
      (scriptedOptions_resolve _)
  obtain ⟨-, -, hserves⟩ :=
    (served_only_if_started hread (scene [] (worldOf (.ok ⟨[], []⟩)))).2 _
      (scriptedOptions_resolve _)
  obtain ⟨tree, j, hj, -, hserved⟩ := hserves _ _ (worldOf_starts_seeded ⟨[], []⟩)
  refine ⟨hread, ((served_only_if_started hread _).1 _ hrefused).2.1, ?_, ?_, j, hj, hserved rfl⟩
  · rw [← hconnect]
    exact hfails _ _ unreachable_starts
  · rw [← hseed]
    exact hbroken _ _ (worldOf_starts_broken "disk full")

end CommandLine

end GraphGateway
