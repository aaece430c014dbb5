/-
What a seeding executes, and what it says of it.

The listing of the tables comes first. Only if it can be read and is empty, the script is looked
for, and its statements are executed in order, up to the first whose execution fails or whose rows
cannot all be read: what is executed is a front of the script. Success tells how many statements
there are and is had exactly if all of them can be read (`RunsScript`); a failure tells the number
of the statement, its text and the message of the engine. A database that lists something is left
alone, and its script is not even read.
-/
import GraphGateway.Proofs.Startup.Ending

namespace GraphGateway.Startup

open Catalog (showTables)

variable {c : Config} {service : Service} {t : Files.Tree} {earlier : List String}

/-! ## The step -/

/-- The startup behind a seeding: ready, or where it was if the seeding failed. -/
def Machine.behindSeeding (c : Config) (service : Service) : Except Problem Outcome → Machine
  | .ok _ => ⟨c, .ready service⟩
  | .error _ => ⟨c, .seeding service⟩

/-- The step gives what seeding gives, and executes what it executes. -/
theorem Seeds.seed_gives {result : Except Problem Outcome} {executed : List String}
    (h : Seeds c service.engine t earlier result executed) :
    Session.Gives (Machine.seed ⟨c, .seeding service⟩ t) earlier
      (result, Machine.behindSeeding c service result) executed := by
  unfold Machine.seed
  refine h.gives.before ?_
  cases result with
  | error problem => exact .pure _ _
  | ok outcome => exact Session.Gives.after_log (Session.Gives.after_log (.pure _ _))

/-- What comes of the step at its own stage, as far as it is told, and the journal behind it. -/
def seeding (c : Config) (service : Service) (t : Files.Tree) (j : Journal) :
    Except Failure Outcome × Journal :=
  let ((result, _), journal) := (Machine.seed ⟨c, .seeding service⟩ t).run j
  (result.mapError Problem.toFailure, journal)

theorem Seeds.seeding {j : Journal} {result : Except Problem Outcome} {executed : List String}
    (h : Seeds c service.engine t j.statements result executed) :
    (seeding c service t j).1 = result.mapError Problem.toFailure ∧
      (seeding c service t j).2.statements = j.statements ++ executed := by
  obtain ⟨k, hk, rfl⟩ := h.seed_gives j rfl
  rw [Startup.seeding, hk, Journal.statements_append]
  exact ⟨rfl, rfl⟩

/-- If the listing can be read and is not empty, the files do not matter. -/
theorem seeding_of_notEmpty (mode : c.readOnly = false) {j : Journal} {row : Row} {rows : List Row}
    (h : service.engine.Reads j.statements showTables (row :: rows)) (t t' : Files.Tree) :
    seeding c service t j = seeding c service t' j := by
  have hdatabase (t : Files.Tree) : (Machine.seedDatabase c service t).run j =
      (.ok .notEmpty, j ++ service.engine.trail j.statements showTables) := by
    rw [Machine.seedDatabase, if_neg (by simp [mode]), StateT.run_bind, Service.query,
      Engine.query_run, Engine.result_eq_ok_iff.mpr h]
    rfl
  have hseed (t : Files.Tree) : (Machine.seed ⟨c, .seeding service⟩ t).run j =
      ((.ok .notEmpty, ⟨c, .ready service⟩), j ++ service.engine.trail j.statements showTables ++
        [.logged .seedingDone] ++ [.logged .stageChanged]) := by
    rw [Machine.seed, StateT.run_bind, hdatabase]
    rfl
  rw [seeding, seeding, hseed t, hseed t']

/-! ## The script -/

/-- Statements are executed up to the first that fails, and what comes of it tells which. -/
structure RunsScript (e : Engine) (earlier statements : List String)
    (result : Except Failure Outcome) (executed : List String) : Prop where
  front : executed <+: statements
  seeded_iff : ∀ n, result = .ok (.seeded n) ↔
    n = statements.length ∧ e.ReadsAll earlier statements
  all : e.ReadsAll earlier statements → executed = statements
  stopped : ∀ before failing behind message, statements = before ++ failing :: behind →
    e.ReadsAll earlier before → e.Fails (earlier ++ before) failing message →
      result = .error (.startup (s!"seed statement {before.length + 1} failed: " ++
        (message ++ " (statement: " ++ failing ++ ")"))) ∧
      executed = before ++ [failing]

section Script

variable {j : Journal} {path : Files.Path} {script : String} {executed : List String}

theorem seeding_of_all (mode : c.readOnly = false)
    (listing : service.engine.Reads j.statements showTables []) (file : c.seedFile = some path)
    (text : t.readText path = .ok script)
    (hexecuted : (seeding c service t j).2.statements = j.statements ++ showTables :: executed)
    (hall : service.engine.ReadsAll (j.statements ++ [showTables]) (Script.split script)) :
    (seeding c service t j).1 = .ok (.seeded (Script.split script).length) ∧
      executed = Script.split script := by
  obtain ⟨hresult, hstatements⟩ := (Seeds.seeded mode listing file text hall).seeding
  rw [hexecuted, List.append_right_inj, List.cons_inj_right] at hstatements
  exact ⟨hresult, hstatements⟩

theorem seeding_of_fails (mode : c.readOnly = false)
    (listing : service.engine.Reads j.statements showTables []) (file : c.seedFile = some path)
    (text : t.readText path = .ok script)
    (hexecuted : (seeding c service t j).2.statements = j.statements ++ showTables :: executed)
    {before behind : List String} {failing message : String}
    (hsplit : Script.split script = before ++ failing :: behind)
    (hbefore : service.engine.ReadsAll (j.statements ++ [showTables]) before)
    (hfails : service.engine.Fails (j.statements ++ [showTables] ++ before) failing message) :
    (seeding c service t j).1 = .error (.startup (s!"seed statement {before.length + 1} failed: " ++
        (message ++ " (statement: " ++ failing ++ ")"))) ∧
      executed = before ++ [failing] := by
  obtain ⟨hresult, hstatements⟩ :=
    (Seeds.broken mode listing file text hsplit hbefore hfails).seeding
  rw [hexecuted, List.append_right_inj, List.cons_append, List.cons_inj_right] at hstatements
  exact ⟨hresult, hstatements⟩

/-- A script that is read is run as its statements go. -/
theorem seeding_runsScript (mode : c.readOnly = false)
    (listing : service.engine.Reads j.statements showTables []) (file : c.seedFile = some path)
    (text : t.readText path = .ok script)
    (hexecuted : (seeding c service t j).2.statements = j.statements ++ showTables :: executed) :
    RunsScript service.engine (j.statements ++ [showTables]) (Script.split script)
      (seeding c service t j).1 executed := by
  have hall := seeding_of_all mode listing file text hexecuted
  have hstopped := @seeding_of_fails c service t j path script executed mode listing file text hexecuted
  have hends : executed <+: Script.split script ∧
      ∀ n, (seeding c service t j).1 = .ok (.seeded n) → n = (Script.split script).length ∧
        service.engine.ReadsAll (j.statements ++ [showTables]) (Script.split script) := by
    rcases service.engine.readsAll_or_fails (j.statements ++ [showTables]) (Script.split script) with
      h | ⟨before, failing, behind, message, hsplit, hbefore, hfails⟩
    · obtain ⟨hresult, rfl⟩ := hall h
      refine ⟨List.prefix_rfl, fun n hn => ?_⟩
      cases hresult.symm.trans hn
      exact ⟨rfl, h⟩
    · obtain ⟨hresult, rfl⟩ := hstopped hsplit hbefore hfails
      refine ⟨⟨behind, by simp [hsplit]⟩, fun n hn => ?_⟩
      cases hresult.symm.trans hn
  exact {
    front := hends.1
    seeded_iff := fun n => ⟨hends.2 n, fun ⟨hn, h⟩ => hn ▸ (hall h).1⟩
    all := fun h => (hall h).2
    stopped := fun _ _ _ _ hsplit hbefore hfails => hstopped hsplit hbefore hfails }

end Script

/-! ## All ways -/

/-- The listing comes first. -/
theorem exists_listing (mode : c.readOnly = false) (service : Service) (t : Files.Tree)
    (j : Journal) :
    ∃ executed, (seeding c service t j).2.statements = j.statements ++ showTables :: executed := by
  obtain ⟨result, executed, h⟩ := exists_seeds c service.engine t j.statements
  have hstatements := h.seeding.2
  cases h with
  | readOnly readOnly => exact absurd readOnly (by simp [mode])
  | unlisted | notEmpty | noScript | unread | broken | seeded => exact ⟨_, hstatements⟩

/-- **A seeding executes the listing and a front of the script.** Whatever the engine has been asked
before, the listing comes first, and nothing else is executed unless it can be read and is empty.
If it cannot be read, that is the failure. If it lists something, the database is not empty, whatever
the files are. Otherwise there is no script, or it cannot be read, or its statements are run in
order up to the first that fails. -/
theorem seeding_runs_front (mode : c.readOnly = false) (service : Service) (t : Files.Tree)
    (j : Journal) :
    ∃ executed, (seeding c service t j).2.statements = j.statements ++ showTables :: executed ∧
      (∀ message, service.engine.Fails j.statements showTables message →
        (seeding c service t j).1 = .error (.startup ("failed to inspect catalog: " ++
          (message ++ " (statement: " ++ showTables ++ ")"))) ∧ executed = []) ∧
      (∀ row rows, service.engine.Reads j.statements showTables (row :: rows) →
        (∀ t', seeding c service t' j = seeding c service t j) ∧
        (seeding c service t j).1 = .ok .notEmpty ∧ executed = []) ∧
      (service.engine.Reads j.statements showTables [] →
        (c.seedFile = none → (seeding c service t j).1 = .ok .noScript ∧ executed = []) ∧
        (∀ path error, c.seedFile = some path → t.readText path = .error error →
          (seeding c service t j).1 = .error (.startup
            s!"failed to read seed script '{path.display}': {error.message}") ∧ executed = []) ∧
        ∀ path script, c.seedFile = some path → t.readText path = .ok script →
          RunsScript service.engine (j.statements ++ [showTables]) (Script.split script)
            (seeding c service t j).1 executed) := by
  obtain ⟨executed, hexecuted⟩ := exists_listing mode service t j
  have hnothing {statements : List String}
      (h : (seeding c service t j).2.statements = j.statements ++ showTables :: statements) :
      executed = statements := by
    rwa [hexecuted, List.append_right_inj, List.cons_inj_right] at h
  refine ⟨executed, hexecuted, fun message hfails => ?_, fun row rows listing => ?_, fun listing =>
    ⟨fun file => ?_, fun path error file text => ?_, fun path script file text => ?_⟩⟩
  · obtain ⟨hresult, hstatements⟩ := (Seeds.unlisted (t := t) mode hfails).seeding
    exact ⟨hresult, hnothing hstatements⟩
  · obtain ⟨hresult, hstatements⟩ := (Seeds.notEmpty (t := t) mode listing).seeding
    exact ⟨fun t' => seeding_of_notEmpty mode listing t' t, hresult, hnothing hstatements⟩
  · obtain ⟨hresult, hstatements⟩ := (Seeds.noScript (t := t) mode listing file).seeding
    exact ⟨hresult, hnothing hstatements⟩
  · obtain ⟨hresult, hstatements⟩ := (Seeds.unread mode listing file text).seeding
    exact ⟨hresult, hnothing hstatements⟩
  · exact seeding_runsScript mode listing file text hexecuted

/-- A database that is empty, with a script of three statements beside it. -/
def emptyConfig : Config := ⟨⟨[0x64]⟩, false, some ⟨[0x73]⟩, "info"⟩

def threeStatements : Files.Tree := ⟨[], [([[0x73]], .file (Text.Utf8.encode "A;\nB;\nC;"))]⟩

/-- The second statement loses its cursor behind the first row. -/
def losingService : Service where
  engine := .ofTable [(showTables, .ok { rows := [] }), ("A;", .ok { rows := [] }),
    ("B;", .ok { rows := [[]], stop := .failed "gone" }), ("C;", .ok { rows := [] })]
  path := emptyConfig.dbPath
  readOnly := emptyConfig.readOnly

/-- The third statement is not executed. -/
theorem seeding_runs_front_losing :
    emptyConfig.readOnly = false ∧
      (seeding emptyConfig losingService threeStatements []).1 =
        .error (.startup "seed statement 2 failed: gone (statement: B;)") ∧
      (seeding emptyConfig losingService threeStatements []).2.statements =
        [showTables, "A;", "B;"] := by
  obtain ⟨executed, hexecuted, -, -, hempty⟩ :=
    seeding_runs_front (c := emptyConfig) rfl losingService threeStatements []
  have listing : losingService.engine.Reads [] showTables [] := ⟨_, rfl, rfl, rfl⟩
  have text : threeStatements.readText ⟨[0x73]⟩ = .ok "A;\nB;\nC;" := by decide +kernel
  have hsplit : Script.split "A;\nB;\nC;" = ["A;"] ++ "B;" :: ["C;"] := by decide +kernel
  have hfirst : losingService.engine.ReadsAll [showTables] ["A;"] :=
    .cons ⟨_, rfl, rfl, rfl⟩ (.nil _)
  have hfails : losingService.engine.Fails ([showTables] ++ ["A;"]) "B;" "gone" :=
    .inr ⟨_, rfl, rfl⟩
  obtain ⟨hresult, rfl⟩ :=
    ((hempty listing).2.2 _ _ rfl text).stopped ["A;"] "B;" ["C;"] "gone" hsplit hfirst hfails
  exact ⟨rfl, hresult.trans (by decide +kernel), hexecuted⟩

end GraphGateway.Startup
