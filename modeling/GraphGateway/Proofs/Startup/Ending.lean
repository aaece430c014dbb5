/-
How a startup ends, and which statements it has executed by then.

`Seeds` lists the ways in which seeding ends and `Starts` those in which a startup ends, each with
what it takes: what the files are, what the opener answers, and which statements the engine answers
with rows that can all be read. The running startup does what the lists say (`Seeds.gives`,
`Starts.gives`), and they leave nothing out (`exists_seeds`, `exists_starts`). As an engine's answer
may depend on everything it was asked before, a way is one after given statements.
-/
import GraphGateway.Proofs.Catalog.Inquiry
import GraphGateway.Proofs.Startup.Order

namespace GraphGateway

/-- What an action leaves on every journal it gives on every journal. -/
theorem Session.Leaves.gives {α : Type} {x : Session α} {a : α} {executed : List String}
    (h : x.Leaves fun b k => b = a ∧ k.statements = executed) (earlier : List String) :
    Session.Gives x earlier a executed := by
  intro j _
  obtain ⟨b, k, hk, rfl, hexecuted⟩ := h j
  exact ⟨k, hk, hexecuted⟩

/-! ## Several statements -/

/-- Statements are executed one after the other, and all rows of each are read. -/
inductive Engine.ReadsAll (e : Engine) : List String → List String → Prop
  | nil (earlier : List String) : ReadsAll e earlier []
  | cons {earlier : List String} {statement : String} {statements : List String} {rows : List Row}
      (first : e.Reads earlier statement rows)
      (rest : ReadsAll e (earlier ++ [statement]) statements) :
      ReadsAll e earlier (statement :: statements)

/-- Either all statements can be read, or there is a first that fails. -/
theorem Engine.readsAll_or_fails (e : Engine) (earlier statements : List String) :
    e.ReadsAll earlier statements ∨
      ∃ before failing behind message, statements = before ++ failing :: behind ∧
        e.ReadsAll earlier before ∧ e.Fails (earlier ++ before) failing message := by
  induction statements generalizing earlier with
  | nil => exact .inl (.nil earlier)
  | cons statement statements ih =>
    cases hresult : e.result earlier statement with
    | error f =>
      obtain ⟨message, hfails, -⟩ := Engine.result_eq_error_iff.mp hresult
      rw [← List.append_nil earlier] at hfails
      exact .inr ⟨[], statement, statements, message, rfl, .nil earlier, hfails⟩
    | ok rows =>
      have hreads := Engine.result_eq_ok_iff.mp hresult
      rcases ih (earlier ++ [statement]) with
        hall | ⟨before, failing, behind, message, rfl, hall, hfails⟩
      · exact .inl (.cons hreads hall)
      · rw [List.append_assoc] at hfails
        exact .inr ⟨statement :: before, failing, behind, message, rfl, .cons hreads hall, hfails⟩

namespace Startup

open Catalog (showTables)

variable {c : Config} {e : Engine} {t : Files.Tree} {earlier : List String} {service : Service}

/-- Statements that can all be read are run, and then the others. -/
theorem runStatements_append {before rest executed : List String} {result : Except Problem Unit}
    {number : Nat} (hall : service.engine.ReadsAll earlier before)
    (hrest : Session.Gives (Machine.runStatements service (number + before.length) rest)
      (earlier ++ before) result executed) :
    Session.Gives (Machine.runStatements service number (before ++ rest)) earlier result
      (before ++ executed) := by
  induction hall generalizing number with
  | nil earlier => rwa [List.append_nil] at hrest
  | @cons earlier statement before rows hreads _ ih =>
    have hquery := service.engine.query_gives earlier statement
    rw [Engine.result_eq_ok_iff.mpr hreads] at hquery
    rw [List.length_cons, Nat.add_comm before.length, ← Nat.add_assoc, List.append_cons] at hrest
    have hnext := ih hrest
    show Session.Gives _ earlier result ([statement] ++ (before ++ executed))
    exact Session.Gives.bind hquery hnext

/-- Statements that can all be read are run. -/
theorem runStatements_all {statements : List String} (number : Nat)
    (hall : service.engine.ReadsAll earlier statements) :
    Session.Gives (Machine.runStatements service number statements) earlier (.ok ()) statements := by
  have h : Session.Gives (Machine.runStatements service number (statements ++ [])) earlier (.ok ())
      (statements ++ []) := runStatements_append hall (.pure _ _)
  rwa [List.append_nil] at h

/-- Nothing is run behind a statement that fails. -/
theorem runStatements_fails {statements before behind : List String} {failing message : String}
    (number : Nat) (hstatements : statements = before ++ failing :: behind)
    (hall : service.engine.ReadsAll earlier before)
    (hfails : service.engine.Fails (earlier ++ before) failing message) :
    Session.Gives (Machine.runStatements service number statements) earlier
      (.error (.statement (number + before.length) (.engine message failing)))
      (before ++ [failing]) := by
  have hquery := service.engine.query_gives (earlier ++ before) failing
  rw [Engine.result_eq_error_iff.mpr ⟨message, hfails, rfl⟩] at hquery
  rw [hstatements]
  exact runStatements_append hall (Session.Gives.bind hquery (Session.Gives.pure _ _))

/-! ## Seeding -/

/-- How seeding ends after earlier statements, and which statements it executes. -/
inductive Seeds (c : Config) (e : Engine) (t : Files.Tree) (earlier : List String) :
    Except Problem Outcome → List String → Prop
  | readOnly (mode : c.readOnly = true) : Seeds c e t earlier (.ok .readOnly) []
  /-- The tables cannot be listed. -/
  | unlisted {message : String} (mode : c.readOnly = false)
      (fails : e.Fails earlier showTables message) :
      Seeds c e t earlier (.error (.catalog (.engine message showTables))) [showTables]
  | notEmpty {row : Row} {rows : List Row} (mode : c.readOnly = false)
      (listing : e.Reads earlier showTables (row :: rows)) :
      Seeds c e t earlier (.ok .notEmpty) [showTables]
  | noScript (mode : c.readOnly = false) (listing : e.Reads earlier showTables [])
      (file : c.seedFile = none) : Seeds c e t earlier (.ok .noScript) [showTables]
  /-- There is a script, but it cannot be read. -/
  | unread {path : Files.Path} {error : Files.IoError} (mode : c.readOnly = false)
      (listing : e.Reads earlier showTables []) (file : c.seedFile = some path)
      (text : t.readText path = .error error) :
      Seeds c e t earlier (.error (.script path error)) [showTables]
  /-- A statement of the script fails, and none before it does. -/
  | broken {path : Files.Path} {script failing message : String} {before behind : List String}
      (mode : c.readOnly = false) (listing : e.Reads earlier showTables [])
      (file : c.seedFile = some path) (text : t.readText path = .ok script)
      (statements : Script.split script = before ++ failing :: behind)
      (reads : e.ReadsAll (earlier ++ [showTables]) before)
      (fails : e.Fails (earlier ++ [showTables] ++ before) failing message) :
      Seeds c e t earlier (.error (.statement (before.length + 1) (.engine message failing)))
        (showTables :: before ++ [failing])
  | seeded {path : Files.Path} {script : String} (mode : c.readOnly = false)
      (listing : e.Reads earlier showTables []) (file : c.seedFile = some path)
      (text : t.readText path = .ok script)
      (reads : e.ReadsAll (earlier ++ [showTables]) (Script.split script)) :
      Seeds c e t earlier (.ok (.seeded (Script.split script).length))
        (showTables :: Script.split script)

/-- Seeding ends in one of the ways. -/
theorem exists_seeds (c : Config) (e : Engine) (t : Files.Tree) (earlier : List String) :
    ∃ result executed, Seeds c e t earlier result executed := by
  cases mode : c.readOnly with
  | true => exact ⟨_, _, .readOnly mode⟩
  | false =>
    cases hresult : e.result earlier showTables with
    | error f =>
      obtain ⟨message, hfails, -⟩ := Engine.result_eq_error_iff.mp hresult
      exact ⟨_, _, .unlisted mode hfails⟩
    | ok rows =>
      have listing := Engine.result_eq_ok_iff.mp hresult
      cases rows with
      | cons row rows => exact ⟨_, _, .notEmpty mode listing⟩
      | nil =>
        cases file : c.seedFile with
        | none => exact ⟨_, _, .noScript mode listing file⟩
        | some path =>
          cases text : t.readText path with
          | error error => exact ⟨_, _, .unread mode listing file text⟩
          | ok script =>
            rcases e.readsAll_or_fails (earlier ++ [showTables]) (Script.split script) with
              hall | ⟨before, failing, behind, message, statements, hall, hfails⟩
            · exact ⟨_, _, .seeded mode listing file text hall⟩
            · exact ⟨_, _, .broken mode listing file text statements hall hfails⟩

section Gives

variable {path : Files.Path} {script : String} {executed : List String}

/-- Nothing is asked of the engine for a database that is opened for reading only. -/
theorem seedDatabase_readOnly (mode : c.readOnly = true) :
    Session.Gives (Machine.seedDatabase c service t) earlier (.ok .readOnly) [] := by
  rw [Machine.seedDatabase, if_pos mode]
  exact .pure _ _

/-- Otherwise the tables are listed first. -/
theorem seedDatabase_listing (mode : c.readOnly = false) {result : Except Problem Outcome}
    (h : Session.Gives
      (match service.engine.result earlier showTables with
        | .error failure => pure (.error (.catalog failure))
        | .ok (_ :: _) => pure (.ok .notEmpty)
        | .ok [] =>
          match c.seedFile with
          | none => pure (.ok .noScript)
          | some path => Machine.runScript service path t)
      (earlier ++ [showTables]) result executed) :
    Session.Gives (Machine.seedDatabase c service t) earlier result (showTables :: executed) := by
  rw [Machine.seedDatabase, if_neg (by simp [mode])]
  exact Session.Gives.bind (service.engine.query_gives earlier showTables) h

/-- A script is run if it can be read. -/
theorem seedDatabase_script (mode : c.readOnly = false)
    (listing : service.engine.Reads earlier showTables []) (file : c.seedFile = some path)
    (text : t.readText path = .ok script) {ran : Except Problem Unit}
    (h : Session.Gives (Machine.runStatements service 1 (Script.split script))
      (earlier ++ [showTables]) ran executed) :
    Session.Gives (Machine.seedDatabase c service t) earlier
      (ran.map fun () => .seeded (Script.split script).length) (showTables :: executed) := by
  refine seedDatabase_listing mode ?_
  rw [Engine.result_eq_ok_iff.mpr listing, file]
  simp only [Machine.runScript, text]
  exact (h.map _).after_log

end Gives

/-- Seeding does what the way says. -/
theorem Seeds.gives {result : Except Problem Outcome} {executed : List String}
    (h : Seeds c service.engine t earlier result executed) :
    Session.Gives (Machine.seedDatabase c service t) earlier result executed := by
  cases h with
  | readOnly mode => exact seedDatabase_readOnly mode
  | unlisted mode fails =>
    refine seedDatabase_listing mode ?_
    rw [Engine.result_eq_error_iff.mpr ⟨_, fails, rfl⟩]
    exact .pure _ _
  | notEmpty mode listing =>
    refine seedDatabase_listing mode ?_
    rw [Engine.result_eq_ok_iff.mpr listing]
    exact .pure _ _
  | noScript mode listing file =>
    refine seedDatabase_listing mode ?_
    rw [Engine.result_eq_ok_iff.mpr listing, file]
    exact .pure _ _
  | unread mode listing file text =>
    refine seedDatabase_listing mode ?_
    rw [Engine.result_eq_ok_iff.mpr listing, file]
    simp only [Machine.runScript, text]
    exact .pure _ _
  | broken mode listing file text statements reads fails =>
    have hran := runStatements_fails 1 statements reads fails
    rw [Nat.add_comm] at hran
    exact seedDatabase_script mode listing file text hran
  | seeded mode listing file text reads =>
    exact seedDatabase_script mode listing file text (runStatements_all 1 reads)

/-! ## All three steps -/

/-- How a startup ends that nothing came before, and which statements it executes. -/
inductive Starts (opener : Opener) (c : Config) (t : Files.Tree) :
    Except Problem Service → List String → Prop
  /-- The directory of the database cannot be made. -/
  | unprepared {problem : Problem} (directory : (Machine.prepare c t).1 = .error problem) :
      Starts opener c t (.error problem) []
  | unopened {message : String} (directory : (Machine.prepare c t).1 = .ok ())
      (opened : opener c.dbPath c.readOnly = .error message) :
      Starts opener c t (.error (.database c.dbPath message)) []
  | unseeded {engine : Engine} {problem : Problem} {executed : List String}
      (directory : (Machine.prepare c t).1 = .ok ())
      (opened : opener c.dbPath c.readOnly = .ok engine)
      (seeding : Seeds c engine (Machine.prepare c t).2 [] (.error problem) executed) :
      Starts opener c t (.error problem) executed
  | started {engine : Engine} {outcome : Outcome} {executed : List String}
      (directory : (Machine.prepare c t).1 = .ok ())
      (opened : opener c.dbPath c.readOnly = .ok engine)
      (seeding : Seeds c engine (Machine.prepare c t).2 [] (.ok outcome) executed) :
      Starts opener c t (.ok ⟨engine, c.dbPath, c.readOnly⟩) executed

/-- A startup ends in one of the ways. -/
theorem exists_starts (opener : Opener) (c : Config) (t : Files.Tree) :
    ∃ result executed, Starts opener c t result executed := by
  cases directory : (Machine.prepare c t).1 with
  | error problem => exact ⟨_, _, .unprepared directory⟩
  | ok =>
    cases opened : opener c.dbPath c.readOnly with
    | error message => exact ⟨_, _, .unopened directory opened⟩
    | ok engine =>
      obtain ⟨result, executed, seeding⟩ := exists_seeds c engine (Machine.prepare c t).2 []
      cases result with
      | error problem => exact ⟨_, _, .unseeded directory opened seeding⟩
      | ok outcome => exact ⟨_, _, .started directory opened seeding⟩

/-- All three steps in one. -/
theorem start_eq (opener : Opener) (c : Config) (t : Files.Tree) :
    start opener c t = (do
      match Machine.prepare c t with
      | (.error problem, t) => pure (.error problem, t)
      | (.ok (), t) =>
        match ← opener.connect c.dbPath c.readOnly with
        | .error message => pure (.error (.database c.dbPath message), t)
        | .ok engine =>
          Session.log .stageChanged
          match ← Machine.seedDatabase c ⟨engine, c.dbPath, c.readOnly⟩ t with
          | .error problem => pure (.error problem, t)
          | .ok _ =>
            Session.log .seedingDone
            Session.log .stageChanged
            pure (.ok ⟨engine, c.dbPath, c.readOnly⟩, t)) := by
  unfold start Machine.openDatabase
  obtain ⟨made, t⟩ := Machine.prepare c t
  cases made with
  | error problem => rfl
  | ok =>
    simp only [bind_assoc]
    congr 1
    funext opened
    cases opened with
    | error message => rfl
    | ok engine =>
      simp only [Machine.advance, Machine.seed, bind_assoc, pure_bind]
      congr 1
      funext _
      congr 1
      funext seeded
      cases seeded <;> rfl

/-- Opening asks the opener, which is no statement. -/
theorem connect_gives (opener : Opener) (path : Files.Path) (readOnly : Bool)
    (earlier : List String) :
    Session.Gives (opener.connect path readOnly) earlier (opener path readOnly) [] := by
  refine Session.Leaves.gives ((Plain.connect_leaves opener path readOnly).mono ?_) earlier
  rintro opened k ⟨rfl, rfl⟩
  cases opener path readOnly <;> exact ⟨rfl, rfl⟩

/-- Once the database is open, a startup ends as seeding does. -/
theorem start_opened_gives {opener : Opener} {engine : Engine} {seeded : Except Problem Outcome}
    {executed : List String} (directory : (Machine.prepare c t).1 = .ok ())
    (opened : opener c.dbPath c.readOnly = .ok engine)
    (seeding : Session.Gives
      (Machine.seedDatabase c ⟨engine, c.dbPath, c.readOnly⟩ (Machine.prepare c t).2) [] seeded
      executed) :
    Session.Gives (start opener c t) []
      (seeded.map fun _ => ⟨engine, c.dbPath, c.readOnly⟩, (Machine.prepare c t).2) executed := by
  have hconnect := connect_gives opener c.dbPath c.readOnly []
  rw [opened] at hconnect
  rw [start_eq, ← Prod.eta (Machine.prepare c t), directory]
  refine hconnect.after (Session.Gives.after_log (seeding.before ?_))
  cases seeded with
  | error problem => exact .pure _ _
  | ok outcome => exact Session.Gives.after_log (Session.Gives.after_log (.pure _ _))

/-- A startup does what the way says, and of the files it changes the directory only. -/
theorem Starts.gives {opener : Opener} {result : Except Problem Service} {executed : List String}
    (h : Starts opener c t result executed) :
    Session.Gives (start opener c t) [] (result, (Machine.prepare c t).2) executed := by
  cases h with
  | unprepared directory =>
    rw [start_eq, ← Prod.eta (Machine.prepare c t), directory]
    exact .pure _ _
  | unopened directory opened =>
    have hconnect := connect_gives opener c.dbPath c.readOnly []
    rw [opened] at hconnect
    rw [start_eq, ← Prod.eta (Machine.prepare c t), directory]
    exact hconnect.after (.pure _ _)
  | unseeded directory opened seeding => exact start_opened_gives directory opened seeding.gives
  | started directory opened seeding => exact start_opened_gives directory opened seeding.gives

end Startup

end GraphGateway
