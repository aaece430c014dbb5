/-
Startup keeps to the order of its steps.

The running startup carries its connection inside its progress, so that a stage without its
connection cannot be written down. Here stage and connection are kept apart (`Plain`): every step
tests the one, looks for the other and has a failure of its own for the case that the two do not go
together. Both startups answer every call alike (`Machine.take_plain`).

`Plain.Effect` lists what a call can come to where stage and connection go together, and
`Plain.take_effect` says that the list is complete. All else is read off it: that they still go
together afterwards, that no step is taken at another stage, that a step which fails changes
nothing, and, over a run, that no second database is opened (`Run.orderly`). Between two calls of a
run anything may happen to the files and to the journal.
-/
import GraphGateway.Proofs.Trail
import GraphGateway.Startup.Machine

namespace GraphGateway.Startup

variable {c : Config} {t : Files.Tree}

/-! ## Calls -/

/-- A step that is asked for, with what it is given. -/
inductive Call where
  | connect (opener : Opener)
  | seed
  | finish

def Call.step : Call → Step
  | .connect _ => .connect
  | .seed => .seed
  | .finish => .finish

/-- What a step gives. -/
inductive Product where
  | connected
  | seeded (outcome : Outcome)
  | service (service : Service)

/-- What comes of a call. -/
structure Answer (α : Type) where
  result : Except Failure Product
  /-- The startup as it is left, if finishing has not consumed it. -/
  left : Option α
  tree : Files.Tree

def Answer.map {α β : Type} (f : α → β) (a : Answer α) : Answer β :=
  ⟨a.result, a.left.map f, a.tree⟩

/-- Takes a step. -/
def Machine.take (m : Machine) (t : Files.Tree) : Call → Session (Answer Machine)
  | .connect opener => do
    let (result, m, t) ← m.openDatabase opener t
    pure ⟨(result.map fun () => .connected).mapError Problem.toFailure, some m, t⟩
  | .seed => do
    let (result, m) ← m.seed t
    pure ⟨(result.map .seeded).mapError Problem.toFailure, some m, t⟩
  | .finish => pure ⟨(m.finish.map .service).mapError Problem.toFailure, none, t⟩

/-! ## Stage and connection apart -/

/-- A startup whose stage does not say whether there is a connection. -/
structure Plain where
  config : Config
  stage : Stage := .uninitialized
  connection : Option Service := none

/-- The message of the seeding step if it finds no connection. -/
def noConnection : String := "no connection to seed"

/-- The message of the last step if it finds no connection. -/
def withoutConnection : String := "ready without a connection"

namespace Plain

/-- Refuses a step that is asked for at another stage than its own. -/
def expect (p : Plain) (step : Step) : Except Failure Unit :=
  if p.stage = step.stage then .ok () else .error (Problem.outOfOrder step p.stage).toFailure

def openDatabase (opener : Opener) (p : Plain) (t : Files.Tree) :
    Session (Except Failure Unit × Plain × Files.Tree) := do
  match p.expect .connect with
  | .error failure => pure (.error failure, p, t)
  | .ok () =>
    match Machine.prepare p.config t with
    | (.error problem, t) => pure (.error problem.toFailure, p, t)
    | (.ok (), t) =>
      match ← opener.connect p.config.dbPath p.config.readOnly with
      | .error message =>
        pure (.error (Problem.database p.config.dbPath message).toFailure, p, t)
      | .ok engine =>
        let service : Service := ⟨engine, p.config.dbPath, p.config.readOnly⟩
        Session.log .stageChanged
        pure (.ok (), { p with stage := .seeding, connection := some service }, t)

def seed (p : Plain) (t : Files.Tree) : Session (Except Failure Outcome × Plain) := do
  match p.expect .seed with
  | .error failure => pure (.error failure, p)
  | .ok () =>
    match p.connection with
    | none => pure (.error (.startup noConnection), p)
    | some service =>
      match ← Machine.seedDatabase p.config service t with
      | .error problem => pure (.error problem.toFailure, p)
      | .ok outcome =>
        Session.log .seedingDone
        Session.log .stageChanged
        pure (.ok outcome, { p with stage := .ready })

def finish (p : Plain) : Except Failure Service :=
  match p.expect .finish with
  | .error failure => .error failure
  | .ok () =>
    match p.connection with
    | none => .error (.startup withoutConnection)
    | some service => .ok service

/-- Takes a step. -/
def take (p : Plain) (t : Files.Tree) : Call → Session (Answer Plain)
  | .connect opener => do
    let (result, p, t) ← p.openDatabase opener t
    pure ⟨result.map fun () => .connected, some p, t⟩
  | .seed => do
    let (result, p) ← p.seed t
    pure ⟨result.map .seeded, some p, t⟩
  | .finish => pure ⟨p.finish.map .service, none, t⟩

/-- A connection is held exactly while the database is seeded and from then on. -/
def Held (p : Plain) : Prop := p.connection.isSome ↔ p.stage = .seeding ∨ p.stage = .ready

end Plain

/-- The running startup with its stage and its connection apart. -/
def Machine.plain (m : Machine) : Plain := ⟨m.config, m.stage, m.progress.service?⟩

theorem Machine.plain_held (m : Machine) : m.plain.Held := by
  obtain ⟨c, progress⟩ := m
  cases progress <;> simp [Plain.Held, plain, stage, Progress.stage, Progress.service?]

/-- Where stage and connection go together, they are those of a running startup. -/
theorem Plain.Held.exists_machine {p : Plain} (h : p.Held) : ∃ m : Machine, m.plain = p := by
  obtain ⟨c, stage, connection⟩ := p
  cases stage <;> cases connection <;> simp [Plain.Held] at h
  case uninitialized.none => exact ⟨⟨c, .uninitialized⟩, rfl⟩
  case seeding.some service => exact ⟨⟨c, .seeding service⟩, rfl⟩
  case ready.some service => exact ⟨⟨c, .ready service⟩, rfl⟩

theorem Machine.openDatabase_plain (opener : Opener) (m : Machine) (t : Files.Tree) :
    m.plain.openDatabase opener t = (fun (result, m, t) =>
      (result.mapError Problem.toFailure, m.plain, t)) <$> m.openDatabase opener t := by
  obtain ⟨c, progress⟩ := m
  cases progress with
  | seeding | ready => rfl
  | uninitialized =>
    simp only [Plain.openDatabase, Machine.openDatabase, Machine.plain, Plain.expect, Machine.stage,
      Progress.stage, Step.stage, ↓reduceIte]
    obtain ⟨made, t⟩ := Machine.prepare c t
    cases made with
    | error => rfl
    | ok =>
      simp only [map_bind]
      congr 1
      funext opened
      cases opened with
      | error => rfl
      | ok => rfl

theorem Machine.seed_plain (m : Machine) (t : Files.Tree) :
    m.plain.seed t = (fun (result, m) =>
      (result.mapError Problem.toFailure, m.plain)) <$> m.seed t := by
  obtain ⟨c, progress⟩ := m
  cases progress with
  | uninitialized | ready => rfl
  | seeding service =>
    simp only [Plain.seed, Machine.seed, Machine.plain, Plain.expect, Machine.stage,
      Progress.stage, Progress.service?, Step.stage, ↓reduceIte, map_bind]
    congr 1
    funext seeded
    cases seeded with
    | error => rfl
    | ok => rfl

theorem Machine.finish_plain (m : Machine) :
    m.plain.finish = m.finish.mapError Problem.toFailure := by
  obtain ⟨c, progress⟩ := m
  cases progress <;> rfl

/-- Both startups answer every call alike. -/
theorem Machine.take_plain (m : Machine) (t : Files.Tree) (call : Call) :
    m.plain.take t call = Answer.map Machine.plain <$> m.take t call := by
  cases call with
  | connect opener =>
    simp only [Plain.take, Machine.take, Machine.openDatabase_plain, map_bind, bind_map_left]
    congr 1
    funext ⟨result, m, t⟩
    cases result <;> rfl
  | seed =>
    simp only [Plain.take, Machine.take, Machine.seed_plain, map_bind, bind_map_left]
    congr 1
    funext ⟨result, m⟩
    cases result <;> rfl
  | finish =>
    simp only [Plain.take, Machine.take, Machine.finish_plain, map_pure]
    cases m.finish <;> rfl

/-! ## What a call comes to -/

namespace Plain

/-- What is left by a call that changes nothing: finishing consumes the startup all the same. -/
def untouched (p : Plain) : Call → Option Plain
  | .finish => none
  | _ => some p

/-- A call of a step at its own stage, as far as stage and connection go together: what comes of it
and what it adds to the journal. -/
inductive Effect (p : Plain) (t : Files.Tree) : Call → Answer Plain → Journal → Prop
  | refused {call : Call} (h : p.stage ≠ call.step.stage) :
    Effect p t call ⟨.error (Problem.outOfOrder call.step p.stage).toFailure, p.untouched call, t⟩
      []
  | unprepared {opener : Opener} {problem : Problem} {t' : Files.Tree}
      (h : p.stage = .uninitialized) :
    Effect p t (.connect opener) ⟨.error problem.toFailure, some p, t'⟩ []
  | unconnected {opener : Opener} {message : String} {t' : Files.Tree}
      (h : p.stage = .uninitialized)
      (answered : opener p.config.dbPath p.config.readOnly = .error message) :
    Effect p t (.connect opener)
      ⟨.error (Problem.database p.config.dbPath message).toFailure, some p, t'⟩
      [.opening p.config.dbPath p.config.readOnly]
  | connected {opener : Opener} {engine : Engine} {t' : Files.Tree} (h : p.stage = .uninitialized)
      (answered : opener p.config.dbPath p.config.readOnly = .ok engine) :
    Effect p t (.connect opener)
      ⟨.ok .connected, some { p with
        stage := .seeding, connection := some ⟨engine, p.config.dbPath, p.config.readOnly⟩ }, t'⟩
      [.opening p.config.dbPath p.config.readOnly, .logged .databaseOpened, .logged .stageChanged]
  | unseeded {problem : Problem} {k : Journal} (h : p.stage = .seeding) (hk : k.Whole) :
    Effect p t .seed ⟨.error problem.toFailure, some p, t⟩ k
  | seeded {outcome : Outcome} {k : Journal} (h : p.stage = .seeding) (hk : k.Whole) :
    Effect p t .seed ⟨.ok (.seeded outcome), some { p with stage := .ready }, t⟩ k
  | finished {service : Service} (h : p.stage = .ready) (held : p.connection = some service) :
    Effect p t .finish ⟨.ok (.service service), none, t⟩ []

end Plain

namespace Machine

theorem runStatements_settles (service : Service) (statements : List String) :
    ∀ number, (runStatements service number statements).Settles := by
  induction statements with
  | nil => exact fun _ => .pure _
  | cons statement statements ih =>
    intro number
    refine (Session.Settles.query service.engine statement).bind fun result => ?_
    cases result with
    | error => exact .pure _
    | ok => exact ih (number + 1)

theorem runScript_settles (service : Service) (path : Files.Path) (t : Files.Tree) :
    (runScript service path t).Settles := by
  unfold runScript
  cases t.readText path with
  | error => exact .pure _
  | ok script =>
    exact .after_log ((runStatements_settles service _ 1).bind fun _ => .pure _)

theorem seedDatabase_settles (c : Config) (service : Service) (t : Files.Tree) :
    (seedDatabase c service t).Settles := by
  unfold seedDatabase
  split
  · exact .pure _
  · refine (Session.Settles.query service.engine Catalog.showTables).bind fun listing => ?_
    match listing with
    | .error _ => exact .pure _
    | .ok (_ :: _) => exact .pure _
    | .ok [] =>
      cases c.seedFile with
      | none => exact .pure _
      | some path => exact runScript_settles service path t

end Machine

namespace Plain

/-- Opening a database is an attempt in the journal, and a log message if it succeeds. -/
theorem connect_leaves (opener : Opener) (path : Files.Path) (readOnly : Bool) :
    (opener.connect path readOnly).Leaves fun opened k =>
      opened = opener path readOnly ∧
        k = .opening path readOnly :: if opened.toBool then [.logged .databaseOpened] else [] := by
  unfold Opener.connect
  refine .after ?_
  cases opener path readOnly with
  | error => exact .pure ⟨rfl, rfl⟩
  | ok => exact .after (.pure ⟨rfl, rfl⟩)

theorem connect_effect {p : Plain} (h : p.stage = .uninitialized) (t : Files.Tree)
    (opener : Opener) : (p.take t (.connect opener)).Leaves (Effect p t (.connect opener)) := by
  have he : p.expect .connect = .ok () := if_pos h
  simp only [take, openDatabase, he]
  obtain ⟨made, t'⟩ := Machine.prepare p.config t
  cases made with
  | error problem => exact .pure (.unprepared h)
  | ok =>
    simp only [bind_assoc]
    refine (connect_leaves opener p.config.dbPath p.config.readOnly).bind ?_
    rintro opened k ⟨answered, rfl⟩
    cases opened with
    | error message => exact .pure (.unconnected h answered.symm)
    | ok engine => exact .after (.pure (.connected h answered.symm))

theorem seed_effect {p : Plain} (held : p.Held) (h : p.stage = .seeding) (t : Files.Tree) :
    (p.take t .seed).Leaves (Effect p t .seed) := by
  obtain ⟨service, hs⟩ := Option.isSome_iff_exists.mp (held.mpr (.inl h))
  obtain ⟨c, stage, connection⟩ := p
  subst h hs
  simp only [take, seed, expect, Step.stage, ↓reduceIte, bind_assoc]
  refine Session.Leaves.bind (Machine.seedDatabase_settles c service t) fun seeded k hk => ?_
  cases seeded with
  | error problem => exact .pure (.unseeded rfl (hk.append .nil))
  | ok outcome =>
    exact .after (.after (.pure (.seeded rfl (hk.append (.log _ (.log _ .nil))))))

theorem finish_effect {p : Plain} (held : p.Held) (h : p.stage = .ready) (t : Files.Tree) :
    (p.take t .finish).Leaves (Effect p t .finish) := by
  have he : p.expect .finish = .ok () := if_pos h
  obtain ⟨service, hs⟩ := Option.isSome_iff_exists.mp (held.mpr (.inr h))
  simp only [take, finish, he, hs]
  exact .pure (.finished h hs)

theorem refused_effect {p : Plain} {call : Call} (h : p.stage ≠ call.step.stage)
    (t : Files.Tree) : (p.take t call).Leaves (Effect p t call) := by
  have he : p.expect call.step = .error (Problem.outOfOrder call.step p.stage).toFailure := if_neg h
  cases call with
  | connect opener =>
    simp only [take, openDatabase, show p.expect .connect = _ from he, pure_bind]
    exact .pure (.refused h)
  | seed =>
    simp only [take, seed, show p.expect .seed = _ from he, pure_bind]
    exact .pure (.refused h)
  | finish =>
    simp only [take, finish, show p.expect .finish = _ from he]
    exact .pure (.refused h)

/-- Where stage and connection go together, a call comes to one of the listed effects. -/
theorem take_effect {p : Plain} (held : p.Held) (t : Files.Tree) (call : Call) :
    (p.take t call).Leaves (Effect p t call) := by
  by_cases h : p.stage = call.step.stage
  · cases call with
    | connect opener => exact connect_effect h t opener
    | seed => exact seed_effect held h t
    | finish => exact finish_effect held h t
  · exact refused_effect h t

end Plain

/-! ## Messages -/

theorem head?_append {first : Char} {s t : String} (h : s.toList.head? = some first) :
    (s ++ t).toList.head? = some first := by
  rw [String.toList_append, List.head?_append, h]
  rfl

/-- Every problem is told by a sentence about a step, an attempt or a statement. -/
theorem Problem.head?_message (problem : Problem) :
    ∃ first ∈ ['c', 'f', 's'], problem.message.toList.head? = some first := by
  cases problem with
  | outOfOrder =>
    refine ⟨'c', by decide, ?_⟩
    unfold message
    repeat with_reducible apply head?_append
    rfl
  | statement =>
    refine ⟨'s', by decide, ?_⟩
    unfold message
    repeat with_reducible apply head?_append
    rfl
  | directory | database | catalog | script =>
    refine ⟨'f', by decide, ?_⟩
    unfold message
    repeat with_reducible apply head?_append
    rfl

/-- No problem is told as a stage without its connection. -/
theorem Problem.message_ne (problem : Problem) :
    problem.message ≠ noConnection ∧ problem.message ≠ withoutConnection := by
  obtain ⟨first, mem, head⟩ := problem.head?_message
  constructor
  · intro he
    rw [he, show noConnection.toList.head? = some 'n' from rfl] at head
    cases head
    revert mem
    decide
  · intro he
    rw [he, show withoutConnection.toList.head? = some 'r' from rfl] at head
    cases head
    revert mem
    decide

/-! ## What follows from the effects -/

/-- The databases that the opener that comes with a call is asked for, by the journal, and opens. -/
def Call.connected (k : Journal) : Call → List (Files.Path × Bool)
  | .connect opener => k.openings.filter fun (path, readOnly) => (opener path readOnly).toBool
  | _ => []

/-- What a call is to give and to leave if its step succeeds. -/
def Plain.Advances (p : Plain) (answer : Answer Plain) : Call → Product → Prop
  | .connect opener, .connected =>
    ∃ engine, opener p.config.dbPath p.config.readOnly = .ok engine ∧
      answer.left = some { p with
        stage := .seeding, connection := some ⟨engine, p.config.dbPath, p.config.readOnly⟩ }
  | .seed, .seeded _ => answer.left = some { p with stage := .ready }
  | .finish, .service service => p.connection = some service ∧ answer.left = none
  | _, _ => False

/-- How many databases may still be opened. -/
def Plain.unopened : Option Plain → Nat
  | some p => if p.stage = .uninitialized then 1 else 0
  | none => 0

namespace Plain.Effect

variable {p : Plain} {call : Call} {answer : Answer Plain} {k : Journal}

theorem held (h : Effect p t call answer k) (held : p.Held) :
    ∀ q, answer.left = some q → q.Held := by
  intro q hq
  cases h with
  | refused =>
    cases call <;> cases hq <;> exact held
  | unprepared | unconnected | unseeded => cases hq; exact held
  | connected => cases hq; simp [Held]
  | seeded h => cases hq; simpa [Held, h] using held
  | finished => cases hq

theorem taken (h : Effect p t call answer k) {product : Product}
    (hr : answer.result = .ok product) :
    p.stage = call.step.stage ∧ p.Advances answer call product := by
  cases h with
  | refused | unprepared | unconnected | unseeded => cases hr
  | connected h answered => cases hr; exact ⟨h, _, answered, rfl⟩
  | seeded h => cases hr; exact ⟨h, rfl⟩
  | finished h held => cases hr; exact ⟨h, held, rfl⟩

theorem refused_eq (h : Effect p t call answer k) (hs : p.stage ≠ call.step.stage) :
    answer = ⟨.error (Problem.outOfOrder call.step p.stage).toFailure, p.untouched call, t⟩ ∧
      k = [] := by
  cases h with
  | refused => exact ⟨rfl, rfl⟩
  | unprepared h | unconnected h | connected h | unseeded h | seeded h | finished h =>
    exact absurd h hs

theorem failed (h : Effect p t call answer k) {failure : Failure}
    (hr : answer.result = .error failure) :
    answer.left = p.untouched call ∧ ∃ problem : Problem, failure = problem.toFailure := by
  cases h with
  | refused | unprepared | unconnected | unseeded => cases hr; exact ⟨rfl, _, rfl⟩
  | connected | seeded | finished => cases hr

/-- Opening a database uses up what may still be opened, and nothing gives it back. -/
theorem connected_le (h : Effect p t call answer k) :
    (call.connected k).length + unopened answer.left ≤ unopened (some p) := by
  cases h with
  | refused =>
    cases call <;> simp [Call.connected, Journal.openings, untouched, unopened]
  | unprepared => simp [Call.connected, Journal.openings]
  | unconnected h answered =>
    simp [Call.connected, Journal.openings, answered, Except.toBool]
  | connected h answered =>
    simp [Call.connected, Journal.openings, answered, Except.toBool, unopened, h]
  | unseeded => simp [Call.connected]
  | seeded | finished => simp [Call.connected, unopened]

end Plain.Effect

/-! ## Runs -/

/-- A call in a run, with what it finds. -/
structure Move where
  before : Plain
  call : Call
  tree : Files.Tree
  journal : Journal

namespace Move

variable (m : Move)

def answer : Answer Plain := ((m.before.take m.tree m.call).run m.journal).1

/-- What the call adds to the journal. -/
def trail : Journal :=
  ((m.before.take m.tree m.call).run m.journal).2.drop m.journal.length

/-- The databases that the opener that comes with the call is asked for and opens. -/
def connected : List (Files.Path × Bool) := m.call.connected m.trail

/-- A call that keeps to the order of the steps. -/
structure Orderly : Prop where
  held : m.before.Held
  /-- Nothing is taken out of the journal. -/
  journal : ((m.before.take m.tree m.call).run m.journal).2 = m.journal ++ m.trail
  /-- A step succeeds at its own stage only, and leads to the next. -/
  taken : ∀ product, m.answer.result = .ok product →
    m.before.stage = m.call.step.stage ∧ m.before.Advances m.answer m.call product
  /-- At another stage nothing is done. -/
  refused : m.before.stage ≠ m.call.step.stage →
    m.answer = ⟨.error (Problem.outOfOrder m.call.step m.before.stage).toFailure,
      m.before.untouched m.call, m.tree⟩ ∧ m.trail = []
  /-- A step that fails leaves stage and connection as they were. -/
  failed : ∀ failure, m.answer.result = .error failure →
    m.answer.left = m.before.untouched m.call
  /-- Failures are failures to start, and never a stage without its connection. -/
  told : ∀ failure, m.answer.result = .error failure → ∃ message, failure = .startup message ∧
    message ≠ noConnection ∧ message ≠ withoutConnection
  /-- The running startup does the same. -/
  running : ∃ machine : Machine, machine.plain = m.before ∧
    m.before.take m.tree m.call = Answer.map Machine.plain <$> machine.take m.tree m.call

variable {m}

theorem effect (held : m.before.Held) : m.before.Effect m.tree m.call m.answer m.trail :=
  ((Plain.take_effect held m.tree m.call).on m.journal).2

theorem orderly (held : m.before.Held) : m.Orderly where
  held := held
  journal := ((Plain.take_effect held m.tree m.call).on m.journal).1
  taken _ hr := (m.effect held).taken hr
  refused hs := (m.effect held).refused_eq hs
  failed _ hr := ((m.effect held).failed hr).1
  told _ hr := by
    obtain ⟨-, problem, rfl⟩ := (m.effect held).failed hr
    exact ⟨problem.message, rfl, problem.message_ne⟩
  running := by
    obtain ⟨machine, hm⟩ := held.exists_machine
    exact ⟨machine, hm, hm ▸ machine.take_plain m.tree m.call⟩

end Move

/-- The calls of a run, oldest first, and the startup as they leave it, if it has not been consumed.
Each call finds the startup as the one before it has left it, and files and a journal whatever. -/
inductive Run (c : Config) : List Move → Option Plain → Prop
  | start : Run c [] (some { config := c })
  | move {moves : List Move} (m : Move) (before : Run c moves (some m.before)) :
    Run c (moves ++ [m]) m.answer.left

namespace Run

variable {moves : List Move} {left : Option Plain}

/-- Stage and connection go together all along. -/
theorem held (h : Run c moves left) : ∀ p, left = some p → p.Held := by
  induction h with
  | start => rintro p ⟨⟩; simp [Plain.Held]
  | move m _ ih => exact (m.effect (ih m.before rfl)).held (ih m.before rfl)

/-- No call gives back what an earlier one has used up. -/
theorem connected_le (h : Run c moves left) :
    (moves.flatMap Move.connected).length + Plain.unopened left ≤ 1 := by
  induction h with
  | start => exact Nat.le_refl 1
  | @move moves m before ih =>
    have step := (m.effect (before.held m.before rfl)).connected_le
    rw [List.flatMap_append, List.flatMap_singleton, List.length_append]
    calc _ = (moves.flatMap Move.connected).length +
            (m.connected.length + Plain.unopened m.answer.left) := Nat.add_assoc ..
      _ ≤ (moves.flatMap Move.connected).length + Plain.unopened (some m.before) :=
          Nat.add_le_add_left step _
      _ ≤ 1 := ih

theorem orderly_of_mem (h : Run c moves left) : ∀ m ∈ moves, m.Orderly := by
  induction h with
  | start => intro m hm; cases hm
  | move m before ih =>
    intro n hn
    rcases List.mem_append.mp hn with hn | hn
    · exact ih n hn
    · rw [List.mem_singleton.mp hn]
      exact Move.orderly (before.held m.before rfl)

end Run

/-- **In every run of a startup, whatever its openers, engines, files and order of calls, a
connection is held exactly while the database is seeded and from then on, at most one database is
opened, and every call keeps to the order of the steps.** -/
theorem steps_in_order {moves : List Move} {left : Option Plain} (h : Run c moves left) :
    (∀ p, left = some p → p.Held) ∧ (moves.flatMap Move.connected).length ≤ 1 ∧
      ∀ m ∈ moves, m.Orderly :=
  ⟨h.held, Nat.le_trans (Nat.le_add_right _ _) h.connected_le, h.orderly_of_mem⟩

/-! ### A run with an opener that fails, one that opens, and one that is not asked any more -/

/-- A database in the working directory, with nothing to seed it from. -/
def bareConfig : Config := ⟨⟨[0x64]⟩, false, none, "info"⟩

/-- An engine without tables. -/
def bareEngine : Engine := ⟨fun _ _ => .ok ⟨[], .exhausted, fun _ => .done⟩⟩

def bareService : Service := ⟨bareEngine, bareConfig.dbPath, bareConfig.readOnly⟩

/-- A call among no files. -/
def bareMove (stage : Stage) (connection : Option Service) (call : Call) : Move :=
  ⟨⟨bareConfig, stage, connection⟩, call, ⟨[], []⟩, []⟩

/-- The calls of the run; each is given what the one before it leaves. -/
def bareMoves : List Move :=
  [bareMove .uninitialized none (.connect fun _ _ => .error "locked"),
    bareMove .uninitialized none .seed,
    bareMove .uninitialized none (.connect fun _ _ => .ok bareEngine),
    bareMove .seeding (some bareService) (.connect fun _ _ => .ok bareEngine),
    bareMove .seeding (some bareService) .seed,
    bareMove .ready (some bareService) .finish]

theorem bareMoves_run : Run bareConfig bareMoves none :=
  Run.start.move bareMoves[0] |>.move bareMoves[1] |>.move bareMoves[2] |>.move bareMoves[3]
    |>.move bareMoves[4] |>.move bareMoves[5]

theorem steps_in_order_bare :
    Run bareConfig bareMoves none ∧ (bareMoves.flatMap Move.connected).length = 1 ∧
      ∀ m ∈ bareMoves, m.Orderly :=
  ⟨bareMoves_run, rfl, (steps_in_order bareMoves_run).2.2⟩

end GraphGateway.Startup
