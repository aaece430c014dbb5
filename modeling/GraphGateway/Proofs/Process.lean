/-
A process from its first step to its last line.

A process has a startup until that is finished, a service from then on, counters and files. It takes
steps of startup and uses its service, in any order; a step that comes after the last one and a use
that comes before there is a service are passed over. Whatever it does, it adds to the journal, and
what it adds is settled (`Process.run_settled`): every operation is made of statements that are run
to their end.
-/
import GraphGateway.Proofs.Engine.Cursors
import GraphGateway.Proofs.Startup.Order
import GraphGateway.Protocol.Stream

namespace GraphGateway

/-! ## Operations -/

structure Process where
  startup : Option Startup.Machine
  service : Option Service
  stats : Protocol.Stats := {}
  tree : Files.Tree

/-- A use of a service. -/
inductive Use where
  | query (statement : String)
  | schema
  | health (now : Calendar.Moment)
  /-- A line that a client sends. -/
  | line (now : Calendar.Moment) (text : String)
  | bytes (now : Calendar.Moment) (line : List UInt8)
  /-- Everything that a client sends. -/
  | serve (clock : Protocol.Clock) (source : Protocol.Source) (room : Option Nat)

inductive Operation where
  | step (call : Startup.Call)
  | use (use : Use)

/-- Uses a service; the counters are those of its server. -/
def Service.use (service : Service) (stats : Protocol.Stats) : Use → Session Protocol.Stats
  | .query statement => do
    let _ ← (service.query statement).run
    pure stats
  | .schema => do
    let _ ← service.schema.run
    pure stats
  | .health now => do
    let _ ← service.health now
    pure stats
  | .line now text => do
    let (_, stats) ← (Protocol.Server.handleText service now text).run stats
    pure stats
  | .bytes now line => do
    let (_, stats) ← (Protocol.Server.handleBytes service now line).run stats
    pure stats
  | .serve clock source room => do
    let (_, stats) ← (Protocol.Server.serve service clock source room).run stats
    pure stats

/-- The service that a step hands out. -/
def Startup.Answer.service? {α : Type} (a : Startup.Answer α) : Option Service :=
  match a.result with
  | .ok (.service service) => some service
  | _ => none

namespace Process

def operate (p : Process) : Operation → Session Process
  | .step call =>
    match p.startup with
    | none => pure p
    | some machine => do
      let answer ← machine.take p.tree call
      pure { p with
        startup := answer.left, service := answer.service?.or p.service, tree := answer.tree }
  | .use use =>
    match p.service with
    | none => pure p
    | some service => do
      let stats ← service.use p.stats use
      pure { p with stats := stats }

def run : Process → List Operation → Session Process
  | p, [] => pure p
  | p, operation :: operations => do
    let p ← p.operate operation
    run p operations

end Process

/-! ## Settling -/

variable {α β : Type}

abbrev Attempt.Settles (x : Attempt α) : Prop := Session.Settles x.run

namespace Attempt.Settles

theorem pure (a : α) : Settles (Pure.pure a) := Session.Settles.pure (Except.ok a)

theorem throw (f : Failure) : Settles (MonadExcept.throw f : Attempt α) :=
  Session.Settles.pure (Except.error f)

/-- What follows a failure does not come about. -/
theorem throw_bind (f : Failure) (g : α → Attempt β) :
    Settles (MonadExcept.throw f >>= g) := Session.Settles.pure (Except.error f)

theorem ofResult (r : Except Failure α) : Settles (Attempt.ofResult r) := Session.Settles.pure r

theorem lift {x : Session α} (hx : x.Settles) : Settles (ExceptT.lift x) :=
  hx.bind fun a => Session.Settles.pure (Except.ok a)

theorem bind {x : Attempt α} {f : α → Attempt β} (hx : Settles x) (hf : ∀ a, Settles (f a)) :
    Settles (x >>= f) := by
  rw [Settles, ExceptT.run_bind]
  refine Session.Settles.bind hx fun r => ?_
  cases r with
  | error f => exact Session.Settles.pure _
  | ok a => exact hf a

end Attempt.Settles

/-- Settles, whatever the counters are. -/
abbrev Protocol.Serving.Settles (x : Protocol.Serving α) : Prop :=
  ∀ stats, Session.Settles (x.run stats)

namespace Protocol.Serving.Settles

theorem pure (a : α) : Settles (Pure.pure a) := fun stats => Session.Settles.pure (a, stats)

theorem bind {x : Serving α} {f : α → Serving β} (hx : Settles x) (hf : ∀ a, Settles (f a)) :
    Settles (x >>= f) := by
  intro stats
  rw [StateT.run_bind]
  exact (hx stats).bind fun r => hf r.1 r.2

theorem lift {x : Session α} (hx : x.Settles) : Settles (StateT.lift x) := fun stats =>
  hx.bind fun a => Session.Settles.pure (a, stats)

theorem log (notice : Notice) : Settles (Serving.log notice) := lift (Session.Settles.log notice)

theorem modify (f : Stats → Stats) : Settles (modify f) := fun stats =>
  Session.Settles.pure ((), f stats)

end Protocol.Serving.Settles

/-! ### The catalog -/

namespace Catalog

theorem Listed.describe_settles (e : Engine) (l : Listed) : (l.describe e).Settles := by
  refine .bind (.query e _) fun rows => .bind (.ofResult _) fun properties => ?_
  cases l.kind with
  | entity => exact .pure _
  | relationship => exact .bind (.query e _) fun rows => .bind (.ofResult _) fun _ => .pure _

theorem describeAll_settles (e : Engine) (rows : List Row) : (describeAll e rows).Settles := by
  induction rows with
  | nil => exact .pure _
  | cons row rows ih =>
    unfold describeAll
    cases Entry.ofRow row with
    | nameless | «foreign» => exact .after_log ih
    | table l =>
      refine .bind (l.describe_settles e) fun described => ?_
      cases described with
      | ok table => exact .bind ih fun tables => .pure _
      | error f => exact .after_log ih

theorem Health.check_settles (e : Engine) (path : String) (readOnly : Bool)
    (now : Calendar.Moment) : (check e path readOnly now).Settles :=
  .bind (.query e _) fun _ => .after_log (.pure _)

end Catalog

theorem Engine.schema_settles (e : Engine) : e.schema.Settles :=
  .bind (.query e _) fun rows => .bind (.lift (Catalog.describeAll_settles e rows)) fun _ =>
    .bind (.lift (.log _)) fun _ => .pure _

/-! ### The server -/

namespace Protocol

theorem Tool.run_settles (service : Service) (now : Calendar.Moment) (members : Members)
    (t : Tool) : (t.run service now members).Settles := by
  cases t with
  | graphQuery =>
    exact .bind (.ofResult _) fun s => .bind (.query service.engine s) fun _ => .pure _
  | getSchema => exact .bind service.engine.schema_settles fun _ => .pure _
  | healthCheck =>
    exact .bind (.lift (Catalog.Health.check_settles service.engine _ _ now)) fun _ => .pure _
  | generateCypher => exact .bind (.ofResult _) fun _ => .pure _

theorem Tool.attempt_settles (service : Service) (now : Calendar.Moment) (members : Members)
    (t : Tool) : (t.attempt service now members).Settles :=
  .bind (.ofResult _) fun _ => t.run_settles service now members

theorem Tool.call_settles (service : Service) (now : Calendar.Moment) (name : String)
    (arguments : Json) : (Tool.call service now name arguments).Settles := by
  unfold Tool.call
  dsimp only
  by_cases hblank : Text.isAllBlank name = true
  · rw [if_pos hblank]
    exact .throw_bind _ _
  · rw [if_neg hblank]
    cases Tool.ofName? name with
    | none => exact .throw _
    | some tool =>
      refine .bind (.ofResult _) fun members => .lift (.after_log ?_)
      refine .bind (tool.attempt_settles service now members) fun outcome => ?_
      split
      · exact .pure _
      · exact .after_log (.pure _)

theorem Prompt.get_settles (service : Service) (name : String) (arguments : Json) :
    (Prompt.get service name arguments).Settles := by
  unfold Prompt.get
  dsimp only
  by_cases hblank : Text.isAllBlank name = true
  · rw [if_pos hblank]
    exact .throw_bind _ _
  · rw [if_neg hblank]
    cases Prompt.ofName? name with
    | none => exact .throw _
    | some prompt =>
      refine .bind (.ofResult _) fun members => .bind (.ofResult _) fun _ =>
        .bind (.lift (.log _)) fun _ => ?_
      cases prompt with
      | generateCypher => exact .bind service.engine.schema_settles fun _ => .pure _

namespace Server

variable (service : Service) (now : Calendar.Moment)

theorem callTool_settles (params : Json) : (callTool service now params).Settles := by
  unfold callTool
  cases requiredName .callTool "tool" params with
  | error f => exact .pure _
  | ok name =>
    refine .bind (.modify _) fun _ =>
      .bind (.lift (Tool.call_settles service now name _)) fun called => ?_
    cases called with
    | error f => exact .pure _
    | ok result =>
      dsimp only
      split
      · exact .bind (.modify _) fun _ => .pure _
      · exact .pure _

theorem getPrompt_settles (params : Json) : (getPrompt service params).Settles := by
  unfold getPrompt
  cases requiredName .getPrompt "prompt" params with
  | error f => exact .pure _
  | ok name =>
    refine .bind (.lift (Prompt.get_settles service name _)) fun got => ?_
    cases got with
    | error f => exact .pure _
    | ok result => exact .pure _

theorem perform_settles (params : Json) (method : Method) :
    (perform service now params method).Settles := by
  cases method with
  | handshake | ping | listTools | listPrompts => exact .pure _
  | callTool => exact callTool_settles service now params
  | getPrompt => exact getPrompt_settles service params

theorem handleRequest_settles (r : Request) : (handleRequest service now r).Settles := by
  refine .bind (.modify _) fun _ => .bind (.log _) fun _ => ?_
  split
  · exact .bind (.log _) fun _ => .pure _
  cases Method.ofName? r.method with
  | none => exact .bind (.modify _) fun _ => .pure _
  | some method =>
    refine .bind (perform_settles service now _ method) fun result => ?_
    cases result with
    | ok => exact .pure _
    | error => exact .bind (.modify _) fun _ => .bind (.log _) fun _ => .pure _

theorem rejectLine_settles (reason : String) : (rejectLine reason).Settles :=
  .bind (.modify _) fun _ => .bind (.log _) fun _ => .pure _

theorem handleText_settles (line : String) : (handleText service now line).Settles := by
  unfold handleText
  dsimp only
  split
  · exact .pure _
  · split
    · exact handleRequest_settles service now _
    · exact rejectLine_settles _

theorem handleBytes_settles (line : List UInt8) : (handleBytes service now line).Settles := by
  unfold handleBytes
  split
  · exact handleText_settles service now _
  · exact rejectLine_settles _

theorem answerLines_settles (atEnd : Option Failure) (room : Option Nat)
    (arrivals : List Arrival) : (answerLines service atEnd room arrivals).Settles := by
  induction arrivals generalizing room with
  | nil => exact .pure _
  | cons arrival arrivals ih =>
    refine .bind (handleBytes_settles service arrival.1 arrival.2) fun response => ?_
    cases response with
    | none => exact ih room
    | some response =>
      dsimp only
      split
      · exact .bind (ih _) fun _ => .pure _
      · exact .pure _

theorem serve_settles (clock : Clock) (source : Source) (room : Option Nat) :
    (serve service clock source room).Settles := by
  refine .bind (.log _) fun _ => .bind (answerLines_settles service _ room _) fun delivery => ?_
  split
  · exact .bind (.log _) fun _ => .pure _
  · exact .pure _

end Server

end Protocol

/-! ## Whole runs -/

theorem Service.use_settles (service : Service) (stats : Protocol.Stats) (u : Use) :
    (service.use stats u).Settles := by
  cases u with
  | query statement => exact .bind (.query service.engine statement) fun _ => .pure _
  | schema => exact .bind service.engine.schema_settles fun _ => .pure _
  | health now =>
    exact .bind (Catalog.Health.check_settles service.engine _ _ now) fun _ => .pure _
  | line now text =>
    exact .bind (Protocol.Server.handleText_settles service now text stats) fun _ => .pure _
  | bytes now line =>
    exact .bind (Protocol.Server.handleBytes_settles service now line stats) fun _ => .pure _
  | serve clock source room =>
    exact .bind (Protocol.Server.serve_settles service clock source room stats) fun _ => .pure _

namespace Startup

/-- Opening a database is not about cursors. -/
theorem Plain.Effect.settled {p : Plain} {t : Files.Tree} {call : Call} {answer : Answer Plain}
    {k : Journal} (h : Effect p t call answer k) : k.Settled := by
  cases h with
  | refused | unprepared | unconnected | connected | finished => rfl
  | unseeded _ hk | seeded _ hk => exact hk.settled

theorem Machine.take_settled (m : Machine) (t : Files.Tree) (call : Call) :
    (m.take t call).Leaves fun _ k => k.Settled := by
  have h := Plain.take_effect m.plain_held t call
  rw [m.take_plain t call] at h
  exact h.of_map fun _ _ effect => effect.settled

end Startup

namespace Process

theorem operate_settled (p : Process) (operation : Operation) :
    (p.operate operation).Leaves fun _ k => k.Settled := by
  cases operation with
  | step call =>
    unfold operate
    cases p.startup with
    | none => exact .pure rfl
    | some machine =>
      exact (machine.take_settled p.tree call).bind fun _ _ hk => .pure (hk.append rfl)
  | use u =>
    unfold operate
    cases p.service with
    | none => exact .pure rfl
    | some service =>
      exact Session.Leaves.bind (service.use_settles p.stats u) fun _ _ hk =>
        .pure (hk.settled.append rfl)

theorem run_settled (p : Process) (operations : List Operation) :
    (p.run operations).Leaves fun _ k => k.Settled := by
  induction operations generalizing p with
  | nil => exact .pure rfl
  | cons operation operations ih =>
    exact (p.operate_settled operation).bind fun p _ hk =>
      (ih p).mono fun _ _ hl => hk.append hl

end Process

/-- **Whatever a process does, with whatever engines, each cursor that a statement opens is released
once, before the next statement is executed; so at most one cursor is live at any moment, and none
is when an operation is over. A cursor under a guard is released when the guard is let go, and not
before, however often it is asked for rows.** -/
theorem cursors_released (p : Process) (operations : List Operation) (e : Engine)
    (statement : String) (pulls : Nat) (j : Journal) :
    (∃ k, ((p.run operations).run j).2 = j ++ k ∧ k.Settled ∧ k.opened = k.releases ∧
      (∀ l : Journal, l <+: k → l.releases ≤ l.opened ∧ l.opened ≤ l.releases + 1) ∧
      ∀ (l : Journal) (s : String) (opens : Bool), l ++ [.executed s opens] <+: k →
        l.opened = l.releases) ∧
    ∃ k, ((e.runStatement statement).run j).2 = j ++ k ∧ k.releases = 0 ∧
      ∀ guard, ((e.runStatement statement).run j).1 = .ok guard →
        ((guard.pulls pulls).run (j ++ k)).2 = j ++ k ∧
        ((do let (_, guard) ← guard.pulls pulls; guard.drop).run (j ++ k)).2 =
          j ++ k ++ [.released] := by
  obtain ⟨left, k, hk, settled⟩ := p.run_settled operations j
  have hjournal : ((p.run operations).run j).2 = j ++ k := by rw [hk]
  exact ⟨⟨k, hjournal, settled, settled.opened_eq, fun l => settled.live,
    fun l s opens => settled.none_live⟩, e.guard_released statement j pulls⟩

end GraphGateway
