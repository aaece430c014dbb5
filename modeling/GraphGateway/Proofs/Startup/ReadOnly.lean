/-
A startup for reading only touches nothing.

The configuration is asked at three places whether the database is opened for reading only: before
its directory is made, when it is opened, and before it is seeded. What one call does is told first,
whatever the files, the engine and the opener are (`Plain.take_spares`); of a run nothing has to be
known but that the configuration stays the same and that the service that is held was made from it
(`Run.madeFrom`).
-/
import GraphGateway.Proofs.Startup.Seeding

namespace GraphGateway.Startup

variable {c : Config}

/-! ## One call -/

/-- What a call does and leaves that touches nothing: no file changes, no statement is executed, the
opener is asked for reading only, and there is nothing to seed. -/
structure Plain.Spares (p : Plain) (t : Files.Tree) (call : Call) (answer : Answer Plain)
    (k : Journal) : Prop where
  tree : answer.tree = t
  statements : k.statements = []
  openings : ∀ opening ∈ k.openings, opening = (p.config.dbPath, true)
  seeded : call.step = .seed → p.stage = .seeding → answer.result = .ok (.seeded .readOnly)

namespace Plain

variable {p : Plain} (t : Files.Tree)

theorem connect_spares (h : p.config.readOnly = true) (hs : p.stage = .uninitialized)
    (opener : Opener) : (p.take t (.connect opener)).Leaves (p.Spares t (.connect opener)) := by
  have he : p.expect .connect = .ok () := if_pos hs
  have hprepared : Machine.prepare p.config t = (.ok (), t) := if_pos h
  simp only [take, openDatabase, he, hprepared, bind_assoc]
  refine (connect_leaves opener p.config.dbPath p.config.readOnly).bind ?_
  rintro opened k ⟨-, rfl⟩
  cases opened with
  | error message => exact .pure ⟨rfl, rfl, by simp [Journal.openings, Except.toBool, h],
    by rintro ⟨⟩⟩
  | ok engine =>
    exact .after (.pure ⟨rfl, rfl, by simp [Journal.openings, Except.toBool, h], by rintro ⟨⟩⟩)

theorem seed_spares (held : p.Held) (h : p.config.readOnly = true) (hs : p.stage = .seeding) :
    (p.take t .seed).Leaves (p.Spares t .seed) := by
  obtain ⟨service, hservice⟩ := Option.isSome_iff_exists.mp (held.mpr (.inl hs))
  have he : p.expect .seed = .ok () := if_pos hs
  have hskipped : Machine.seedDatabase p.config service t = pure (.ok .readOnly) := if_pos h
  simp only [take, seed, he, hservice, hskipped, pure_bind, bind_assoc]
  exact .after (.after (.pure ⟨rfl, rfl, by rintro _ ⟨⟩, fun _ _ => rfl⟩))

theorem finish_spares : (p.take t .finish).Leaves (p.Spares t .finish) :=
  .pure ⟨rfl, rfl, by rintro _ ⟨⟩, by rintro ⟨⟩⟩

/-- A call with a configuration for reading only touches nothing. -/
theorem take_spares (held : p.Held) (h : p.config.readOnly = true) (call : Call) :
    (p.take t call).Leaves (p.Spares t call) := by
  by_cases hs : p.stage = call.step.stage
  · cases call with
    | connect opener => exact connect_spares t h hs opener
    | seed => exact seed_spares t held h hs
    | finish => exact finish_spares t
  · refine (refused_effect hs t).mono fun answer k heffect => ?_
    obtain ⟨rfl, rfl⟩ := heffect.refused_eq hs
    refine ⟨rfl, rfl, by rintro _ ⟨⟩, fun hseed hstage => absurd ?_ hs⟩
    rw [hstage, hseed]
    rfl

/-! ## Runs -/

/-- The startup has a configuration, and the service that it holds was made from that. -/
def MadeFrom (c : Config) (p : Plain) : Prop :=
  p.config = c ∧
    ∀ service, p.connection = some service → service.path = c.dbPath ∧ service.readOnly = c.readOnly

theorem Effect.madeFrom {t : Files.Tree} {call : Call} {answer : Answer Plain} {k : Journal}
    (h : Effect p t call answer k) (hp : p.MadeFrom c) :
    ∀ q, answer.left = some q → q.MadeFrom c := by
  intro q hq
  cases h with
  | refused => cases call <;> cases hq <;> exact hp
  | unprepared | unconnected | unseeded => cases hq; exact hp
  | connected =>
    cases hq
    obtain ⟨rfl, -⟩ := hp
    refine ⟨rfl, fun service hservice => ?_⟩
    cases hservice
    exact ⟨rfl, rfl⟩
  | seeded => cases hq; exact hp
  | finished => cases hq

end Plain

theorem Run.madeFrom {moves : List Move} {left : Option Plain} (h : Run c moves left) :
    ∀ p, left = some p → p.MadeFrom c := by
  induction h with
  | start => rintro p ⟨⟩; exact ⟨rfl, by rintro _ ⟨⟩⟩
  | move m before ih => exact (m.effect (before.held m.before rfl)).madeFrom (ih m.before rfl)

/-- A call in a run that touches nothing, whatever it finds. -/
structure Move.Spares (c : Config) (m : Move) : Prop where
  /-- Nothing is taken out of the journal. -/
  journal : ((m.before.take m.tree m.call).run m.journal).2 = m.journal ++ m.trail
  /-- No directory and no file is made or changed. -/
  tree : m.answer.tree = m.tree
  statements : m.trail.statements = []
  /-- The opener is asked for reading only. -/
  openings : ∀ opening ∈ m.trail.openings, opening = (c.dbPath, true)
  seeded : m.IsSeeding → m.answer.result = .ok (.seeded .readOnly)
  served : ∀ service, m.answer.result = .ok (.service service) →
    service.readOnly = true ∧ service.path = c.dbPath
  /-- The running startup does the same. -/
  running : ∃ machine : Machine, machine.plain = m.before ∧
    m.before.take m.tree m.call = Answer.map Machine.plain <$> machine.take m.tree m.call

theorem Move.spares {m : Move} (hc : c.readOnly = true) (held : m.before.Held)
    (hmade : m.before.MadeFrom c) : m.Spares c := by
  obtain ⟨hconfig, hservice⟩ := hmade
  have hread : m.before.config.readOnly = true := by rw [hconfig, hc]
  obtain ⟨hjournal, hspares⟩ := (Plain.take_spares m.tree held hread m.call).on m.journal
  refine ⟨hjournal, hspares.tree, hspares.statements, fun opening hopening => ?_,
    fun hseeding => hspares.seeded hseeding.1 hseeding.2, fun service hserved => ?_,
    (Move.orderly held).running⟩
  · rw [hspares.openings opening hopening, hconfig]
  · obtain ⟨-, hadvances⟩ := (Move.orderly held).taken _ hserved
    obtain ⟨hpath, hmode⟩ : service.path = c.dbPath ∧ service.readOnly = c.readOnly := by
      cases hcall : m.call with
      | finish =>
        rw [hcall] at hadvances
        exact hservice service hadvances.1
      | connect | seed =>
        rw [hcall] at hadvances
        exact hadvances.elim
    exact ⟨hmode.trans hc, hpath⟩

/-- **Startup for reading only touches nothing.** In every run, whatever the database, the script,
the files, the engine and the order of the calls: no call makes or changes a file or executes a
statement, openers are asked for reading only, seeding finds nothing to do, and a service that is
handed out is one for reading only at the configured path. -/
theorem read_only_spares (hc : c.readOnly = true) {moves : List Move} {left : Option Plain}
    (h : Run c moves left) : ∀ m ∈ moves, m.Spares c := by
  induction h with
  | start => rintro m ⟨⟩
  | move m before ih =>
    intro n hn
    rcases List.mem_append.mp hn with hn | hn
    · exact ih n hn
    · rw [List.mem_singleton.mp hn]
      exact Move.spares hc (before.held m.before rfl) (before.madeFrom m.before rfl)

/-! ### A run on an engine that answers nothing, without directory and script -/

def sealedConfig : Config :=
  ⟨Files.Path.ofString "none/db", true, some (Files.Path.ofString "none.cypher"), "info"⟩

def muteEngine : Engine := ⟨fun _ _ => .error "mute"⟩

def sealedMove (stage : Stage) (connection : Option Service) (call : Call) : Move :=
  ⟨⟨sealedConfig, stage, connection⟩, call, ⟨[], []⟩, []⟩

def sealedService : Service := ⟨muteEngine, sealedConfig.dbPath, true⟩

/-- The calls of the run; each is given what the one before it leaves. -/
def sealedMoves : List Move :=
  [sealedMove .uninitialized none .seed,
    sealedMove .uninitialized none (.connect fun _ _ => .ok muteEngine),
    sealedMove .seeding (some sealedService) .seed,
    sealedMove .ready (some sealedService) .finish]

theorem read_only_spares_sealed :
    sealedConfig.readOnly = true ∧ Run sealedConfig sealedMoves none ∧
      sealedMoves[2].IsSeeding ∧ sealedMoves[2].answer.result = .ok (.seeded .readOnly) ∧
      ∀ m ∈ sealedMoves, m.Spares sealedConfig := by
  have hrun : Run sealedConfig sealedMoves none :=
    Run.start.move sealedMoves[0] |>.move sealedMoves[1] |>.move sealedMoves[2]
      |>.move sealedMoves[3]
  have hspares := read_only_spares rfl hrun
  have hseeding : sealedMoves[2].IsSeeding := ⟨rfl, rfl⟩
  exact ⟨rfl, hrun, hseeding, (hspares _ (List.getElem_mem _)).seeded hseeding, hspares⟩

end GraphGateway.Startup
