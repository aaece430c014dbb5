/-
What a service that is handed out says about seeding.

A seeding that fails leaves the startup where it was, so that it can be asked for again, and the
next one may find tables that the failed one has made and take the database for one that needs no
seeding. The last step looks at the stage alone. Hence a service is handed out when the last seeding
succeeded, whatever became of those before it (`Run.serves_iff`): no seeding has failed exactly when
there was no more than one. Taking all three steps at once asks for one only (`start_run`).
-/
import GraphGateway.Proofs.Startup.Order

namespace GraphGateway.Startup

variable {c : Config}

/-! ## Seedings -/

namespace Move

/-- A call that seeds the database: the step is asked for at its own stage. -/
def IsSeeding (m : Move) : Prop := m.call.step = .seed ∧ m.before.stage = .seeding

instance : DecidablePred IsSeeding := fun m =>
  inferInstanceAs (Decidable (m.call.step = .seed ∧ m.before.stage = .seeding))

def Failed (m : Move) : Prop := ∃ failure, m.answer.result = .error failure

/-- What the call says about seeding, if it succeeds. -/
def outcome? (m : Move) : Option Outcome :=
  match m.answer.result with
  | .ok (.seeded outcome) => some outcome
  | _ => none

theorem failed_iff {m : Move} : m.Failed ↔ m.answer.result.toBool = false := by
  unfold Failed
  cases m.answer.result <;> simp [Except.toBool]

theorem outcome?_eq_some_iff {m : Move} {outcome : Outcome} :
    m.outcome? = some outcome ↔ m.answer.result = .ok (.seeded outcome) := by
  unfold outcome?
  split <;> simp_all

/-- A call that hands out a service. -/
def Serves (m : Move) : Prop := ∃ service, m.answer.result = .ok (.service service)

end Move

/-- The seedings of a run, oldest first. -/
def seedings (moves : List Move) : List Move := moves.filter (·.IsSeeding)

/-- All seedings but the last failed, and the last did not. -/
def SettledBy (seeded : List Move) : Prop :=
  ∃ failures last, seeded = failures ++ [last] ∧ (∀ s ∈ failures, s.Failed) ∧ ¬last.Failed

/-- What the stage says about the seedings so far. -/
def Plain.Seeded (p : Plain) (seeded : List Move) : Prop :=
  match p.stage with
  | .uninitialized => seeded = []
  | .seeding => ∀ s ∈ seeded, s.Failed
  | .ready => SettledBy seeded

theorem SettledBy.no_failures_iff {seeded : List Move} (h : SettledBy seeded) :
    (∀ s ∈ seeded, ¬s.Failed) ↔ seeded.length = 1 := by
  obtain ⟨failures, last, rfl, hfailed, hlast⟩ := h
  rw [List.length_append, List.length_singleton]
  constructor
  · intro hnone
    cases failures with
    | nil => rfl
    | cons s failures =>
      have hs := hfailed s List.mem_cons_self
      exact absurd hs (hnone s (by simp))
  · intro hone
    have hnil : failures = [] := List.eq_nil_of_length_eq_zero (by omega)
    subst hnil
    simpa using hlast

theorem seedings_append (moves : List Move) (m : Move) :
    seedings (moves ++ [m]) = seedings moves ++ if m.IsSeeding then [m] else [] := by
  by_cases h : m.IsSeeding <;> simp [seedings, h]

theorem Plain.seeded_seeding_iff {p : Plain} (h : p.stage = .seeding) {seeded : List Move} :
    p.Seeded seeded ↔ ∀ s ∈ seeded, s.Failed := by
  rw [Seeded, h]

/-! ## One call -/

/-- What the stage says about the seedings, it says again after a call. -/
theorem Move.seeded {m : Move} (held : m.before.Held) {moves : List Move}
    (h : m.before.Seeded (seedings moves)) :
    ∀ p, m.answer.left = some p → p.Seeded (seedings (moves ++ [m])) := by
  intro p hp
  have heffect := m.effect held
  have hfailed : m.Failed ↔ ∃ failure, m.answer.result = .error failure := Iff.rfl
  have hseeding : m.IsSeeding ↔ m.call.step = .seed ∧ m.before.stage = .seeding := Iff.rfl
  rw [seedings_append]
  generalize m.trail = k at heffect
  generalize m.answer = answer at hp heffect hfailed
  generalize m.call = call at heffect hseeding
  cases heffect with
  | refused hstage =>
    have hnot : ¬m.IsSeeding := by
      rw [hseeding]
      rintro ⟨hstep, hseeding⟩
      exact hstage (by rw [hseeding, hstep]; rfl)
    rw [if_neg hnot, List.append_nil]
    cases call <;> cases hp <;> exact h
  | unprepared | unconnected =>
    have hnot : ¬m.IsSeeding := fun hs => by cases (hseeding.mp hs).1
    rw [if_neg hnot, List.append_nil]
    cases hp
    exact h
  | connected hstage =>
    have hnot : ¬m.IsSeeding := fun hs => by cases (hseeding.mp hs).1
    rw [Plain.Seeded, hstage] at h
    rw [if_neg hnot, List.append_nil, h]
    cases hp
    exact fun s hs => by cases hs
  | unseeded hstage =>
    have hall := (Plain.seeded_seeding_iff hstage).mp h
    have hm : m.Failed := hfailed.mpr ⟨_, rfl⟩
    rw [if_pos (hseeding.mpr ⟨rfl, hstage⟩)]
    cases hp
    rw [Plain.seeded_seeding_iff hstage]
    intro s hs
    rcases List.mem_append.mp hs with hearlier | hlast
    · exact hall s hearlier
    · rwa [List.mem_singleton.mp hlast]
  | seeded hstage =>
    have hall := (Plain.seeded_seeding_iff hstage).mp h
    have hm : ¬m.Failed := by
      rw [hfailed]
      rintro ⟨failure, hfailure⟩
      cases hfailure
    rw [if_pos (hseeding.mpr ⟨rfl, hstage⟩)]
    cases hp
    exact ⟨_, m, rfl, hall, hm⟩
  | finished => cases hp

/-- The last step hands out a service at its own stage, and only there. -/
theorem Move.serves_iff {m : Move} (held : m.before.Held) (hm : m.call = .finish) :
    m.Serves ↔ m.before.stage = .ready := by
  constructor
  · rintro ⟨service, hservice⟩
    have htaken := ((m.effect held).taken hservice).1
    rwa [hm] at htaken
  · intro hstage
    have heffect := m.effect held
    unfold Serves
    generalize m.trail = k at heffect
    generalize m.answer = answer at heffect ⊢
    rw [hm] at heffect
    cases heffect with
    | refused hrefused => exact absurd hstage hrefused
    | @finished service _ _ => exact ⟨service, rfl⟩

/-! ## Runs -/

namespace Run

variable {moves : List Move} {left : Option Plain}

/-- All along a run the stage says what has become of the seedings. -/
theorem seeded (h : Run c moves left) : ∀ p, left = some p → p.Seeded (seedings moves) := by
  induction h with
  | start =>
    rintro p ⟨⟩
    rfl
  | move m before ih => exact Move.seeded (before.held m.before rfl) (ih m.before rfl)

/-- A service is handed out when the last seeding succeeded, whatever became of those before it. -/
theorem serves_iff {m : Move} (h : Run c moves (some m.before)) (hm : m.call = .finish) :
    m.Serves ↔ SettledBy (seedings moves) := by
  have hseeded := h.seeded m.before rfl
  rw [Move.serves_iff (h.held m.before rfl) hm]
  constructor
  · intro hstage
    rwa [Plain.Seeded, hstage] at hseeded
  · rintro ⟨failures, last, heq, hfailed, hlast⟩
    unfold Plain.Seeded at hseeded
    split at hseeded
    · rw [heq] at hseeded
      exact absurd hseeded (by simp)
    · refine absurd (hseeded last ?_) hlast
      rw [heq]
      simp
    · assumption

end Run

/-! ## All three steps at once -/

/-- A call on a running startup. -/
def Machine.move (m : Machine) (call : Call) (t : Files.Tree) (j : Journal) : Move :=
  ⟨m.plain, call, t, j⟩

theorem Machine.move_answer (m : Machine) (call : Call) (t : Files.Tree) (j : Journal) :
    (m.move call t j).answer = Answer.map Machine.plain ((m.take t call).run j).1 := by
  show ((m.plain.take t call).run j).1 = _
  rw [take_plain, StateT.run_map]
  rfl

/-- What is handed out by taking all three steps is handed out by a run with one seeding. -/
theorem start_run {opener : Opener} {t : Files.Tree} {j : Journal} {service : Service}
    (h : ((start opener c t).run j).1.1 = .ok service) :
    ∃ (moves : List Move) (m : Move), Run c moves (some m.before) ∧ m.call = .finish ∧
      m.answer.result = .ok (.service service) ∧ (seedings moves).length = 1 := by
  let first : Machine := ⟨c, .uninitialized⟩
  unfold start at h
  rcases hopen : (first.openDatabase opener t).run j with ⟨⟨opened, second, t'⟩, j'⟩
  rw [StateT.run_bind, hopen] at h
  cases opened with
  | error problem => cases h
  | ok =>
    rcases hseed : (second.seed t').run j' with ⟨⟨seeded, third⟩, j''⟩
    change (StateT.run (m := Id) (α := Except Problem Service × Files.Tree) (second.seed t' >>= _)
      j').1.1 = Except.ok service at h
    rw [StateT.run_bind, hseed] at h
    cases seeded with
    | error problem => cases h
    | ok outcome =>
      have hfinish : third.finish = .ok service := h
      have hopened := first.move_answer (.connect opener) t j
      have hseeded := second.move_answer .seed t' j'
      have hfinished := third.move_answer .finish t' j''
      simp only [Machine.take, StateT.run_bind, hopen] at hopened
      simp only [Machine.take, StateT.run_bind, hseed] at hseeded
      simp only [Machine.take, hfinish] at hfinished
      have hfirst : (first.move (.connect opener) t j).answer.left = some second.plain := by
        rw [hopened]
        rfl
      have hsecond : (second.move .seed t' j').answer.left = some third.plain := by
        rw [hseeded]
        rfl
      have hresult : (second.move .seed t' j').answer.result = .ok (.seeded outcome) := by
        rw [hseeded]
        rfl
      have hstage : second.plain.stage = .seeding :=
        (((second.move .seed t' j').effect second.plain_held).taken hresult).1
      have hrun : Run c [first.move (.connect opener) t j] (some second.plain) := by
        rw [← hfirst]
        exact .move (first.move (.connect opener) t j) .start
      have hrun' : Run c [first.move (.connect opener) t j, second.move .seed t' j']
          (some third.plain) := by
        rw [← hsecond]
        exact .move (second.move .seed t' j') hrun
      refine ⟨_, third.move .finish t' j'', hrun', rfl, ?_, ?_⟩
      · rw [hfinished]
        rfl
      · have hone : seedings [first.move (.connect opener) t j, second.move .seed t' j'] =
            [second.move .seed t' j'] := by
          have hnot : ¬(first.move (.connect opener) t j).IsSeeding := fun hs => by cases hs.1
          have hyes : (second.move .seed t' j').IsSeeding := ⟨rfl, hstage⟩
          simp [seedings, hnot, hyes]
        rw [hone]
        rfl

/-- **A service says that the last seeding succeeded, and no more.** In every run of a startup, the
last step hands out a service exactly if the seedings before it all failed but the last, which did
not. None of them failed exactly if there was only one. That is so whenever all three steps are
taken at once; a startup that is asked for another seeding after a failed one may hand out a service
all the same. -/
theorem served_iff_last_seeding {moves : List Move} {m : Move} (h : Run c moves (some m.before))
    (hm : m.call = .finish) :
    (m.Serves ↔ SettledBy (seedings moves)) ∧
    (m.Serves → ((∀ s ∈ seedings moves, ¬s.Failed) ↔ (seedings moves).length = 1)) ∧
    ∀ (opener : Opener) (t : Files.Tree) (j : Journal) (service : Service),
      ((start opener c t).run j).1.1 = .ok service →
      ∃ (taken : List Move) (last : Move), Run c taken (some last.before) ∧ last.call = .finish ∧
        last.answer.result = .ok (.service service) ∧ (seedings taken).length = 1 := by
  have hserves := h.serves_iff hm
  refine ⟨hserves, fun hs => (hserves.mp hs).no_failures_iff, fun _ _ _ _ => start_run⟩

/-- A run with one seeding behind one that was refused. -/
theorem served_iff_last_seeding_bare :
    Run bareConfig (bareMoves.take 5) (some bareMoves[5].before) ∧ bareMoves[5].call = .finish ∧
      bareMoves[5].Serves ∧ ∀ s ∈ seedings (bareMoves.take 5), ¬s.Failed := by
  have hrun : Run bareConfig (bareMoves.take 5) (some bareMoves[5].before) :=
    Run.start.move bareMoves[0] |>.move bareMoves[1] |>.move bareMoves[2] |>.move bareMoves[3]
      |>.move bareMoves[4]
  have hserves : bareMoves[5].Serves := ⟨bareService, rfl⟩
  obtain ⟨-, hnone, -⟩ := served_iff_last_seeding hrun rfl
  exact ⟨hrun, rfl, hserves, (hnone hserves).mpr rfl⟩

/-! ### A database that is served half seeded -/

/-- The statement that makes a table. -/
def createTable : String := "CREATE NODE TABLE T(id INT64, PRIMARY KEY(id));"

/-- A database in the working directory that is seeded from a script beside it. -/
def scriptedConfig : Config := ⟨⟨[0x64]⟩, false, some ⟨[0x73]⟩, "info"⟩

/-- The script: a table, and a row of it. -/
def scriptedTree : Files.Tree :=
  ⟨[], [([[0x73]], .file (Text.Utf8.encode (createTable ++ "\nCREATE (:T \x7bid: 1\x7d);")))]⟩

/-- An engine that lists the table once it has been made, and makes no rows. -/
def rowlessEngine : Engine where
  answer earlier statement :=
    if statement = Catalog.showTables then
      .ok { rows := if createTable ∈ earlier then [[("name", .string "T")]] else [] }
    else if statement = createTable then .ok { rows := [] }
    else .error "disk full"

def rowlessService : Service := ⟨rowlessEngine, scriptedConfig.dbPath, scriptedConfig.readOnly⟩

def scriptedMove (stage : Stage) (connection : Option Service) (call : Call) (j : Journal) : Move :=
  ⟨⟨scriptedConfig, stage, connection⟩, call, scriptedTree, j⟩

/-- What the journal holds after a call. -/
def Move.after (m : Move) : Journal := ((m.before.take m.tree m.call).run m.journal).2

def connecting : Move := scriptedMove .uninitialized none (.connect fun _ _ => .ok rowlessEngine) []

/-- The second statement of the script fails. -/
def failing : Move := scriptedMove .seeding (some rowlessService) .seed connecting.after

/-- The table is there already. -/
def skipping : Move := scriptedMove .seeding (some rowlessService) .seed failing.after

def finishing : Move := scriptedMove .ready (some rowlessService) .finish skipping.after

/-- A seeding fails, the next one takes the database for one that needs none, and the service is
handed out. -/
theorem served_half_seeded :
    Run scriptedConfig [connecting, failing, skipping] (some finishing.before) ∧
      failing ∈ seedings [connecting, failing, skipping] ∧ failing.Failed ∧
      skipping.outcome? = some .notEmpty ∧ finishing.call = .finish ∧ finishing.Serves := by
  have hfailed : failing.Failed := Move.failed_iff.mpr (by decide +kernel)
  have hskipped : skipping.outcome? = some .notEmpty := by decide +kernel
  have hopened : Run scriptedConfig [connecting] (some failing.before) := Run.start.move connecting
  have hretried : Run scriptedConfig [connecting, failing] (some skipping.before) := by
    obtain ⟨failure, hresult⟩ := hfailed
    have hleft := ((failing.effect (hopened.held _ rfl)).failed hresult).1
    have hrun := hopened.move failing
    rwa [hleft] at hrun
  have hready : Run scriptedConfig [connecting, failing, skipping] (some finishing.before) := by
    have hresult := Move.outcome?_eq_some_iff.mp hskipped
    have hleft := ((skipping.effect (hretried.held _ rfl)).taken hresult).2
    have hrun := hretried.move skipping
    rwa [show skipping.answer.left = some finishing.before from hleft] at hrun
  refine ⟨hready, ?_, hfailed, hskipped, rfl, ?_⟩
  · simp [seedings, Move.IsSeeding, failing, scriptedMove, Call.step]
  · exact (Move.serves_iff (hready.held _ rfl) rfl).mpr rfl

end GraphGateway.Startup
