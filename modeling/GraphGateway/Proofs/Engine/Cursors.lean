/-
Every cursor is released, once, before anything else is executed.

A journal is settled if, log messages and openings left aside, each statement that opened a cursor
is followed by one release and each that did not by none. Statements run to their end keep to this
(`Journal.Whole.settled`), so two settled journals in a row are settled; from it follows that at
every moment at most one cursor is live, that none is live when a statement is executed, and that
none is left at the end.

A cursor under a guard is released when the guard is let go, and not before, however often it has
been asked for rows (`guard_released`). Nothing is left out by telling a cursor by its rows and its
stop: whoever gives rows and then stops, whatever comes behind, is a cursor
(`Cursor.exists_pull_eq`).
-/
import GraphGateway.Proofs.Trail

namespace GraphGateway

/-! ## Settled journals -/

namespace Journal

/-- Whether an event is about a statement or a cursor. -/
def isAboutCursors : Event → Bool
  | .executed .. | .released => true
  | .opening .. | .logged _ => false

def cursorEvents (j : Journal) : Journal := j.filter isAboutCursors

/-- The statements that were executed and whether they opened a cursor, in order. -/
def executions (j : Journal) : List (String × Bool) :=
  j.filterMap fun
    | .executed statement opened => some (statement, opened)
    | _ => none

/-- How many cursors were opened. -/
def opened (j : Journal) : Nat := j.executions.countP (·.2)

/-- What becomes of the cursor of a statement, if it opens one. -/
def handled : String × Bool → Journal
  | (statement, true) => [.executed statement true, .released]
  | (statement, false) => [.executed statement false]

/-- Each statement that opened a cursor is followed by one release, and each that did not by
none. -/
def Settled (j : Journal) : Prop := j.cursorEvents = j.executions.flatMap handled

variable {j k p : Journal}

@[simp] theorem cursorEvents_append (j k : Journal) :
    cursorEvents (j ++ k) = cursorEvents j ++ cursorEvents k := List.filter_append ..

@[simp] theorem executions_append (j k : Journal) :
    executions (j ++ k) = executions j ++ executions k := List.filterMap_append ..

@[simp] theorem opened_append (j k : Journal) : opened (j ++ k) = opened j + opened k := by
  simp [opened]

@[simp] theorem opened_nil : opened [] = 0 := rfl

@[simp] theorem opened_executed (statement : String) (opens : Bool) (j : Journal) :
    opened (.executed statement opens :: j) = opens.toNat + opened j := by
  cases opens <;> simp [opened, executions, Nat.add_comm]

@[simp] theorem opened_released (j : Journal) : opened (.released :: j) = opened j := rfl

@[simp] theorem releases_nil : releases [] = 0 := rfl

@[simp] theorem releases_executed (statement : String) (opens : Bool) (j : Journal) :
    releases (.executed statement opens :: j) = releases j := by simp [releases]

@[simp] theorem releases_released (j : Journal) :
    releases (.released :: j) = releases j + 1 := by simp [releases]

/-- Only events about cursors are counted. -/
theorem opened_cursorEvents (j : Journal) : j.cursorEvents.opened = j.opened := by
  induction j with
  | nil => rfl
  | cons event j ih =>
    cases event with
    | executed statement opens =>
      show opened (.executed statement opens :: cursorEvents j) = _
      rw [opened_executed, opened_executed, ih]
    | released | opening | logged => exact ih

theorem releases_cursorEvents (j : Journal) : j.cursorEvents.releases = j.releases := by
  induction j with
  | nil => rfl
  | cons event j ih =>
    cases event with
    | executed statement opens =>
      show releases (.executed statement opens :: cursorEvents j) = _
      rw [releases_executed, releases_executed, ih]
    | released =>
      show releases (.released :: cursorEvents j) = _
      rw [releases_released, releases_released, ih]
    | opening | logged =>
      show releases (cursorEvents j) = _
      rw [ih]
      simp [releases]

theorem Settled.append (hj : Settled j) (hk : Settled k) : Settled (j ++ k) := by
  rw [Settled, cursorEvents_append, hj, hk, executions_append, List.flatMap_append]

/-- A statement run to its end has its cursor released. -/
theorem settled_trail (e : Engine) (earlier : List String) (statement : String) :
    Settled (e.trail earlier statement) := by
  unfold Engine.trail
  cases e.answer earlier statement <;> rfl

theorem Whole.settled (h : Whole k) : Settled k := by
  induction h with
  | nil => rfl
  | log notice _ ih => exact ih
  | statement e earlier statement _ ih => exact (settled_trail e earlier statement).append ih

/-! ### What it comes to -/

section Handled

variable {executions : List (String × Bool)} {statement : String} {opens : Bool}

@[simp] theorem opened_handled (execution : String × Bool) :
    opened (handled execution) = execution.2.toNat := by
  obtain ⟨statement, opens⟩ := execution
  cases opens <;> simp [handled]

@[simp] theorem releases_handled (execution : String × Bool) :
    releases (handled execution) = execution.2.toNat := by
  obtain ⟨statement, opens⟩ := execution
  cases opens <;> simp [handled]

/-- The beginnings of handled statements: nothing, a statement whose cursor is live, or a statement
done with and a beginning of what follows. -/
theorem prefix_handled_cases (h : p <+: handled (statement, opens) ++ k) :
    p = [] ∨ opens = true ∧ p = [.executed statement true] ∨
      ∃ q, p = handled (statement, opens) ++ q ∧ q <+: k := by
  cases opens with
  | false =>
    rcases List.prefix_cons_iff.mp h with rfl | ⟨q, rfl, hq⟩
    · exact .inl rfl
    · exact .inr (.inr ⟨q, rfl, hq⟩)
  | true =>
    rcases List.prefix_cons_iff.mp h with rfl | ⟨q, rfl, hq⟩
    · exact .inl rfl
    rcases List.prefix_cons_iff.mp hq with rfl | ⟨r, rfl, hr⟩
    · exact .inr (.inl ⟨rfl, rfl⟩)
    · exact .inr (.inr ⟨r, rfl, hr⟩)

theorem live_of_prefix_handled (h : p <+: executions.flatMap handled) :
    p.releases ≤ p.opened ∧ p.opened ≤ p.releases + 1 := by
  induction executions generalizing p with
  | nil => rw [List.prefix_nil.mp h]; decide
  | cons execution executions ih =>
    rcases prefix_handled_cases h with rfl | ⟨-, rfl⟩ | ⟨q, rfl, hq⟩
    · decide
    · simp
    · have hlive := ih hq
      simp only [opened_append, opened_handled, releases_append, releases_handled]
      omega

theorem none_live_of_prefix_handled
    (h : p ++ [.executed statement opens] <+: executions.flatMap handled) :
    p.opened = p.releases := by
  induction executions generalizing p with
  | nil => exact absurd (List.prefix_nil.mp h) (by simp)
  | cons execution executions ih =>
    obtain ⟨statement', opens'⟩ := execution
    rcases prefix_handled_cases ((List.prefix_append p _).trans h) with
      rfl | ⟨rfl, rfl⟩ | ⟨q, rfl, hq⟩
    · rfl
    · -- The cursor is live, so the next event about cursors is its release.
      have hnext := (List.cons_prefix_cons.mp h).2
      exact nomatch (List.cons_prefix_cons.mp hnext).1
    · rw [List.flatMap_cons, List.append_assoc, List.prefix_append_right_inj] at h
      simp [ih h]

theorem opened_flatMap_handled (executions : List (String × Bool)) :
    opened (executions.flatMap handled) = releases (executions.flatMap handled) := by
  induction executions with
  | nil => rfl
  | cons execution executions ih => simp [ih]

end Handled

namespace Settled

/-- At every moment at most one cursor is live, and none has been released twice. -/
theorem live (h : Settled k) (hp : p <+: k) :
    p.releases ≤ p.opened ∧ p.opened ≤ p.releases + 1 := by
  have hq : p.cursorEvents <+: k.cursorEvents := hp.filter isAboutCursors
  rw [h] at hq
  rw [← opened_cursorEvents p, ← releases_cursorEvents p]
  exact live_of_prefix_handled hq

/-- No cursor is live when a statement is executed. -/
theorem none_live (h : Settled k) {statement : String} {opens : Bool}
    (hp : p ++ [.executed statement opens] <+: k) : p.opened = p.releases := by
  have hq : cursorEvents (p ++ [.executed statement opens]) <+: k.cursorEvents :=
    hp.filter isAboutCursors
  rw [h, cursorEvents_append] at hq
  rw [← opened_cursorEvents p, ← releases_cursorEvents p]
  exact none_live_of_prefix_handled hq

/-- No cursor is left. -/
theorem opened_eq (h : Settled k) : k.opened = k.releases := by
  rw [← opened_cursorEvents k, ← releases_cursorEvents k, h, opened_flatMap_handled]

end Settled

end Journal

/-! ## Cursors that stop -/

namespace Engine

namespace Cursor

variable {answers : Nat → Pull} {call calls calls' : Nat}
  {outcome outcome' : Except String (List RawRow)}

theorem Drains.unique (h : Drains answers call outcome calls)
    (h' : Drains answers call outcome' calls') : outcome = outcome' ∧ calls = calls' := by
  induction h generalizing outcome' with
  | done h =>
    cases h' with
    | done => exact ⟨rfl, rfl⟩
    | failed h' | row h' => rw [h] at h'; cases h'
  | failed h =>
    cases h' with
    | failed h' => rw [h] at h'; cases h'; exact ⟨rfl, rfl⟩
    | done h' | row h' => rw [h] at h'; cases h'
  | row h _ ih =>
    cases h' with
    | row h' more =>
      rw [h] at h'
      cases h'
      obtain ⟨rfl, rfl⟩ := ih more
      exact ⟨rfl, rfl⟩
    | done h' | failed h' => rw [h] at h'; cases h'

theorem drains_iff (c : Cursor) :
    Drains c.pull 0 outcome calls ↔ outcome = c.drain ∧ calls = c.rows.length + 1 := by
  constructor
  · exact fun h => h.unique c.drains
  · rintro ⟨rfl, rfl⟩
    exact c.drains

/-- Whoever gives rows and then stops, whatever comes behind, is a cursor. -/
theorem exists_pull_eq (h : Drains answers call outcome calls) :
    ∃ c : Cursor, (∀ i, c.pull i = answers (call + i)) ∧ c.drain = outcome := by
  induction h with
  | @done call h =>
    refine ⟨⟨[], .exhausted, fun i => answers (call + 1 + i)⟩, fun i => ?_, rfl⟩
    cases i with
    | zero => exact h.symm
    | succ i => simp [Cursor.pull, Nat.add_assoc, Nat.add_comm 1 i]
  | @failed call message h =>
    refine ⟨⟨[], .failed message, fun i => answers (call + 1 + i)⟩, fun i => ?_, rfl⟩
    cases i with
    | zero => exact h.symm
    | succ i => simp [Cursor.pull, Nat.add_assoc, Nat.add_comm 1 i]
  | @row call calls columns rest h _ ih =>
    obtain ⟨⟨rows, stop, later⟩, hpull, rfl⟩ := ih
    refine ⟨⟨columns :: rows, stop, later⟩, fun i => ?_, drain_cons ..⟩
    cases i with
    | zero => exact h.symm
    | succ i => rw [pull_cons, hpull, Nat.add_assoc, Nat.add_comm 1 i]

end Cursor

/-! ## Statements under guard -/

variable (e : Engine) (statement : String) (j : Journal)

/-- Under a guard, a cursor is released when the guard is let go, and not before, however often it
has been asked for rows. -/
theorem guard_released (pulls : Nat) :
    ∃ k, ((e.runStatement statement).run j).2 = j ++ k ∧ k.releases = 0 ∧
      ∀ guard, ((e.runStatement statement).run j).1 = .ok guard →
        ((guard.pulls pulls).run (j ++ k)).2 = j ++ k ∧
        ((do let (_, guard) ← guard.pulls pulls; guard.drop).run (j ++ k)).2 =
          j ++ k ++ [.released] := by
  rw [runStatement_run]
  refine ⟨_, rfl, by simp [Journal.releases], fun guard _ => ?_⟩
  rw [StateT.run_bind, Guard.pulls_run]
  exact ⟨rfl, rfl⟩

end Engine

end GraphGateway
