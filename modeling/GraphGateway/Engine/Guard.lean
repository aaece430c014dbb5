/-
Cursors in use.

A cursor in use stands under a guard, which asks it for rows and releases it in the end. Asking
leaves no trace in the journal, however often it is done and whatever the answers are; only letting
go of the guard does, by one release. Asked from its first call on until it gives no row, a cursor
gives what `Cursor.drain` says, and this takes one call more than it has rows (`Cursor.drains`,
`Guard.drain_run`).
-/
import GraphGateway.Engine.Basic

namespace GraphGateway.Engine

/-- A cursor in use, and how often it has been asked for a row. -/
structure Guard where
  cursor : Cursor
  calls : Nat := 0

/-- Gives a statement to the engine and puts its cursor under a guard. -/
def runStatement (e : Engine) (statement : String) : Session (Except String Guard) := do
  let answer ← e.execute statement
  pure (answer.map fun cursor => { cursor })

namespace Guard

/-- Asks for a row. -/
def nextRow (g : Guard) : Session (Pull × Guard) :=
  pure (g.cursor.pull g.calls, { g with calls := g.calls + 1 })

/-- Lets go of the cursor. -/
def drop (_ : Guard) : Session Unit := release

/-- Asks for a row so many times, whatever the answers are. -/
def pulls : Nat → Guard → Session (List Pull × Guard)
  | 0, g => pure ([], g)
  | n + 1, g => do
    let (answer, g) ← g.nextRow
    let (answers, g) ← pulls n g
    pure (answer :: answers, g)

/-- Asks for rows until there is none, but at most so many times: the rows, or why there are no
more. -/
def takeRows : Nat → Guard → Session (Except String (List RawRow) × Guard)
  | 0, g => pure (.ok [], g)
  | n + 1, g => do
    let (answer, g) ← g.nextRow
    match answer with
    | .done => pure (.ok [], g)
    | .failed message => pure (.error message, g)
    | .row columns =>
      let (rest, g) ← takeRows n g
      pure (rest.map (columns :: ·), g)

/-- Asks for rows until there is none. A cursor that has not been asked before has given all of them
when it has been asked once more than it has rows. -/
def drain (g : Guard) : Session (Except String (List RawRow) × Guard) :=
  takeRows (g.cursor.rows.length + 1) g

end Guard

/-! ## Cursors that stop -/

namespace Cursor

/-- Asked from some call on until there is no row, whoever answers gives these rows or this failure;
`calls` is the number of the call behind the last that this takes. -/
inductive Drains (answers : Nat → Pull) : Nat → Except String (List RawRow) → Nat → Prop
  | done {call : Nat} (h : answers call = .done) : Drains answers call (.ok []) (call + 1)
  | failed {call : Nat} {message : String} (h : answers call = .failed message) :
    Drains answers call (.error message) (call + 1)
  | row {call calls : Nat} {columns : RawRow} {rest : Except String (List RawRow)}
      (h : answers call = .row columns) (more : Drains answers (call + 1) rest calls) :
    Drains answers call (rest.map (columns :: ·)) calls

variable {answers : Nat → Pull} {call calls : Nat} {outcome : Except String (List RawRow)}

theorem Drains.lt (h : Drains answers call outcome calls) : call < calls := by
  induction h with
  | done | failed => exact Nat.lt_succ_self _
  | row _ _ ih => exact Nat.lt_of_succ_lt ih

/-- Answers that are given one call later. -/
theorem Drains.shift {later : Nat → Pull} (h : Drains later call outcome calls)
    (hp : ∀ i, answers (i + 1) = later i) : Drains answers (call + 1) outcome (calls + 1) := by
  induction h with
  | done h => exact .done ((hp _).trans h)
  | failed h => exact .failed ((hp _).trans h)
  | row h _ ih => exact .row ((hp _).trans h) ih

theorem pull_cons (columns : RawRow) (rows : List RawRow) (stop : Stop) (later : Nat → Pull)
    (call : Nat) :
    pull ⟨columns :: rows, stop, later⟩ (call + 1) = pull ⟨rows, stop, later⟩ call := by
  simp only [Cursor.pull, List.getElem?_cons_succ, List.length_cons, Nat.add_right_cancel_iff,
    Nat.add_sub_add_right]

theorem drain_cons (columns : RawRow) (rows : List RawRow) (stop : Stop) (later : Nat → Pull) :
    drain ⟨columns :: rows, stop, later⟩ = (drain ⟨rows, stop, later⟩).map (columns :: ·) := by
  cases stop <;> rfl

/-- A cursor is drained by one call more than it has rows. -/
theorem drains (c : Cursor) : Drains c.pull 0 c.drain (c.rows.length + 1) := by
  obtain ⟨rows, stop, later⟩ := c
  induction rows with
  | nil =>
    cases stop with
    | exhausted => exact .done rfl
    | failed message => exact .failed rfl
  | cons columns rows ih =>
    rw [drain_cons]
    exact .row rfl (ih.shift (pull_cons columns rows stop later))

end Cursor

/-! ## Under a guard -/

/-- Putting a statement's cursor under a guard is executing the statement. -/
theorem runStatement_run (e : Engine) (statement : String) (j : Journal) :
    (e.runStatement statement).run j =
      pure ((e.answer j.statements statement).map fun cursor => { cursor },
        j ++ [.logged .statementSubmitted,
          .executed statement (e.answer j.statements statement).toBool]) := by
  rw [runStatement, StateT.run_bind, execute_run]
  rfl

namespace Guard

variable {c : Cursor} {call calls n : Nat} {outcome : Except String (List RawRow)}

/-- Asking for rows leaves no trace. -/
theorem pulls_run (n : Nat) (g : Guard) (j : Journal) :
    ((pulls n g).run j) =
      (((List.range' g.calls n).map g.cursor.pull, { g with calls := g.calls + n }), j) := by
  induction n generalizing g with
  | zero => rfl
  | succ n ih =>
    have h := ih { g with calls := g.calls + 1 }
    simp only [pulls, nextRow, pure_bind]
    rw [StateT.run_bind, h]
    simp only [List.range'_succ, List.map_cons]
    rw [Nat.add_assoc, Nat.add_comm 1 n]
    rfl

/-- One call, and what its answer leads to. -/
theorem takeRows_succ (n : Nat) (g : Guard) : takeRows (n + 1) g =
    match g.cursor.pull g.calls with
    | .done => pure (.ok [], { g with calls := g.calls + 1 })
    | .failed message => pure (.error message, { g with calls := g.calls + 1 })
    | .row columns => (do
      let (rest, g) ← takeRows n { g with calls := g.calls + 1 }
      pure (rest.map (columns :: ·), g)) := by
  rw [takeRows, nextRow, pure_bind]

/-- Where asking comes to an end, it is asked up to there and not further, unless it was to be asked
fewer times. -/
theorem takeRows_run (h : Cursor.Drains c.pull call outcome calls) (hn : calls ≤ call + n)
    (j : Journal) : (takeRows n ⟨c, call⟩).run j = ((outcome, ⟨c, calls⟩), j) := by
  induction n generalizing call outcome with
  | zero => exact absurd h.lt (Nat.not_lt.mpr hn)
  | succ n ih =>
    rw [takeRows_succ]
    cases h with
    | done h =>
      simp only [h]
      rfl
    | failed h =>
      simp only [h]
      rfl
    | row h more =>
      have hrest := ih more (by omega)
      simp only [h]
      rw [StateT.run_bind, hrest]
      rfl

/-- A cursor that has not been asked before is drained, and nothing else is done. -/
theorem drain_run (c : Cursor) (j : Journal) :
    (drain { cursor := c }).run j = pure ((c.drain, ⟨c, c.rows.length + 1⟩), j) :=
  takeRows_run c.drains (Nat.le_add_left _ _) j

end Guard

end GraphGateway.Engine
