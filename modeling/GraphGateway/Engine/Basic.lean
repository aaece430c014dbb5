/-
The graph engine, as far as a client can tell.

An engine answers a statement with a failure or with a cursor; the answer may depend on all
statements that it was given before. A cursor answers calls for the next row: rows first, then it
stops, at the end or with a failure, and what it answers to further calls is its own affair. Whoever
opens a cursor releases it, which is an event of the journal; calls for rows are none.
-/
import GraphGateway.Engine.Journal
import GraphGateway.Engine.Value

namespace GraphGateway.Engine

/-- An answer to one call for the next row. -/
inductive Pull where
  | row (columns : RawRow)
  | done
  | failed (message : String)

/-- How a cursor stops. -/
inductive Stop where
  | exhausted
  | failed (message : String)
deriving DecidableEq, Repr

/-- The rows of an answer, what comes behind the last of them, and what further calls answer. -/
structure Cursor where
  rows : List RawRow
  stop : Stop := .exhausted
  later : Nat → Pull := fun _ => .done

namespace Cursor

/-- The answer to a call, the first one being number 0. -/
def pull (c : Cursor) (call : Nat) : Pull :=
  match c.rows[call]? with
  | some row => .row row
  | none =>
    if call = c.rows.length then
      match c.stop with
      | .exhausted => .done
      | .failed message => .failed message
    else c.later (call - c.rows.length - 1)

/-- All rows, or the failure that the cursor stops with. -/
def drain (c : Cursor) : Except String (List RawRow) :=
  match c.stop with
  | .exhausted => .ok c.rows
  | .failed message => .error message

end Cursor

end Engine

/-- An engine: what it answers to a statement after the statements before it, oldest first. -/
structure Engine where
  answer : List String → String → Except String Engine.Cursor

namespace Engine

/-- Whether answers do not depend on earlier statements. -/
def Forgetful (e : Engine) : Prop :=
  ∀ earlier statement, e.answer earlier statement = e.answer [] statement

/-- An engine that answers from a table, and fails for statements that are not in it. -/
def ofTable (table : List (String × Except String Cursor)) : Engine where
  answer _ statement := (table.lookup statement).getD (.error s!"no script for <{statement}>")

theorem ofTable_forgetful (table : List (String × Except String Cursor)) :
    (ofTable table).Forgetful := fun _ _ => rfl

/-- Gives a statement to the engine. A cursor that is answered has to be released. -/
def execute (e : Engine) (statement : String) : Session (Except String Cursor) := do
  Session.log .statementSubmitted
  let answer := e.answer (← get).statements statement
  Session.record (.executed statement answer.toBool)
  pure answer

/-- Releases a cursor. -/
def release : Session Unit := Session.record .released

@[simp] theorem release_run (j : Journal) : release.run j = pure ((), j ++ [.released]) := rfl

/-- Executing a statement is one log message and one statement in the journal. -/
theorem execute_run (e : Engine) (statement : String) (j : Journal) :
    (e.execute statement).run j =
      pure (e.answer j.statements statement,
        j ++ [.logged .statementSubmitted,
          .executed statement (e.answer j.statements statement).toBool]) := by
  have hs : Journal.statements (j ++ [.logged .statementSubmitted]) = j.statements := by
    simp [Journal.statements]
  simp [execute, hs]

end Engine

end GraphGateway
