/-
Statements run to their end.

A statement is executed, its rows are taken under a guard until the cursor stops, and the guard is
let go whichever way it stops. The rows come in transport form. There are no partial answers: a
cursor that fails after some rows gives a failure and no rows.
-/
import GraphGateway.Engine.Guard
import GraphGateway.Failure

namespace GraphGateway

/-- A row in transport form: columns and their values, in order. -/
abbrev Row := Members

namespace Row

/-- The value of the first column of a name. -/
def get? (row : Row) (column : String) : Option Json := row.lookup column

/-- The text in the first column of a name. Wide integers are text. -/
def text? (row : Row) (column : String) : Option String := (row.get? column).bind Json.asString?

/-- The truth value in the first column of a name. -/
def flag? (row : Row) (column : String) : Option Bool :=
  (row.get? column).bind fun
    | .bool b => some b
    | _ => none

end Row

/-- The text of rows, as an array of objects on several lines. -/
def rowsText (rows : List Row) : String := (Json.array (rows.map Json.object)).indented

/-- Actions that may fail. -/
abbrev Attempt := ExceptT Failure Session

/-- A result that is already known. -/
def Attempt.ofResult {α : Type} (result : Except Failure α) : Attempt α := ExceptT.mk (pure result)

@[simp] theorem Attempt.ofResult_run {α : Type} (result : Except Failure α) :
    (Attempt.ofResult result).run = pure result := rfl

namespace Engine

/-- The rows of a statement, or why there are none. -/
def query (e : Engine) (statement : String) : Attempt (List Row) := do
  Session.log .statementStarted
  match ← e.runStatement statement with
  | .error message =>
    Session.log .statementFailed
    throw (.engine message statement)
  | .ok guard =>
    match ← guard.drain with
    | (.error message, guard) =>
      Session.log .statementFailed
      guard.drop
      throw (.engine message statement)
    | (.ok rows, guard) =>
      Session.log .statementDone
      guard.drop
      pure (rows.map RawRow.toJson)

/-- What a statement gives after earlier ones, apart from the journal. -/
def result (e : Engine) (earlier : List String) (statement : String) : Except Failure (List Row) :=
  match e.answer earlier statement with
  | .error message => .error (.engine message statement)
  | .ok cursor =>
    match cursor.drain with
    | .error message => .error (.engine message statement)
    | .ok rows => .ok (rows.map RawRow.toJson)

/-- What running a statement adds to the journal. -/
def trail (e : Engine) (earlier : List String) (statement : String) : Journal :=
  [.logged .statementStarted, .logged .statementSubmitted] ++
    match e.answer earlier statement with
    | .error _ => [.executed statement false, .logged .statementFailed]
    | .ok cursor =>
      [.executed statement true, .logged (match cursor.stop with
        | .exhausted => .statementDone
        | .failed _ => .statementFailed), .released]

/-- A statement gives its result and leaves its trail, whatever the journal held before. -/
theorem query_run (e : Engine) (statement : String) (j : Journal) :
    (e.query statement).run.run j =
      pure (e.result j.statements statement, j ++ e.trail j.statements statement) := by
  have hs : Journal.statements (j ++ [.logged .statementStarted]) = j.statements := by
    simp [Journal.statements]
  simp only [query, result, trail]
  cases h : e.answer j.statements statement with
  | error message =>
    simp [ExceptT.run_bind, hs, h, runStatement_run, Except.toBool, Except.map]
  | ok cursor =>
    cases hc : cursor.stop <;>
      simp [ExceptT.run_bind, hs, h, hc, runStatement_run, Guard.drain_run, Guard.drop, Cursor.drain,
        Except.toBool, Except.map]

end Engine

end GraphGateway
