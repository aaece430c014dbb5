/-
What happens outside, in order.

A journal records every statement given to the engine and whether it opened a cursor, every cursor
released, every attempt to open a database, and every log message. An action is run over the
journal so far and adds to its end; nothing is ever taken away.
-/
import GraphGateway.Files.Path
import GraphGateway.Notice

namespace GraphGateway

/-- Something that happens outside. -/
inductive Event where
  /-- A statement was given to the engine; `opened` if it answered with a cursor. -/
  | executed (statement : String) (opened : Bool)
  /-- A cursor was released. -/
  | released
  /-- A database was about to be opened. -/
  | opening (path : Files.Path) (readOnly : Bool)
  | logged (notice : Notice)
deriving DecidableEq, Repr

/-- What has happened, oldest first. -/
abbrev Journal := List Event

namespace Journal

/-- The statements that were executed, in order. -/
def statements (j : Journal) : List String :=
  j.filterMap fun
    | .executed s _ => some s
    | _ => none

/-- How many cursors were released. -/
def releases (j : Journal) : Nat := j.countP (· == .released)

/-- The log messages, in order. -/
def notices (j : Journal) : List Notice :=
  j.filterMap fun
    | .logged n => some n
    | _ => none

/-- The databases that were about to be opened, in order. -/
def openings (j : Journal) : List (Files.Path × Bool) :=
  j.filterMap fun
    | .opening p r => some (p, r)
    | _ => none

@[simp] theorem statements_append (j k : Journal) :
    statements (j ++ k) = statements j ++ statements k := by simp [statements]

@[simp] theorem releases_append (j k : Journal) :
    releases (j ++ k) = releases j + releases k := by simp [releases]

@[simp] theorem notices_append (j k : Journal) : notices (j ++ k) = notices j ++ notices k := by
  simp [notices]

@[simp] theorem openings_append (j k : Journal) : openings (j ++ k) = openings j ++ openings k := by
  simp [openings]

end Journal

/-- An action that only adds to the journal. -/
abbrev Session := StateM Journal

namespace Session

/-- Adds an event to the journal. -/
def record (event : Event) : Session Unit := modify (· ++ [event])

/-- Logs a message. -/
def log (notice : Notice) : Session Unit := record (.logged notice)

@[simp] theorem record_run (event : Event) (j : Journal) :
    (record event).run j = pure ((), j ++ [event]) := rfl

@[simp] theorem log_run (notice : Notice) (j : Journal) :
    (log notice).run j = pure ((), j ++ [.logged notice]) := rfl

end Session

end GraphGateway
