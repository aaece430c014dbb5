/-
The embedded engine as an engine of the gateway.

Integers keep their width class: those of up to 32 bits stay small, the others stay wide. Lists and
structures are taken over member by member, a node or a relationship becomes its label followed by
its properties, and values of all other kinds become their text.
-/
import GraphGateway.Engine.Basic
import GraphGateway.Native.Value
import GraphGateway.Startup.Machine

namespace GraphGateway.Native

/-! ## Values -/

/-- A label in front of properties. -/
def labelled (label : String) (properties : List (String × Engine.Value)) : Engine.Value :=
  .record (("_label", .string label) :: properties)

namespace Value

mutual

/-- The value as engines of the gateway answer it. -/
def convert : Value → Engine.Value
  | .null => .null
  | .bool b => .bool b
  | .int8 n => .int32 n.toInt32
  | .int16 n => .int32 n.toInt32
  | .int32 n => .int32 n
  | .uint8 n => .uint32 n.toUInt32
  | .uint16 n => .uint32 n.toUInt32
  | .uint32 n => .uint32 n
  | .int64 n => .int64 n
  | .uint64 n => .uint64 n
  | .int128 n => .int128 n
  | .float x => .double x.widen
  | .double x => .double x
  | .string s => .string s
  | .list items => .list (convertItems items)
  | .array items => .list (convertItems items)
  | .struct fields => .record (convertFields fields)
  | .node _ label properties => labelled label (convertFields properties)
  | .rel _ _ label properties => labelled label (convertFields properties)
  | other => .string (String.ofList other.text)

def convertItems : List Value → List Engine.Value
  | [] => []
  | item :: items => convert item :: convertItems items

def convertFields : List (String × Value) → List (String × Engine.Value)
  | [] => []
  | (name, value) :: fields => (name, convert value) :: convertFields fields

end

@[simp] theorem convertItems_eq_map (items : List Value) : convertItems items = items.map convert := by
  induction items with
  | nil => rfl
  | cons item items ih => simp [convertItems, ih]

@[simp] theorem convertFields_eq_map (fields : List (String × Value)) :
    convertFields fields = fields.map fun field => (field.1, convert field.2) := by
  induction fields with
  | nil => rfl
  | cons field fields ih => simp [convertFields, ih]

end Value

/-! ## Cursors -/

/-- The rows of an answer, with the names of their columns. -/
structure Answer where
  columns : List String
  rows : List (List Value)

/-- The rows with their columns. What goes beyond the shorter of both is left out. -/
def Answer.labelledRows (a : Answer) : List Engine.RawRow :=
  a.rows.map fun row => a.columns.zip (row.map Value.convert)

/-- A cursor: the rows that are still to come, or nothing once it has been released. -/
structure Cursor where
  rows? : Option (List Engine.RawRow)

namespace Cursor

/-- The answer to a call for the next row, and the cursor after it. -/
def next : Cursor → Engine.Pull × Cursor
  | ⟨none⟩ => (.failed "cursor already released", ⟨none⟩)
  | ⟨some []⟩ => (.done, ⟨some []⟩)
  | ⟨some (row :: rows)⟩ => (.row row, ⟨some rows⟩)

def release (_ : Cursor) : Cursor := ⟨none⟩

end Cursor

/-! ## Databases -/

/-- The embedded engine and its store: why opening and connecting fail, if they do, and what it
answers to a statement after the statements before it. -/
structure World where
  openError : Option String
  connectError : Option String
  query : List String → String → Except String Answer

namespace World

/-- A world that answers from a table, and fails for statements that are not in it. -/
def ofTable (openError connectError : Option String)
    (table : List (String × Except String Answer)) : World where
  openError := openError
  connectError := connectError
  query _ statement := (table.lookup statement).getD (.error s!"no script for <{statement}>")

/-- The store as an engine. -/
def engine (w : World) : Engine where
  answer earlier statement :=
    match w.query earlier statement with
    | .error message => .error s!"Query execution failed: {message}"
    | .ok answer => .ok { rows := answer.labelledRows }

/-- Opens the store and connects to it. -/
def opener (w : World) : Opener := fun path _ =>
  match w.openError, w.connectError with
  | some message, _ => .error s!"failed to open database '{path.display}': {message}"
  | none, some message => .error s!"failed to connect to database: {message}"
  | none, none => .ok w.engine

/-- The cursor that a statement opens, for calls of one's own. -/
def cursor (w : World) (statement : String) : Session (Except String Cursor) := do
  let answer ← w.engine.execute statement
  pure (answer.map fun c => ⟨some c.rows⟩)

end World

end GraphGateway.Native
