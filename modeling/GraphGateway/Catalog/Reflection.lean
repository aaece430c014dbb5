/-
The schema read off the engine's catalog.

The table listing says which tables there are; each of them is then described by one statement, or
by two if it is a table of relationships. A listing that cannot be read is a failure. A table whose
description cannot be read, or is not what it should be, is left out, and the others are not
affected.
-/
import GraphGateway.Catalog.Schema
import GraphGateway.Catalog.Statement
import GraphGateway.Query

namespace GraphGateway.Catalog

/-! ## Rows of the catalog -/

/-- A table as the listing names it. -/
structure Listed where
  name : String
  kind : TableKind
  comment : Option String
deriving DecidableEq, Repr

/-- What a row of the table listing is about. -/
inductive Entry where
  | nameless
  /-- Something that is no table. -/
  | foreign
  | table (listed : Listed)
deriving DecidableEq, Repr

def Entry.ofRow (row : Row) : Entry :=
  match row.text? "name" with
  | none => .nameless
  | some name =>
    match TableKind.ofCatalog ((row.text? "type").getD "") with
    | none => .foreign
    | some kind => .table ⟨name, kind, (row.text? "comment").filter (· != "")⟩

/-- Rows that do not say what was asked. -/
def malformed (statement reason : String) : Failure :=
  .engine s!"unexpected catalog output: {reason}" statement

/-- The property that a row of a table's description names. -/
def Property.ofRow (kind : TableKind) (statement : String) (row : Row) : Except Failure Property :=
  match row.text? "name", row.text? "type" with
  | none, _ => .error (malformed statement "property row without a name")
  | some _, none => .error (malformed statement "property row without a type")
  | some name, some dataType =>
    .ok ⟨name, dataType, match kind with
      | .entity => some ((row.flag? "primary key").getD false)
      | .relationship => none⟩

/-- The connection that a row names. -/
def Connection.ofRow (statement : String) (row : Row) : Except Failure Connection :=
  match row.text? "source table name", row.text? "destination table name" with
  | some src, some dst => .ok ⟨src, dst⟩
  | _, _ => .error (malformed statement "connection row without source/destination")

/-- Connections in ascending order, each of them once. -/
def Connection.arrange (connections : List Connection) : List Connection :=
  (connections.mergeSort Connection.le).eraseReps

/-! ## Reading -/

/-- The description of a listed table. -/
def Listed.describe (e : Engine) (l : Listed) : Attempt Table := do
  let info := tableInfo l.name
  let rows ← e.query info
  let properties ← Attempt.ofResult (rows.mapM (Property.ofRow l.kind info))
  match l.kind with
  | .entity => pure ⟨l.name, l.kind, l.comment, properties, none⟩
  | .relationship =>
    let connects := showConnection l.name
    let rows ← e.query connects
    let connections ← Attempt.ofResult (rows.mapM (Connection.ofRow connects))
    pure ⟨l.name, l.kind, l.comment, properties, some (Connection.arrange connections)⟩

/-- The descriptions of the tables that rows of the listing name, without those that fail. -/
def describeAll (e : Engine) : List Row → Session (List Table)
  | [] => pure []
  | row :: rows => do
    match Entry.ofRow row with
    | .nameless =>
      Session.log .rowWithoutName
      describeAll e rows
    | .foreign =>
      Session.log .entryIgnored
      describeAll e rows
    | .table listed =>
      match ← (listed.describe e).run with
      | .ok table =>
        let tables ← describeAll e rows
        pure (table :: tables)
      | .error _ =>
        Session.log .tableSkipped
        describeAll e rows

end GraphGateway.Catalog

namespace GraphGateway

/-- The schema of the graph. -/
def Engine.schema (e : Engine) : Attempt Catalog.Schema := do
  let rows ← e.query Catalog.showTables
  let tables ← ExceptT.lift (Catalog.describeAll e rows)
  ExceptT.lift (Session.log .schemaRead)
  pure (.ofTables tables)

end GraphGateway
