/-
The schema of a graph: its tables, by kind and in the order of their names.

A table of entities says of each property whether it is the primary key; a table of relationships
never does, and lists the pairs of tables that it connects instead. What a table does not have is
left out when it is written.
-/
import GraphGateway.Json.Codec

namespace GraphGateway.Catalog

open Json (Codec Field Fields)

/-! ## Types -/

inductive TableKind where
  | entity
  | relationship
deriving DecidableEq, Repr

/-- A column of a table. -/
structure Property where
  name : String
  /-- The type, as the engine calls it. -/
  dataType : String
  /-- Given for the properties of entities. -/
  isPrimaryKey : Option Bool
deriving DecidableEq, Repr

/-- A pair of tables that a relationship leads from and to. -/
structure Connection where
  src : String
  dst : String
deriving DecidableEq, Repr

structure Table where
  name : String
  kind : TableKind
  comment : Option String
  properties : List Property
  /-- Given for relationships. -/
  connectivity : Option (List Connection)
deriving DecidableEq, Repr

structure Schema where
  entityTables : List Table
  relationshipTables : List Table
deriving DecidableEq, Repr

/-! ## Kinds -/

namespace TableKind

def name : TableKind → String
  | .entity => "ENTITY"
  | .relationship => "RELATIONSHIP"

/-- The kind that the catalog's word stands for, in capitals or not. Other things in a catalog are
of no kind. -/
def ofCatalog (word : String) : Option TableKind :=
  if word.toUpper = "NODE" then some .entity
  else if word.toUpper = "REL" then some .relationship
  else none

end TableKind

/-! ## Order -/

/-- The order of connections: by the first table, then by the second. -/
def Connection.le (a b : Connection) : Bool :=
  a.src < b.src || (a.src == b.src && decide (a.dst ≤ b.dst))

/-- The order of tables. -/
def Table.le (a b : Table) : Bool := decide (a.name ≤ b.name)

namespace Schema

/-- The schema with its tables in ascending order of their names; tables of one name keep their
order. -/
def sort (s : Schema) : Schema :=
  ⟨s.entityTables.mergeSort Table.le, s.relationshipTables.mergeSort Table.le⟩

/-- How many tables there are. -/
def tableCount (s : Schema) : Nat := s.entityTables.length + s.relationshipTables.length

/-- The schema of given tables. -/
def ofTables (tables : List Table) : Schema :=
  sort ⟨tables.filter (·.kind = .entity), tables.filter (·.kind = .relationship)⟩

end Schema

/-! ## In transport -/

def TableKind.codec : Codec TableKind :=
  .choice [(name .entity, .entity), (name .relationship, .relationship)] name

def Property.codec : Codec Property :=
  .record "PropertyDescriptor"
    (.cons { name := "name", codec := .text }
      (.cons { name := "type", codec := .text }
        (.cons (.optional "isPrimaryKey" .flag) .nil)))
    (fun (name, dataType, isPrimaryKey, ()) => ⟨name, dataType, isPrimaryKey⟩)
    (fun p => (p.name, p.dataType, p.isPrimaryKey, ()))

def Connection.codec : Codec Connection :=
  .record "Connectivity"
    (.cons { name := "src", codec := .text } (.cons { name := "dst", codec := .text } .nil))
    (fun (src, dst, ()) => ⟨src, dst⟩)
    (fun c => (c.src, c.dst, ()))

def Table.codec : Codec Table :=
  .record "TableDescriptor"
    (.cons { name := "name", codec := .text }
      (.cons { name := "kind", codec := TableKind.codec }
        (.cons (.optional "comment" .text)
          (.cons { name := "properties", codec := .list Property.codec }
            (.cons (.optional "connectivity" (.list Connection.codec)) .nil)))))
    (fun (name, kind, comment, properties, connectivity, ()) =>
      ⟨name, kind, comment, properties, connectivity⟩)
    (fun t => (t.name, t.kind, t.comment, t.properties, t.connectivity, ()))

def Schema.codec : Codec Schema :=
  .record "GraphSchema"
    (.cons { name := "entityTables", codec := .list Table.codec }
      (.cons { name := "relationshipTables", codec := .list Table.codec } .nil))
    (fun (entityTables, relationshipTables, ()) => ⟨entityTables, relationshipTables⟩)
    (fun s => (s.entityTables, s.relationshipTables, ()))

/-- The text of a schema on several lines, as clients get it. -/
def Schema.text (s : Schema) : String := (Schema.codec.write s).indented

end GraphGateway.Catalog
