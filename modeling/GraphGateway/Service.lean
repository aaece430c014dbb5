/-
A database that is open and ready: the engine, the path that it was opened with, and whether it was
opened for reading only.
-/
import GraphGateway.Catalog.Health
import GraphGateway.Catalog.Reflection

namespace GraphGateway

structure Service where
  engine : Engine
  path : Files.Path
  readOnly : Bool

namespace Service

/-- The rows of a statement. -/
def query (s : Service) (statement : String) : Attempt (List Row) := s.engine.query statement

/-- The schema of the graph, read anew. -/
def schema (s : Service) : Attempt Catalog.Schema := s.engine.schema

/-- The outcome of a health check made at a given time. -/
def health (s : Service) (now : Calendar.Moment) : Session Catalog.Health :=
  Catalog.Health.check s.engine s.path.display s.readOnly now

/-- A summary for people to read. -/
def summary (s : Service) : String :=
  s!"GraphService \x7b db_path: {s.path.quoted}, read_only: {s.readOnly}, .. \x7d"

end Service

end GraphGateway
