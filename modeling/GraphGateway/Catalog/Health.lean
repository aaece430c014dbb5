/-
Health: whether the engine can list its tables.

A check never fails. If the listing fails, the record says so and carries the engine's own message.
-/
import GraphGateway.Calendar.Moment
import GraphGateway.Catalog.Statement
import GraphGateway.Json.Codec
import GraphGateway.Query

namespace GraphGateway.Catalog

open Json (Codec)

inductive HealthStatus where
  | healthy
  | unhealthy
deriving DecidableEq, Repr

def HealthStatus.name : HealthStatus → String
  | .healthy => "healthy"
  | .unhealthy => "unhealthy"

def HealthStatus.codec : Codec HealthStatus :=
  .choice [(name .healthy, .healthy), (name .unhealthy, .unhealthy)] name

/-- What a check finds. -/
structure Health where
  status : HealthStatus
  databasePath : String
  readOnly : Bool
  /-- How many rows the listing has; none if it fails. -/
  tablesCount : Nat
  /-- When the check was made. -/
  timestamp : Calendar.Moment
  version : String
  /-- The engine's message if it is unhealthy. -/
  error : Option String
deriving DecidableEq, Repr

namespace Health

/-- The version of this program. -/
def currentVersion : String := "0.3.0"

/-- What a check finds if the listing gave rows or a failure. -/
def ofListing (databasePath : String) (readOnly : Bool) (now : Calendar.Moment) :
    Except Failure (List Row) → Health
  | .ok rows => ⟨.healthy, databasePath, readOnly, rows.length, now, currentVersion, none⟩
  | .error failure =>
    let message := match failure with
      | .engine message _ => message
      | other => other.message
    ⟨.unhealthy, databasePath, readOnly, 0, now, currentVersion, some message⟩

/-- Lists the tables and tells how that went. -/
def check (e : Engine) (databasePath : String) (readOnly : Bool) (now : Calendar.Moment) :
    Session Health := do
  let listing ← (e.query showTables).run
  Session.log (if listing.toBool then .healthConfirmed else .healthFailed)
  pure (ofListing databasePath readOnly now listing)

/-- Times are written in UTC and read with any offset. -/
def timestampCodec : Codec Calendar.Moment :=
  .parsed "an RFC 3339 formatted date and time string"
    (fun s => (Calendar.Moment.ofText s).mapError Calendar.Moment.Fault.message)
    Calendar.Moment.text

def codec : Codec Health :=
  .record "HealthStatus"
    (.cons { name := "status", codec := HealthStatus.codec }
      (.cons { name := "databasePath", codec := .text }
        (.cons { name := "readOnly", codec := .flag }
          (.cons { name := "tablesCount", codec := .count }
            (.cons { name := "timestamp", codec := timestampCodec }
              (.cons { name := "version", codec := .text }
                (.cons (.optional "error" .text) .nil)))))))
    (fun (status, databasePath, readOnly, tablesCount, timestamp, version, error, ()) =>
      ⟨status, databasePath, readOnly, tablesCount, timestamp, version, error⟩)
    (fun h => (h.status, h.databasePath, h.readOnly, h.tablesCount, h.timestamp, h.version, h.error,
      ()))

/-- The text of a record on several lines, as clients get it. -/
def text (h : Health) : String := (codec.write h).indented

end Health

end GraphGateway.Catalog
