/-
What can go wrong while serving, and how it is told.

A failure is of one of seven kinds. Those of arguments and of the engine belong to the operation
that was asked for and are told inside its result; all others belong to the transport.
-/
import GraphGateway.Json.Fault

namespace GraphGateway

inductive Failure where
  /-- A request that names nothing to do, or nothing known. -/
  | protocol (message : String)
  /-- An argument that an operation does not accept. -/
  | argument (field message : String)
  /-- A statement that the engine refused, or whose rows it did not deliver. -/
  | engine (message statement : String)
  | startup (message : String)
  | config (message : String)
  | io (message : String)
  | json (message : String)
deriving DecidableEq, Repr

namespace Failure

/-- The text of a failure. -/
def message : Failure → String
  | .protocol message => message
  | .argument field message => s!"invalid argument '{field}': {message}"
  | .engine message statement => s!"{message} (statement: {statement})"
  | .startup message => s!"startup error: {message}"
  | .config message => s!"config error: {message}"
  | .io message => s!"io error: {message}"
  | .json message => s!"json error: {message}"

/-- Whether a failure is told inside the result of the operation. -/
def isOperationLevel : Failure → Bool
  | .argument .. | .engine .. => true
  | _ => false

/-- A text that is no JSON of the kind expected. -/
def ofFault (text : String) (fault : Json.Fault) : Failure := .json (fault.message text)

end Failure

end GraphGateway
