/-
Requests and responses of JSON-RPC 2.0.

A request without an identifier, or with the identifier `null`, is a notification and gets no
response. A response carries a result or an error; the codes of errors are those of JSON-RPC.
-/
import GraphGateway.Failure
import GraphGateway.Json.Codec

namespace GraphGateway.Protocol

open Json (Codec)

/-- A request or a notification. -/
structure Request where
  jsonrpc : String
  id : Json
  method : String
  params : Option Json
deriving DecidableEq, Repr

/-- Whether a request asks for no response. -/
def Request.isNotification (r : Request) : Bool := r.id.isNull

/-- What an error response says. -/
structure ErrorReport where
  code : Int
  message : String
  data : Option Json
deriving DecidableEq, Repr

structure Response where
  jsonrpc : String
  id : Json
  result : Option Json
  error : Option ErrorReport
deriving DecidableEq, Repr

/-! ## Errors -/

inductive ErrorCode where
  /-- What was received is no request. -/
  | parseError
  | invalidRequest
  | methodNotFound
  | invalidParams
  | internalError
deriving DecidableEq, Repr

namespace ErrorCode

def value : ErrorCode → Int
  | .parseError => -32700
  | .invalidRequest => -32600
  | .methodNotFound => -32601
  | .invalidParams => -32602
  | .internalError => -32603

/-- The code for a failure that is told in an error response. -/
def ofFailure : Failure → ErrorCode
  | .protocol _ | .argument .. => .invalidParams
  | _ => .internalError

end ErrorCode

namespace Response

/-- The response to a request that succeeded. -/
def success (id result : Json) : Response := ⟨"2.0", id, some result, none⟩

/-- The response to a request that failed. -/
def failure (id : Json) (code : ErrorCode) (message : String) : Response :=
  ⟨"2.0", id, none, some ⟨code.value, message, none⟩⟩

/-- The response that tells a failure. -/
def ofFailure (id : Json) (f : Failure) : Response := failure id (.ofFailure f) f.message

end Response

/-! ## In transport -/

/-- An absent identifier is read as `null`; absent parameters are written as `null`. -/
def Request.codec : Codec Request :=
  .record "JsonRpcRequest"
    (.cons { name := "jsonrpc", codec := .text }
      (.cons { name := "id", codec := .any, absence := .anywhere .null }
        (.cons { name := "method", codec := .text }
          (.cons { name := "params", codec := .optional .any, absence := .anywhere none } .nil))))
    (fun (jsonrpc, id, method, params, ()) => ⟨jsonrpc, id, method, params⟩)
    (fun r => (r.jsonrpc, r.id, r.method, r.params, ()))

/-- A field that may be left out of an object only, and is not written when it is none. -/
def fieldOfObject {α : Type} (name : String) (codec : Codec α) : Json.Field (Option α) where
  name := name
  codec := codec.optional
  absence := .inObject none
  omits := Option.isNone

def ErrorReport.codec : Codec ErrorReport :=
  .record "JsonRpcError"
    (.cons { name := "code", codec := .int32 }
      (.cons { name := "message", codec := .text } (.cons (fieldOfObject "data" .any) .nil)))
    (fun (code, message, data, ()) => ⟨code, message, data⟩)
    (fun e => (e.code, e.message, e.data, ()))

def Response.codec : Codec Response :=
  .record "JsonRpcResponse"
    (.cons { name := "jsonrpc", codec := .text }
      (.cons { name := "id", codec := .any }
        (.cons (fieldOfObject "result" .any)
          (.cons (fieldOfObject "error" ErrorReport.codec) .nil))))
    (fun (jsonrpc, id, result, error, ()) => ⟨jsonrpc, id, result, error⟩)
    (fun r => (r.jsonrpc, r.id, r.result, r.error, ()))

/-- The text of a response, on one line. -/
def Response.text (r : Response) : String := (Response.codec.write r).compact

end GraphGateway.Protocol
