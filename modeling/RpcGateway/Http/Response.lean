import RpcGateway.Gateway.Fault
import RpcGateway.Http.Header
import RpcGateway.Http.RequestId

/-!
# Responses

A response is a status, header fields and a body. Faults and unknown paths are answered in JSON,
with the identifier of the request in the body.
-/

namespace RpcGateway.Http

open Json

structure Response where
  status : Nat
  headers : Headers := []
  body : Bytes := []

namespace Response

def contentType : String := "content-type"

def contentLength : String := "content-length"

def text (status : Nat) (mediaType body : String) : Response :=
  ⟨status, [(contentType, Utf8.encode mediaType)], Utf8.encode body⟩

def plain (status : Nat) (body : String) : Response := text status "text/plain; charset=utf-8" body

def json (status : Nat) (v : Value) : Response :=
  ⟨status, [(contentType, Utf8.encode "application/json")], v.render⟩

def errorBody (code message : String) (requestId : Option String) : Value :=
  record [("error", .string code), ("message", .string message),
    ("request_id", Value.ofOption .string requestId)]

def withRequestId (r : Response) (id : String) : Response :=
  match Headers.value? id with
  | some v => { r with headers := r.headers.set RequestId.headerName v }
  | none => r

/-- The seconds after which the caller may try again, at least one. -/
def retryAfter? : Fault → Option Nat
  | .circuitOpen _ secs => some (max 1 secs)
  | _ => none

def ofFault (f : Fault) (requestId : Option String) : Response :=
  let r := json f.status (errorBody f.code f.publicMessage requestId)
  let r := match requestId with
    | some id => r.withRequestId id
    | none => r
  match retryAfter? f with
  | some secs => { r with headers := r.headers.set "retry-after" (Utf8.encode (toString secs)) }
  | none => r

def notFound (requestId : Option String) : Response :=
  json 404 (errorBody "not_found" "no route matches this path" requestId)

end Response

end RpcGateway.Http
