import RpcGateway.Http.RequestId
import RpcGateway.Http.Uri
import RpcGateway.Rpc.Error
import RpcGateway.Rpc.Request

/-!
# Backends over HTTP

A call goes to a backend as a POST of its envelope, and the answer comes back as the body of a
successful response. Any other response carries an error, or is judged by its status. What the
network makes of a request is given from outside.
-/

namespace RpcGateway.Calls

open Http Json

structure HttpBackend where
  name : String
  address : String
  closed : Bool := false
deriving DecidableEq, Repr

/-- What the network makes of a request. -/
inductive Exchange where
  | refused
  | answered (status : Nat) (body : Bytes)

/-- A request as it goes over the wire. -/
structure WireRequest where
  target : String
  headers : Headers
  body : Bytes

namespace HttpBackend

/-- The longest answer that is read. -/
def maxResponse : Nat := 4 * 1024 * 1024

def close (b : HttpBackend) : HttpBackend := { b with closed := true }

def target (b : HttpBackend) (operation : String) : String :=
  "http://" ++ b.address ++ "/rpc/" ++ operation

def cannotBuild (why : String) : Rpc.Error := ⟨.invalidArgument, "build request: " ++ why⟩

/-- The request that a call is sent as. -/
def prepare (b : HttpBackend) (r : Rpc.Request) : Except Rpc.Error WireRequest :=
  if b.closed then .error (.unavailable (b.name ++ " client closed"))
  else match Uri.parse (Utf8.encode (b.target r.operation)) with
    | .error e => .error (cannotBuild e.message)
    | .ok _ =>
      match Headers.value? r.requestId with
      | none => .error (cannotBuild "failed to parse header value")
      | some id =>
        .ok
          { target := b.target r.operation
            headers :=
              [("content-type", Utf8.encode "application/json"), (RequestId.headerName, id)]
            body := r.render }

def isSuccess (status : Nat) : Bool := 200 ≤ status && status < 300

/-- The error that an unsuccessful response carries. -/
def errorOf (status : Nat) (body : Bytes) : Rpc.Error :=
  match Rpc.Error.parse? body with
  | some e => e
  | none => ⟨.ofHttpStatus status, Utf8.lossy body⟩

/-- What a call comes to. -/
def receive (b : HttpBackend) : Exchange → Except Rpc.Error Value
  | .refused => .error (.unavailable (b.name ++ ": client error (Connect)"))
  | .answered status body =>
    if maxResponse < body.length then
      .error (.unavailable "read response: length limit exceeded")
    else if isSuccess status then
      if body.isEmpty then .ok .null
      else match Value.parse? body with
        | some v => .ok v
        | none => .error ⟨.internal, "decode response: not a JSON value"⟩
    else .error (errorOf status body)

/-- One call. -/
def call (b : HttpBackend) (network : WireRequest → Exchange) (r : Rpc.Request) :
    Except Rpc.Error Value :=
  match b.prepare r with
  | .error e => .error e
  | .ok w => b.receive (network w)

end HttpBackend

end RpcGateway.Calls
