import RpcGateway.Access.Bearer
import RpcGateway.Calls.Dispatch
import RpcGateway.Http.Cookie

/-!
# Authentication

The caller of a path that is not public is whoever a backend says: the gateway sends it the bearer
token and the session key of the request, and the backend answers with a user. Without either, the
backend is not asked.
-/

namespace RpcGateway.Access

open Json Http Calls

structure Authenticator where
  service : String
  operation : String
deriving DecidableEq, Repr

def Authenticator.ofConfig (c : Config.Auth) : Authenticator := ⟨c.service, c.operation⟩

def isPublic (publicRoutes : List String) (path : String) : Bool := publicRoutes.contains path

structure Credentials where
  token : String
  sessionKey : String
deriving DecidableEq, Repr

namespace Authenticator

def request (a : Authenticator) (c : Credentials) (requestId : String) : Rpc.Request where
  operation := a.operation
  payload := Value.ofFields [("token", .string c.token), ("session_key", .string c.sessionKey)]
  sessionKey := some c.sessionKey
  requestId := requestId

/-- The user that an answer names; a role is optional. -/
def identityOf (payload : Value) : Except Fault Rpc.Identity :=
  match (payload.get? "user_id").bind Value.string? with
  | some id =>
    if id = "" then .error (.unauthenticated "credentials did not resolve to a user")
    else .ok ⟨id, ((payload.get? "role").bind Value.string?).getD ""⟩
  | none => .error (.unauthenticated "credentials did not resolve to a user")

/-- Asks the backend for the user of some credentials. -/
def resolve (a : Authenticator) (call : Caller) (c : Credentials) (requestId : String)
    (deadline : Deadline) : Activity Registry (Except Fault Rpc.Identity) :=
  (call a.service deadline (a.request c requestId)).map fun
    | .ok payload => identityOf payload
    | .error f => .error f

end Authenticator

/-- The credentials that came with a request. -/
def credentials (h : Headers) (sessionKey : Option String) : Except Fault Credentials :=
  match bearerToken h with
  | .error f => .error f
  | .ok token =>
    match sessionKey with
    | some key => .ok ⟨token, key⟩
    | none => .error (.unauthenticated "session_key cookie required")

end RpcGateway.Access
