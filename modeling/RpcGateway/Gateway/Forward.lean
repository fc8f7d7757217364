import RpcGateway.Access.Authentication
import RpcGateway.Access.RateLimiter
import RpcGateway.Calls.Dispatch
import RpcGateway.Calls.Retry
import RpcGateway.Gateway.RouteTable
import RpcGateway.Http.Cookie
import RpcGateway.Http.Response
import RpcGateway.Json.Value
import RpcGateway.Measurement.Metrics
import RpcGateway.Net.SocketAddress
import RpcGateway.Text.Percent

/-!
# Forwarding

A request that has found its route becomes a call of the route's operation: its body is the payload,
the parameters of its path are the parameters, and its answer is the body of the response. A session
key in the answer is handed out as a cookie instead.
-/

namespace RpcGateway.Gateway

open Http Json Calls Access Measurement

/-- What all requests share. -/
structure State where
  registry : Registry := {}
  store : CounterStore := {}
  inFlight : Nat := 0
  metrics : Metrics := {}
  /-- The number of the next fresh request identifier. -/
  nextId : Nat := 0

/-- A body, and how long it keeps its reader waiting if its end ever comes. -/
structure Body where
  octets : Bytes := []
  delay : Option Nat := some 0
deriving DecidableEq, Repr

structure Request where
  method : String
  path : String
  headers : Headers := []
  body : Body := {}
  /-- The address of the client, if it is known. -/
  client : Option Net.SocketAddress := none

/-- What the stages of the gateway know about a request. -/
structure Context where
  requestId : String
  deadline : Deadline
  sessionKey : Option String
  identity : Option Rpc.Identity := none

namespace Forward

def setRegistry (r : Registry) (s : State) : State := { s with registry := r }

/-- An activity over the services. -/
def onRegistry (t : Activity Registry α) : Activity State α := t.onPart State.registry setRegistry

/-- A body may not be longer than this, whatever else is allowed. -/
def extractorLimit : Nat := 2097152

def isBlank (b : UInt8) : Bool := b == 0x20 || b == 0x09 || b == 0x0A || b == 0x0C || b == 0x0D

/-- The payload of a body; nothing but blanks is no payload. -/
def payload? (body : Bytes) : Option Value :=
  if body.all isBlank then some .null else Value.parse? body

/-- The parameters of a path with their escapes resolved, or the first whose octets are no text. -/
def decodeParams : PathPattern.Captures → Except String (List (String × String))
  | [] => .ok []
  | (name, raw) :: r =>
    match Utf8.decode? (Text.percentDecode (Utf8.encode raw)) with
    | none => .error name
    | some v =>
      match decodeParams r with
      | .ok ps => .ok ((name, v) :: ps)
      | .error e => .error e

/-- The beginnings of the names that routers keep for parameters of their own. -/
def reservedBeginnings : List String :=
  ["__private__axum_nest_tail_param", "__private__axum_fallback"]

/-- A parameter under a reserved name is not handed on, whatever it holds. -/
def isReserved (name : String) : Bool := reservedBeginnings.any fun b ↦ b.isPrefixOf name

def invalidParam (name : String) : Response :=
  .plain 400 ("Invalid URL: Invalid UTF-8 in \x60" ++ name ++ "\x60")

def bodyTooLong : Response := .plain 413 "Failed to buffer the request body: length limit exceeded"

/-- Takes the session key out of an answer. -/
def takeSessionKey (reply : Value) : Option String × Value :=
  match reply with
  | .object fields =>
    match (reply.get? Cookie.sessionName).bind Value.string? with
    | some key => (some key, .object (fields.filter fun f ↦ f.1 ≠ Cookie.sessionName))
    | none => (none, reply)
  | _ => (none, reply)

/-- The response to an answer. -/
def respond (secureCookies : Bool) (ctx : Context) (reply : Value) : Response :=
  let (key, reply) := takeSessionKey reply
  let r := Response.json 200 reply
  match key with
  | none => r
  | some key =>
    match Cookie.session? key secureCookies with
    | some cookie => { r with headers := r.headers.add "set-cookie" cookie }
    | none =>
      .ofFault (.internal "backend issued an invalid session key") (some ctx.requestId)

def rpcRequest (ctx : Context) (operation : String) (params : List (String × String))
    (payload : Value) : Rpc.Request where
  operation := operation
  payload := payload
  params := params
  identity := ctx.identity
  sessionKey := ctx.sessionKey
  requestId := ctx.requestId

/-- A request whose body has come in. -/
def withBody (call : Caller) (secureCookies : Bool) (service operation : String)
    (ctx : Context) (params : List (String × String)) (body : Bytes) : Activity State Response :=
  match payload? body with
  | none =>
    .done (.ofFault (.validation "invalid JSON body: not a JSON value") (some ctx.requestId))
  | some payload =>
    (onRegistry (call service ctx.deadline (rpcRequest ctx operation params payload))).map fun
        | .ok reply => respond secureCookies ctx reply
        | .error f => .ofFault f (some ctx.requestId)

/-- Serves a route of a service; `limit` bounds the body. -/
def run (call : Caller) (secureCookies : Bool) (service operation : String) (limit : Nat)
    (ctx : Context) (captures : PathPattern.Captures) (body : Body) : Activity State Response :=
  match decodeParams (captures.filter fun c ↦ !isReserved c.1) with
  | .error name => .done (invalidParam name)
  | .ok params =>
    match body.delay with
    | none => .hang
    | some ms => (Activity.sleep ms).bind fun _ ↦
      if min limit extractorLimit < body.octets.length then .done bodyTooLong
      else withBody call secureCookies service operation ctx params body.octets

end Forward

end RpcGateway.Gateway
