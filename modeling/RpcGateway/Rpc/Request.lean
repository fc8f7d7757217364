import RpcGateway.Json.Value

/-!
# RPC requests

What the gateway asks of a backend: an operation, an opaque payload, the path parameters of the
route, and who is asking. Its JSON form is the envelope that goes over the wire.
-/

namespace RpcGateway.Rpc

open Json

structure Identity where
  subject : String
  role : String
deriving DecidableEq, Repr

def Identity.fields (i : Identity) : List (String × Value) :=
  [("subject_id", .string i.subject), ("role", .string i.role)]

def Identity.json (i : Identity) : Value := record i.fields

structure Request where
  operation : String
  payload : Value := .null
  params : List (String × String) := []
  identity : Option Identity := none
  sessionKey : Option String := none
  requestId : String

namespace Request

/-- Path parameters as an object, of which the last with a name counts. -/
def paramsJson (params : List (String × String)) : Value :=
  Value.ofFields (params.map fun p ↦ (p.1, .string p.2))

def json (r : Request) : Value :=
  record [("operation", .string r.operation), ("payload", r.payload),
    ("params", paramsJson r.params), ("identity", Value.ofOption Identity.json r.identity),
    ("session_key", Value.ofOption .string r.sessionKey), ("request_id", .string r.requestId)]

def render (r : Request) : Bytes := r.json.render

end Request

end RpcGateway.Rpc
