import RpcGateway.Config.Sections
import RpcGateway.Http.Header
import RpcGateway.Text.Capital

/-!
# Cross-origin requests

Which header fields tell a browser that another origin may use the gateway. A request for options
is a question of the browser and is answered here; other responses are marked. A star among the
allowed values allows whatever is asked for.
-/

namespace RpcGateway.Http.Cors

open Config (Cors)

def wildcard : String := "*"

def single (name : String) (value : Option Bytes) : Headers :=
  match value with
  | some v => [(name, v)]
  | none => []

def allowedOrigin? (c : Cors) (request : Headers) : Option Bytes :=
  (request.get? "origin").filter fun origin ↦
    c.allowedOrigins.contains wildcard ||
      (c.allowedOrigins.filterMap Headers.value?).contains origin

/-- The allowed methods that are methods at all, in upper case. -/
def methodList (c : Cors) : List Bytes :=
  (c.allowedMethods.map fun m ↦ Utf8.encode (Text.upper m)).filter isToken

def allowedMethods? (c : Cors) (request : Headers) : Option Bytes :=
  if c.allowedMethods.contains wildcard then request.get? "access-control-request-method"
  else if (methodList c).isEmpty then none
  else some (Text.join [0x2C] (methodList c))

def vary : Bytes :=
  Utf8.encode "origin, access-control-request-method, access-control-request-headers"

/-- The fields of every response. -/
def common (c : Cors) (request : Headers) : Headers :=
  single "access-control-allow-credentials"
      (if c.allowCredentials then some (Utf8.encode "true") else none) ++
    single "access-control-allow-origin" (allowedOrigin? c request)

/-- The fields of the answer to a browser's question. -/
def preflight (c : Cors) (request : Headers) : Headers :=
  common c request ++ single "access-control-allow-methods" (allowedMethods? c request) ++
    single "access-control-allow-headers" (request.get? "access-control-request-headers") ++
    [("access-control-max-age", Utf8.encode (toString c.maxAgeSecs.toNat)), ("vary", vary)]

/-- The fields of any other response, after those it has. -/
def mark (c : Cors) (request response : Headers) : Headers :=
  let fields := common c request ++ [("access-control-expose-headers", Utf8.encode "x-request-id")]
  fields.foldl (fun h f ↦ h.set f.1 f.2) response ++ [("vary", vary)]

end RpcGateway.Http.Cors
