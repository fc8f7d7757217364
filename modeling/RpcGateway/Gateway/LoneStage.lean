import RpcGateway.Gateway.Pipeline

/-!
# Stages that stand alone

A request that no stage has given a context, in front of the authentication stage alone or at the
fallback handler. Without a context a stage can only report that it is missing, under the identifier
that came with the request.
-/

namespace RpcGateway.Gateway

open Http Access

def missingContext (h : Headers) : Response :=
  .ofFault (.internal "request context missing") (RequestId.ofHeaders? h)

/-- The endpoint of the root path. -/
def loneRoot : Endpoint := [("GET", .root)]

/-- What lies behind the authentication stage: the root path and nothing else. -/
def behindAuthentication (r : Request) : Response :=
  if r.path ≠ "/" then ⟨404, [], []⟩
  else if (loneRoot.handler? r.method).isSome then .plain 200 "root"
  else methodNotAllowed

/-- The authentication stage alone; a path without a handler is answered without completing the
response. -/
def loneAuthentication (publicRoutes : List String) (r : Request) : Response :=
  let response :=
    if isPublic publicRoutes r.path then behindAuthentication r else missingContext r.headers
  if r.path ≠ "/" then response
  else completed r (if (loneRoot.handler? r.method).isSome then [] else loneRoot.allowed) response

/-- The fallback handler. -/
def loneFallback (r : Request) : Response := completed r [] (missingContext r.headers)

end RpcGateway.Gateway
