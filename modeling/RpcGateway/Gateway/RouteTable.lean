import RpcGateway.Calls.Registry
import RpcGateway.Http.PathPattern
import RpcGateway.Text.Capital

/-!
# Route tables

Which handler serves a method on a path. Every route of a service is mounted under the name of
that service; a route to the root of a service also serves that path with a slash at its end. A
table exists only if no path has two handlers for a method and no two paths conflict.
-/

namespace RpcGateway.Gateway

open Http Calls

inductive Handler where
  | root
  | metrics
  | forward (service operation : String)
deriving DecidableEq, Repr

/-- The handlers of one path, by method. -/
abbrev Endpoint := List (String × Handler)

namespace Endpoint

/-- The methods that a route may have. -/
def supportedMethods : List String :=
  ["CONNECT", "DELETE", "GET", "HEAD", "OPTIONS", "PATCH", "POST", "PUT", "TRACE"]

def own? (e : Endpoint) (method : String) : Option Handler :=
  (e.find? fun h ↦ h.1 = method).map Prod.snd

/-- The handler of a method; what can be got can be asked for without its body. -/
def handler? (e : Endpoint) (method : String) : Option Handler :=
  match own? e method with
  | some h => some h
  | none => if method = "HEAD" then own? e "GET" else none

/-- The methods that a path has, in the order in which they came. -/
def allowed (e : Endpoint) : List String :=
  (e.flatMap fun h ↦ if h.1 = "GET" then ["GET", "HEAD"] else [h.1]).eraseDups

end Endpoint

structure RouteTable where
  routes : List (PathPattern × Endpoint)

namespace RouteTable

/-- Adds a handler to a path; a method may have only one. -/
def add? (table : List (String × Endpoint)) (path method : String) (h : Handler) :
    Option (List (String × Endpoint)) :=
  match table with
  | [] => some [(path, [(method, h)])]
  | (p, e) :: r =>
    if p = path then
      if (Endpoint.own? e method).isSome then none else some ((p, e ++ [(method, h)]) :: r)
    else (add? r path method h).map ((p, e) :: ·)

def mount (service : String) : String := "/api/" ++ service

/-- The paths that a route serves. -/
def fullPaths (service path : String) : List String :=
  if path = "/" then [mount service, mount service ++ "/"] else [mount service ++ path]

def addAll? (table : List (String × Endpoint)) (paths : List String) (method : String)
    (h : Handler) : Option (List (String × Endpoint)) :=
  match paths with
  | [] => some table
  | p :: r => (add? table p method h).bind fun table ↦ addAll? table r method h

/-- Adds a route, or nothing if its method is none that a route may have. -/
def addRoute? (service : String) (table : List (String × Endpoint)) (r : Config.Route) :
    Option (List (String × Endpoint)) :=
  let method := Text.upper r.method
  if Endpoint.supportedMethods.contains method then
    addAll? table (fullPaths service r.path) method (.forward service r.operation)
  else some table

def addService? (table : List (String × Endpoint)) (s : Service) :
    Option (List (String × Endpoint)) :=
  s.routes.foldlM (addRoute? s.name) table

/-- The handlers of all services, by path. -/
def backendRoutes? (services : List Service) : Option (List (String × Endpoint)) :=
  services.foldlM addService? []

def ownRoutes (withMetrics : Bool) : List (String × Endpoint) :=
  ("/", [("GET", .root)]) :: if withMetrics then [("/metrics", [("GET", .metrics)])] else []

def conflictFree : List PathPattern → Bool
  | [] => true
  | p :: r => !r.any p.conflicts && conflictFree r

def build? (services : List Service) (withMetrics : Bool) : Option RouteTable := do
  let backend ← backendRoutes? services
  let routes ← (ownRoutes withMetrics ++ backend).mapM fun e ↦
    (PathPattern.parse? e.1.toList).map fun p ↦ (p, e.2)
  if conflictFree (routes.map Prod.fst) then return ⟨routes⟩ else none

def find? (t : RouteTable) (path : String) : Option (Endpoint × PathPattern.Captures) :=
  PathPattern.find? t.routes path.toList

end RouteTable

end RpcGateway.Gateway
