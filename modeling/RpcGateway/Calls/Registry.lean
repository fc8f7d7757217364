import RpcGateway.Calls.Backend
import RpcGateway.Calls.Breaker
import RpcGateway.Text.Shown

/-!
# The registry

The services behind the gateway, one of a name, each with its own breaker, its backend and its
routes. The registry also keeps what has been sent to the backends and counts retries and
rejections.
-/

namespace RpcGateway.Calls

structure Service where
  name : String
  breaker : Breaker
  backend : Backend := .echoing
  routes : List Config.Route := []

namespace Service

def stateWord : CircuitState → String
  | .closed => "Closed"
  | .open => "Open"
  | .halfOpen => "HalfOpen"

/-- The service in words. -/
def describe (s : Service) : String :=
  "ServiceEntry \x7b name: " ++ Text.shown s.name ++ ", breaker: " ++ stateWord s.breaker.state ++
    ", routes: " ++ toString s.routes.length ++ " \x7d"

/-- The name of the service as a resource to be closed. -/
def resourceName (name : String) : String := "backend:" ++ name

end Service

/-- A number for each name that has been counted. -/
abbrev Tally := List (String × Nat)

def Tally.add (t : Tally) (name : String) (n : Nat) : Tally :=
  match t with
  | [] => [(name, n)]
  | (k, m) :: r => if k = name then (k, m + n) :: r else (k, m) :: Tally.add r name n

structure Registry where
  services : List Service := []
  /-- The calls made so far, the last one first, under the name of the service. -/
  calls : List (String × Rpc.Request) := []
  retries : Tally := []
  rejections : Tally := []

namespace Registry

/-- Adds a service in place of an earlier one of its name. -/
def register (r : Registry) (s : Service) : Registry :=
  { r with services := (r.services.filter fun t ↦ t.name ≠ s.name) ++ [s] }

/-- The services of a configuration, with new breakers. -/
def ofConfig (c : Config) (now : Time) : Registry :=
  c.services.foldl
    (fun r s ↦ r.register
      { name := s.name, breaker := Breaker.new c.circuitBreaker now, routes := s.routes }) {}

def service? (r : Registry) (name : String) : Option Service :=
  r.services.find? fun s ↦ s.name = name

def names (r : Registry) : List String := r.services.map Service.name

/-- Changes one service. -/
def update (r : Registry) (name : String) (change : Service → Service) : Registry :=
  { r with services := r.services.map fun s ↦ if s.name = name then change s else s }

def updateBreaker (r : Registry) (name : String) (change : Breaker → Breaker) : Registry :=
  r.update name fun s ↦ { s with breaker := change s.breaker }

end Registry

end RpcGateway.Calls
