import RpcGateway.Calls.Registry
import RpcGateway.Calls.Retry
import RpcGateway.Gateway.Fault

/-!
# Dispatch

A call of a service goes through the breaker of that service, and what the breaker lets through is
attempted as the retry policy says. The breaker hears of one outcome for each call that it has let
through, however many attempts the call took; a call that is dropped gives its permit back.
-/

namespace RpcGateway.Calls

open Json

/-- A way to call the services. -/
abbrev Caller := String → Deadline → Rpc.Request → Activity Registry (Except Fault Value)

namespace Registry

/-- One attempt of a request. -/
def attempt (service : String) (request : Rpc.Request) :
    Activity Registry (Except Rpc.Error Value) :=
  .act
    (fun _ r ↦
      { r.update service fun s ↦ { s with backend := s.backend.noted request.operation } with
        calls := (service, request) :: r.calls })
    fun _ r ↦
      match r.service? service with
      | some s => (s.backend.nextReply request).attempt
      | none => .done (.error (.unavailable service))

/-- Asks the breaker of a service for a call; a rejection is counted. -/
def acquire (service : String) (now : Time) (r : Registry) : Option Permit × Registry :=
  match r.service? service with
  | none => (none, r)
  | some s =>
    let (permit, breaker) := s.breaker.acquire now
    let r := r.updateBreaker service fun _ ↦ breaker
    match permit with
    | some p => (some p, r)
    | none => (none, { r with rejections := r.rejections.add service 1 })

def complete (service : String) (p : Permit) (success : Bool) (now : Time) (r : Registry) :
    Registry :=
  r.updateBreaker service fun b ↦ b.complete p now success

def release (service : String) (p : Permit) (_ : Time) (r : Registry) : Registry :=
  r.updateBreaker service fun b ↦ b.release p

def countRetry (service : String) (_ : Nat) (_ : Rpc.Error) (_ : Time) (r : Registry) : Registry :=
  { r with retries := r.retries.add service 1 }

/-- The fault that a failed call comes out as. -/
def faultOf : RetryError → Fault
  | .terminal e => .backend e
  | .exhausted n e => if n ≤ 1 then .backend e else .retriesExhausted n e
  | .deadlineExceeded _ => .deadlineExceeded

/-- Whole seconds until the breaker of a service lets probes through. -/
def retryAfterSecs (service : String) (now : Time) (r : Registry) : Nat × Registry :=
  let r := r.updateBreaker service fun b ↦ b.refresh now
  match r.service? service with
  | some s => (s.breaker.retryAfter now / 1000, r)
  | none => (0, r)

/-- A call that the breaker has let through. -/
def admitted (policy : RetryPolicy) (service : String) (deadline : Deadline) (request : Rpc.Request)
    (p : Permit) : Activity Registry (Except Fault Value) :=
  ((policy.run deadline (attempt service request) (countRetry service)).guarded
      (release service p)).bind fun result ↦
    .act (complete service p result.isOk) fun _ _ ↦ .done (result.mapError faultOf)

def rejected (service : String) : Activity Registry (Except Fault Value) :=
  (Activity.modifyGet (retryAfterSecs service)).map fun secs ↦
    .error (.circuitOpen service secs)

/-- Calls a service. -/
def call (policy : RetryPolicy) (service : String) (deadline : Deadline) (request : Rpc.Request) :
    Activity Registry (Except Fault Value) :=
  .act Activity.keep fun _ r ↦
    if (r.service? service).isNone then .done (.error (.unknownService service))
    else (Activity.modifyGet (acquire service)).bind fun
      | some p => admitted policy service deadline request p
      | none => rejected service

end Registry

end RpcGateway.Calls
