import RpcGateway.Rpc.Error

/-!
# Faults

Why the gateway answers a request with an error. The status, the code and the public message that
a client sees are functions of the fault; what a backend said stays behind the gateway unless the
client caused it.
-/

namespace RpcGateway

inductive Fault where
  | validation (detail : String)
  | unauthenticated (detail : String)
  | unauthorized (detail : String)
  | backend (error : Rpc.Error)
  | circuitOpen (service : String) (retryAfterSecs : Nat)
  | retriesExhausted (attempts : Nat) (last : Rpc.Error)
  | deadlineExceeded
  | rateLimited
  | overloaded
  | unknownService (service : String)
  | internal (detail : String)
deriving DecidableEq, Repr

namespace Fault

def backendStatus : Rpc.Code → Nat
  | .invalidArgument | .outOfRange => 400
  | .unauthenticated => 401
  | .permissionDenied => 403
  | .notFound => 404
  | .alreadyExists => 409
  | .failedPrecondition => 412
  | .deadlineExceeded => 504
  | .cancelled | .resourceExhausted | .aborted | .unavailable | .dataLoss => 503
  | .unknown | .unimplemented | .internal => 500

def status : Fault → Nat
  | validation _ => 400
  | unauthenticated _ => 401
  | unauthorized _ => 403
  | backend e => backendStatus e.code
  | circuitOpen _ _ => 503
  | retriesExhausted _ _ => 502
  | deadlineExceeded => 504
  | rateLimited => 429
  | overloaded => 503
  | unknownService _ => 500
  | internal _ => 500

def backendCode : Rpc.Code → String
  | .invalidArgument | .outOfRange => "validation_failed"
  | .unauthenticated => "unauthenticated"
  | .permissionDenied => "unauthorized"
  | .notFound => "not_found"
  | .alreadyExists => "already_exists"
  | .failedPrecondition => "failed_precondition"
  | .deadlineExceeded => "deadline_exceeded"
  | .cancelled | .resourceExhausted | .aborted | .unavailable | .dataLoss => "unavailable"
  | .unknown | .unimplemented | .internal => "internal"

/-- The machine-readable code of an error body. -/
def code : Fault → String
  | validation _ => "validation_failed"
  | unauthenticated _ => "unauthenticated"
  | unauthorized _ => "unauthorized"
  | backend e => backendCode e.code
  | circuitOpen _ _ => "circuit_open"
  | retriesExhausted _ _ => "retries_exhausted"
  | deadlineExceeded => "deadline_exceeded"
  | rateLimited => "rate_limited"
  | overloaded => "overloaded"
  | unknownService _ => "internal"
  | internal _ => "internal"

/-- The codes for which the caller is shown what the backend said. -/
def callerCaused : Rpc.Code → Bool
  | .invalidArgument | .outOfRange | .notFound | .alreadyExists | .failedPrecondition
  | .permissionDenied | .unauthenticated => true
  | _ => false

def publicMessage : Fault → String
  | validation m | unauthenticated m | unauthorized m => m
  | backend e =>
    if callerCaused e.code && e.message ≠ "" then e.message
    else if e.retryable then "backend temporarily unavailable"
    else "backend request failed"
  | circuitOpen _ _ => "service temporarily unavailable, retry later"
  | retriesExhausted _ _ => "backend request failed after retries"
  | deadlineExceeded => "request deadline exceeded"
  | rateLimited => "too many requests"
  | overloaded => "server capacity exceeded"
  | unknownService _ | internal _ => "internal server error"

/-- The message for operators. -/
def message : Fault → String
  | validation m => "validation failed: " ++ m
  | unauthenticated m => "unauthenticated: " ++ m
  | unauthorized m => "unauthorized: " ++ m
  | backend e => "backend error: " ++ e.text
  | circuitOpen service _ => "circuit open for service " ++ service
  | retriesExhausted attempts last =>
    "retries exhausted after " ++ toString attempts ++ " attempts: " ++ last.text
  | deadlineExceeded => "request deadline exceeded"
  | rateLimited => "rate limit exceeded"
  | overloaded => "server capacity exceeded"
  | unknownService service => "unknown service: " ++ service
  | internal m => "internal error: " ++ m

def clientError (f : Fault) : Bool := 400 ≤ f.status && f.status < 500

end Fault

end RpcGateway
