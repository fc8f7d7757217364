/-!
# RPC codes

The closed set of reasons for which a backend call fails. `retryable` tells the transient reasons
from the lasting ones, and a backend that gives no reason of its own is judged by its HTTP status.
-/

namespace RpcGateway.Rpc

inductive Code where
  | cancelled
  | unknown
  | invalidArgument
  | deadlineExceeded
  | notFound
  | alreadyExists
  | permissionDenied
  | resourceExhausted
  | failedPrecondition
  | aborted
  | outOfRange
  | unimplemented
  | internal
  | unavailable
  | dataLoss
  | unauthenticated
deriving DecidableEq, Repr

namespace Code

def all : List Code :=
  [cancelled, unknown, invalidArgument, deadlineExceeded, notFound, alreadyExists, permissionDenied,
    resourceExhausted, failedPrecondition, aborted, outOfRange, unimplemented, internal,
    unavailable, dataLoss, unauthenticated]

def name : Code → String
  | cancelled => "cancelled"
  | unknown => "unknown"
  | invalidArgument => "invalid_argument"
  | deadlineExceeded => "deadline_exceeded"
  | notFound => "not_found"
  | alreadyExists => "already_exists"
  | permissionDenied => "permission_denied"
  | resourceExhausted => "resource_exhausted"
  | failedPrecondition => "failed_precondition"
  | aborted => "aborted"
  | outOfRange => "out_of_range"
  | unimplemented => "unimplemented"
  | internal => "internal"
  | unavailable => "unavailable"
  | dataLoss => "data_loss"
  | unauthenticated => "unauthenticated"

def ofName? (s : String) : Option Code := all.find? fun c ↦ c.name = s

theorem ofName?_name (c : Code) : ofName? c.name = some c := by cases c <;> decide

def retryable : Code → Bool
  | cancelled | deadlineExceeded | resourceExhausted | aborted | unavailable | dataLoss => true
  | _ => false

def ofHttpStatus (status : Nat) : Code :=
  match status with
  | 400 => invalidArgument
  | 401 => unauthenticated
  | 403 => permissionDenied
  | 404 => notFound
  | 408 => deadlineExceeded
  | 409 => alreadyExists
  | 412 => failedPrecondition
  | 416 => outOfRange
  | 429 => resourceExhausted
  | 499 => cancelled
  | 501 => unimplemented
  | 502 => unavailable
  | 503 => unavailable
  | 504 => deadlineExceeded
  | _ => if 500 ≤ status ∧ status ≤ 599 then internal else unknown

end Code

end RpcGateway.Rpc
