import RpcGateway.Calls.Backoff
import RpcGateway.Calls.Deadline
import RpcGateway.Config.Sections
import RpcGateway.Rpc.Error

/-!
# Retries

An operation is attempted until it succeeds, fails for good, or has had all its attempts, and
never at or past its deadline. An attempt that is still going on at the deadline is dropped.
Between attempts there is a wait that grows with their number; a wait that would reach the
deadline is not begun, and over one whose end the clock cannot name the whole call breaks down.
-/

namespace RpcGateway.Calls

inductive RetryError where
  | terminal (e : Rpc.Error)
  | exhausted (attempts : Nat) (last : Rpc.Error)
  | deadlineExceeded (attempts : Nat)
deriving DecidableEq, Repr

namespace RetryError

def message : RetryError → String
  | terminal e => "terminal backend error: " ++ e.text
  | exhausted n e => "retries exhausted after " ++ toString n ++ " attempts: " ++ e.text
  | deadlineExceeded n => "deadline exceeded after " ++ toString n ++ " attempts"

end RetryError

structure RetryPolicy where
  /-- The number of attempts in all, at least one. -/
  maxAttempts : Nat
  baseDelayMs : Nat
deriving DecidableEq, Repr

namespace RetryPolicy

def ofConfig (c : Config.Retries) : RetryPolicy := ⟨max 1 c.maxRetries.toNat, c.baseDelayMs.toNat⟩

variable {σ α : Type}

/-- What follows an attempt after a wait, unless the wait would reach the deadline; a wait whose end
the clock cannot name is a breakdown. The word of the retry goes out before it. -/
def afterWait (deadline : Deadline) (delay made : Nat) (word : Time → σ → σ)
    (next : Activity σ (Except RetryError α)) : Activity σ (Except RetryError α) :=
  .act Activity.keep fun now _ ↦
    match deadline.wouldExpireAfter? now delay with
    | none => .panic
    | some true => .done (.error (.deadlineExceeded made))
    | some false => .act word fun _ _ ↦ (Activity.sleepUntil (now + delay)).bind fun _ ↦ next

/-- The attempts after the first `made`, of which at most `more + 1` are left. `onRetry` is told the
number and the error of each attempt that is followed by another. -/
def attempts (p : RetryPolicy) (deadline : Deadline) (op : Activity σ (Except Rpc.Error α))
    (onRetry : Nat → Rpc.Error → Time → σ → σ) (more made : Nat) :
    Activity σ (Except RetryError α) :=
  .act Activity.keep fun now _ ↦
    if deadline.isExpired now then .done (.error (.deadlineExceeded made))
    else (deadline.bound op).bind fun
      | none => .done (.error (.deadlineExceeded (made + 1)))
      | some (.ok a) => .done (.ok a)
      | some (.error e) =>
        if !e.retryable then .done (.error (.terminal e))
        else match more with
          | 0 => .done (.error (.exhausted (made + 1) e))
          | more + 1 =>
            afterWait deadline (backoffMillis (made + 1) p.baseDelayMs) (made + 1)
              (onRetry (made + 1) e) (attempts p deadline op onRetry more (made + 1))

/-- The operation, attempted as the policy says. -/
def run (p : RetryPolicy) (deadline : Deadline) (op : Activity σ (Except Rpc.Error α))
    (onRetry : Nat → Rpc.Error → Time → σ → σ) : Activity σ (Except RetryError α) :=
  attempts p deadline op onRetry (p.maxAttempts - 1) 0

end RetryPolicy

end RpcGateway.Calls
