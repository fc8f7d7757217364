import RpcGateway.Access.CounterStore
import RpcGateway.Config.Sections

/-!
# Rate limits

Each client may make so many requests in a window, which its first request opens. A store that fails
or does not answer in time lets the request through.
-/

namespace RpcGateway.Access

structure RateLimiter where
  maxRequests : Nat
  windowMs : Nat
  storeTimeoutMs : Nat
deriving DecidableEq, Repr

/-- What the store had to say about a request. -/
inductive Verdict where
  | counted (n : Nat)
  | failed
  | timedOut
deriving DecidableEq, Repr

namespace RateLimiter

def ofConfig (c : Config.RateLimit) : RateLimiter :=
  ⟨c.maxRequests.toNat, c.windowSecs.toNat * 1000, c.storeTimeoutMs.toNat⟩

def counterKey (client : String) : String := "rl:" ++ client

/-- Counts one request of a client. -/
def count (l : RateLimiter) (client : String) : Activity CounterStore Verdict :=
  .act Activity.keep fun now _ ↦
    ((CounterStore.incrementInWindow (counterKey client) l.windowMs).within
      (now + l.storeTimeoutMs)).map fun
      | some (.ok n) => .counted n
      | some (.error _) => .failed
      | none => .timedOut

def allows (l : RateLimiter) : Verdict → Bool
  | .counted n => n ≤ l.maxRequests
  | .failed => true
  | .timedOut => true

/-- Whether a request of a client may go on. -/
def allow (l : RateLimiter) (client : String) : Activity CounterStore Bool :=
  (l.count client).map l.allows

/-- A number of seconds in words; none at all is told in nanoseconds. -/
def secondsText (n : Nat) : String := if n = 0 then "0ns" else toString n ++ "s"

/-- The limits in words. -/
def describe (c : Config.RateLimit) : String :=
  "RateLimiter \x7b max_requests: " ++ toString c.maxRequests.toNat ++ ", window: " ++
    secondsText c.windowSecs.toNat ++ ", .. \x7d"

end RateLimiter

end RpcGateway.Access
