import RpcGateway.Activity
import RpcGateway.Config.Sections
import RpcGateway.Number.Word

/-!
# Circuit breakers

A breaker is closed while its service answers, opens after a run of failures, and lets a few
probes through once it has been open long enough. Each change of state, and each reset of the
counts of a closed breaker, begins a new generation; the result of a call that was admitted in an
older one counts for nothing. Transitions that only time brings about are made by the next
operation.
-/

namespace RpcGateway.Calls

inductive CircuitState where
  | closed
  | open
  | halfOpen
deriving DecidableEq, Repr

namespace CircuitState

def name : CircuitState → String
  | closed => "closed"
  | «open» => "open"
  | halfOpen => "half_open"

def gauge : CircuitState → Nat
  | closed => 0
  | halfOpen => 1
  | «open» => 2

end CircuitState

def rejectionMessage (name : String) : String := "circuit breaker '" ++ name ++ "' is open"

def failureMessage (detail : String) : String := "operation failed: " ++ detail

/-- The largest count; counts stay there. -/
def maxCount : Nat := Word.max32

def bump (n : Nat) : Nat := min (n + 1) maxCount

/-- The calls of one generation. -/
structure Counts where
  requests : Nat := 0
  totalSuccesses : Nat := 0
  totalFailures : Nat := 0
  consecutiveSuccesses : Nat := 0
  consecutiveFailures : Nat := 0
deriving DecidableEq, Repr

namespace Counts

def request (c : Counts) : Counts := { c with requests := bump c.requests }

def success (c : Counts) : Counts :=
  { c with
    totalSuccesses := bump c.totalSuccesses
    consecutiveSuccesses := bump c.consecutiveSuccesses
    consecutiveFailures := 0 }

def failure (c : Counts) : Counts :=
  { c with
    totalFailures := bump c.totalFailures
    consecutiveFailures := bump c.consecutiveFailures
    consecutiveSuccesses := 0 }

end Counts

/-- What a breaker tells the outside: the state last sent to its observers, how often one was
sent, and the state that its gauge shows. -/
structure Publication where
  watched : CircuitState := .closed
  version : Nat := 0
  gauge : CircuitState := .closed
deriving DecidableEq, Repr

structure Breaker where
  failureThreshold : Nat
  openTimeout : Time
  halfOpenMax : Nat
  rollingInterval : Time
  state : CircuitState := .closed
  generation : Nat := 0
  counts : Counts := {}
  probes : Nat := 0
  openedAt : Option Time := none
  rollingResetAt : Option Time
  published : Publication := {}
deriving DecidableEq, Repr

/-- What an admitted call holds until it completes or is given up. -/
structure Permit where
  generation : Nat
  probe : Bool
deriving DecidableEq, Repr

namespace Breaker

def rollingDeadline (now interval : Time) : Option Time :=
  if interval = 0 then none else some (now + interval)

/-- A closed breaker; a threshold of zero counts as one. -/
def new (c : Config.CircuitBreaker) (now : Time) : Breaker where
  failureThreshold := max 1 c.failureThreshold.toNat
  openTimeout := c.openTimeoutMs.toNat
  halfOpenMax := max 1 c.halfOpenMaxRequests.toNat
  rollingInterval := c.rollingIntervalMs.toNat
  rollingResetAt := rollingDeadline now c.rollingIntervalMs.toNat

/-- Generations are counted in 64 bits. -/
def nextGeneration (n : Nat) : Nat := (n + 1) % (Word.max64 + 1)

def newGeneration (b : Breaker) (now : Time) : Breaker :=
  let b := { b with generation := nextGeneration b.generation, counts := {}, probes := 0 }
  match b.state with
  | .closed => { b with openedAt := none, rollingResetAt := rollingDeadline now b.rollingInterval }
  | .open => { b with openedAt := some now, rollingResetAt := none }
  | .halfOpen => { b with rollingResetAt := none }

def transition (b : Breaker) (target : CircuitState) (now : Time) : Breaker :=
  if b.state = target then b
  else
    { newGeneration { b with state := target } now with
      published := ⟨target, b.published.version + 1, target⟩ }

/-- The transition that time has brought about. -/
def refresh (b : Breaker) (now : Time) : Breaker :=
  match b.state with
  | .closed =>
    match b.rollingResetAt with
    | some t => if t ≤ now then b.newGeneration now else b
    | none => b
  | .open =>
    let elapsed := match b.openedAt with
      | some t => now - t
      | none => b.openTimeout
    if b.openTimeout ≤ elapsed then b.transition .halfOpen now else b
  | .halfOpen => b

/-- The time until an open breaker lets probes through, and zero in other states, once refreshed. -/
def retryAfter (b : Breaker) (now : Time) : Time :=
  match b.state, b.openedAt with
  | .open, some t => b.openTimeout - (now - t)
  | _, _ => 0

/-- Asks for a call. -/
def acquire (b : Breaker) (now : Time) : Option Permit × Breaker :=
  let b := b.refresh now
  match b.state with
  | .open => (none, b)
  | .halfOpen =>
    if b.halfOpenMax ≤ b.probes then (none, b)
    else
      (some ⟨b.generation, true⟩, { b with probes := b.probes + 1, counts := b.counts.request })
  | .closed => (some ⟨b.generation, false⟩, { b with counts := b.counts.request })

/-- Counts the result of a call of the present generation. -/
def record (b : Breaker) (now : Time) (success : Bool) : Breaker :=
  match b.state, success with
  | .closed, true => { b with counts := b.counts.success }
  | .closed, false =>
    let b := { b with counts := b.counts.failure }
    if b.failureThreshold ≤ b.counts.consecutiveFailures then b.transition .open now else b
  | .halfOpen, true =>
    let b := { b with counts := b.counts.success }
    if b.halfOpenMax ≤ b.counts.consecutiveSuccesses then b.transition .closed now else b
  | .halfOpen, false => { b with counts := b.counts.failure }.transition .open now
  | .open, _ => b

/-- Gives the slot of a probe back. -/
def freeProbe (b : Breaker) (p : Permit) : Breaker :=
  if p.probe then { b with probes := b.probes - 1 } else b

/-- A call has come to its end. -/
def complete (b : Breaker) (p : Permit) (now : Time) (success : Bool) : Breaker :=
  let b := b.refresh now
  if b.generation = p.generation then (b.freeProbe p).record now success else b

/-- A call has been given up. -/
def release (b : Breaker) (p : Permit) : Breaker :=
  if b.generation = p.generation then b.freeProbe p else b

end Breaker

end RpcGateway.Calls
