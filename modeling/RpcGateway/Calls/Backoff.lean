import RpcGateway.Number.Word

/-!
# Backoff

The wait between two attempts grows linearly with the number of attempts made. Durations count whole
seconds in 64 bits and nanoseconds beside them, and stop at the longest one.
-/

namespace RpcGateway.Calls

structure Span where
  secs : Nat
  nanos : Nat
deriving DecidableEq, Repr

namespace Span

def nanosPerSec : Nat := 1000000000

def maxSecs : Nat := Word.max64

def longest : Span := ⟨maxSecs, nanosPerSec - 1⟩

def toNanos (s : Span) : Nat := s.secs * nanosPerSec + s.nanos

/-- The span of a number of nanoseconds, or the longest one. -/
def ofNanos (n : Nat) : Span :=
  if longest.toNanos ≤ n then longest else ⟨n / nanosPerSec, n % nanosPerSec⟩

def nanosPerMilli : Nat := 1000000

def ofMillis (ms : Nat) : Span := ofNanos (ms * nanosPerMilli)

end Span

/-- The wait after the given number of failed attempts. Full seconds of the nanoseconds are
carried. -/
def backoff (attempt : Nat) (base : Span) : Span :=
  let nanos := base.nanos * attempt
  let secs := base.secs * attempt + nanos / Span.nanosPerSec
  if Span.maxSecs < secs then Span.longest else ⟨secs, nanos % Span.nanosPerSec⟩

/-- The same wait in whole milliseconds, for a base in whole milliseconds. -/
def backoffMillis (attempt : Nat) (baseMs : Nat) : Nat :=
  (backoff attempt (Span.ofMillis baseMs)).toNanos / Span.nanosPerMilli

end RpcGateway.Calls
