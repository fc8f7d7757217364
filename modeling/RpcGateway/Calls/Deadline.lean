import RpcGateway.Activity

/-!
# Deadlines

An instant from which on no new work may start.
-/

namespace RpcGateway.Calls

structure Deadline where
  instant : Time
deriving DecidableEq, Repr

namespace Deadline

def after (now : Time) (ms : Nat) : Deadline := ⟨now + ms⟩

/-- The deadline `ms` from now, if the clock gets that far. -/
def after? (now : Time) (ms : Nat) : Option Deadline :=
  if now + ms < clockEnd then some (after now ms) else none

def remaining (d : Deadline) (now : Time) : Nat := d.instant - now

def isExpired (d : Deadline) (now : Time) : Bool := d.instant ≤ now

/-- Whether a wait from now on would not end before the deadline, if the clock gets to its end. -/
def wouldExpireAfter? (d : Deadline) (now : Time) (ms : Nat) : Option Bool :=
  (after? now ms).map fun wait ↦ d.instant ≤ wait.instant

theorem wouldExpireAfter?_eq (d : Deadline) (now : Time) (ms : Nat) :
    d.wouldExpireAfter? now ms =
      if clockEnd ≤ now + ms then none else some (decide (d.instant ≤ now + ms)) := by
  unfold wouldExpireAfter? after?
  by_cases hbeyond : clockEnd ≤ now + ms
  · rw [if_neg (Nat.not_lt.mpr hbeyond), if_pos hbeyond]
    rfl
  · rw [if_pos (Nat.lt_of_not_le hbeyond), if_neg hbeyond]
    rfl

/-- A wait that does not reach the deadline ends before it. -/
theorem add_lt_instant {d : Deadline} {now : Time} {ms : Nat}
    (h : d.wouldExpireAfter? now ms = some false) : now + ms < d.instant := by
  rw [wouldExpireAfter?_eq] at h
  split at h
  · cases h
  · exact Nat.lt_of_not_le (of_decide_eq_false (Option.some.inj h))

/-- The activity, dropped at the deadline. -/
def bound (d : Deadline) (t : Activity σ α) : Activity σ (Option α) := t.within d.instant

end Deadline

end RpcGateway.Calls
