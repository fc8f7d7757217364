import RpcGateway.Proofs.Breaker.Operations

/-!
# What a read of a breaker shows

A read shows the state of a breaker and the failures in a row, after what time has brought about. It
shows the same whether the breaker has been read before or not, and whether a call has been refused
or not. A call that has been let in and fails at the same instant does show: it is one more failure
in a row, and may open the breaker.
-/

namespace RpcGateway.Calls.Breaker

variable {b b' : Breaker} {now t : Time} {target target' : CircuitState} {p : Permit}

/-- The state and the failures in a row as they are read at an instant. -/
def reading (b : Breaker) (t : Time) : CircuitState × Nat :=
  ((b.refresh t).state, (b.refresh t).counts.consecutiveFailures)

/-! ## Reads -/

theorem Due.mono (h : b.Due now target) (hle : now ≤ t) : b.Due t target := by
  cases h with
  | reset closed resetAt le => exact .reset closed resetAt (Nat.le_trans le hle)
  | expiry opened elapsed =>
    apply Due.expiry opened
    intro openedAt hopenedAt
    exact Nat.le_trans (elapsed openedAt hopenedAt) (Nat.sub_le_sub_right hle openedAt)

/-- Time brings about one thing in each state. -/
theorem Due.unique (h : b.Due now target) (h' : b.Due t target') : target = target' := by
  cases h with
  | reset closed =>
    cases h' with
    | reset => rfl
    | expiry opened => exact absurd (closed.symm.trans opened) nofun
  | expiry opened =>
    cases h' with
    | reset closed => exact absurd (closed.symm.trans opened) nofun
    | expiry => rfl

theorem Due.ne_open (h : b.Due now target) : target ≠ .open := by
  cases h <;> nofun

theorem reading_of_due (h : b.Due t target) : b.reading t = (target, 0) := by
  have hrefreshes := refreshes b t
  unfold reading
  generalize b.refresh t = r at hrefreshes
  cases hrefreshes with
  | fresh fresh => exact absurd h (fresh target)
  | due due renewed => rw [renewed.state, renewed.counts, h.unique due]

/-- At the beginning of a generation that time has brought about there are no failures, and none
come by themselves. -/
theorem Renewed.reading_eq (h : b.Renewed now target b') (hne : target ≠ .open) (t : Time) :
    b'.reading t = (target, 0) := by
  have hrefreshes := refreshes b' t
  unfold reading
  generalize b'.refresh t = r at hrefreshes
  cases hrefreshes with
  | fresh fresh => rw [h.state, h.counts]
  | due due renewed =>
    cases due with
    | reset closed => rw [renewed.state, renewed.counts, ← h.state, closed]
    | expiry opened => exact absurd (h.state.symm.trans opened) hne

/-- Whoever reads later does not see that somebody has read before. -/
theorem reading_refresh (b : Breaker) (hle : now ≤ t) :
    (b.refresh now).reading t = b.reading t := by
  have hrefreshes := refreshes b now
  generalize b.refresh now = r at hrefreshes
  cases hrefreshes with
  | fresh => rfl
  | due due renewed => rw [renewed.reading_eq due.ne_open, reading_of_due (due.mono hle)]

/-- To refuse a call is to read. -/
theorem acquire_of_refused (h : (b.acquire now).1 = none) : (b.acquire now).2 = b.refresh now := by
  have hacquires := acquires b now
  generalize b.acquire now = asked at h hacquires
  cases hacquires with
  | refused => rfl
  | full => rfl
  | admitted => cases h
  | probe => cases h

theorem acquire_of_open (h : (b.refresh now).state = .open) : (b.acquire now).1 = none := by
  have hacquires := acquires b now
  generalize b.acquire now = asked at hacquires
  cases hacquires with
  | refused => rfl
  | full => rfl
  | admitted closed => exact absurd (h.symm.trans closed) nofun
  | probe probing => exact absurd (h.symm.trans probing) nofun

/-! ## A call that fails at once -/

/-- `b'` is `b` with one more failure in a row, which has opened it if there were enough. -/
inductive Blames (b : Breaker) (now : Time) (b' : Breaker) : Prop where
  | counted (closed : b.state = .closed)
      (below : bump b.counts.consecutiveFailures < b.failureThreshold) (state : b'.state = .closed)
      (failures : b'.counts.consecutiveFailures = bump b.counts.consecutiveFailures)
  | opened (reached : b.state = .halfOpen ∨
        b.failureThreshold ≤ bump b.counts.consecutiveFailures)
      (state : b'.state = .open) (openedAt : b'.openedAt = some now)

theorem Alike.fresh (h : b.Alike b') (hfresh : b.Fresh now) : b'.Fresh now := by
  intro target hdue
  apply hfresh target
  cases hdue with
  | reset closed resetAt le =>
    exact .reset (h.state.symm.trans closed) (h.rollingResetAt.symm.trans resetAt) le
  | expiry opened elapsed =>
    rw [h.openedAt, openTimeout_eq h.settings] at elapsed
    exact .expiry (h.state.symm.trans opened) elapsed

/-- A call that is let in and fails at the same instant is blamed on the service. -/
theorem blames_of_acquire (h : b.acquire now = (some p, b')) :
    (b.refresh now).Blames now (b'.complete p now false) := by
  have hadmits : (b.refresh now).Admits p b' := (h ▸ acquires b now).admits
  have halike := hadmits.alike
  have hcompletes := completes b' p now false
  -- Nothing is due again at the same instant, so the result finds the generation of its permit.
  rw [(halike.fresh (fresh_refresh b now)).refresh_eq] at hcompletes
  have hthreshold : b'.failureThreshold = (b.refresh now).failureThreshold :=
    congrArg Settings.failureThreshold halike.settings
  have hfailures : b'.counts.consecutiveFailures = (b.refresh now).counts.consecutiveFailures := by
    rw [hadmits.counts]
    rfl
  generalize b'.complete p now false = b'' at hcompletes
  cases hcompletes with
  | discarded stale => exact absurd (halike.generation.trans hadmits.generation.symm) stale
  | ignored current opened => exact absurd (halike.state.symm.trans opened) hadmits.state_ne_open
  | counted current keeps =>
    have hstate := (alike_counted b' p false).state
    cases keeps with
    | failure closed below =>
      rw [hthreshold, hfailures] at below
      exact .counted (halike.state.symm.trans closed) below (hstate.trans closed)
        (congrArg bump hfailures)
  | turned current turns renewed =>
    cases turns with
    | trip closed reached =>
      rw [hthreshold, hfailures] at reached
      exact .opened (.inr reached) renewed.state (renewed.openedAt rfl)
    | reopen probing =>
      exact .opened (.inl (halike.state.symm.trans probing)) renewed.state (renewed.openedAt rfl)

end RpcGateway.Calls.Breaker
