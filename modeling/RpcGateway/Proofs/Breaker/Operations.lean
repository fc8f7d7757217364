import RpcGateway.Calls.Breaker

/-!
# What the operations of a breaker do

Each operation of a breaker is described once by a relation between the breaker before and the
breaker after: what time brings about, how a call is let in, and what the end of a call changes.
Every change of state and every reset begins a generation, and a breaker at the beginning of a
generation is the same whatever it was before, up to its settings. The invariant of a breaker
between two operations follows from these descriptions alone.
-/

namespace RpcGateway.Calls

/-- The counts with one more result. -/
def Counts.result (c : Counts) (success : Bool) : Counts :=
  if success then c.success else c.failure

/-- A count is the number of what it has counted, or stands at its largest value. -/
theorem bump_min (n : Nat) : bump (min n maxCount) = min (n + 1) maxCount := by
  unfold bump
  omega

/-- Below its largest value a count is exact. -/
theorem bump_of_lt {n : Nat} (h : n < maxCount) : bump n = n + 1 := by
  unfold bump
  omega

namespace Breaker

variable {b b' : Breaker} {now : Time} {target : CircuitState} {p : Permit} {success : Bool}

/-- The part of a breaker that no operation changes. -/
structure Settings where
  failureThreshold : Nat
  openTimeout : Time
  halfOpenMax : Nat
  rollingInterval : Time

def settings (b : Breaker) : Settings :=
  ⟨b.failureThreshold, b.openTimeout, b.halfOpenMax, b.rollingInterval⟩

/-- `b'` is `b` but for its counts and probes. -/
structure Alike (b b' : Breaker) : Prop where
  settings : b'.settings = b.settings
  state : b'.state = b.state
  generation : b'.generation = b.generation
  openedAt : b'.openedAt = b.openedAt
  rollingResetAt : b'.rollingResetAt = b.rollingResetAt

theorem Alike.refl (b : Breaker) : b.Alike b := ⟨rfl, rfl, rfl, rfl, rfl⟩

theorem openTimeout_eq (h : b'.settings = b.settings) : b'.openTimeout = b.openTimeout :=
  congrArg Settings.openTimeout h

theorem halfOpenMax_eq (h : b'.settings = b.settings) : b'.halfOpenMax = b.halfOpenMax :=
  congrArg Settings.halfOpenMax h

theorem rollingInterval_eq (h : b'.settings = b.settings) :
    b'.rollingInterval = b.rollingInterval :=
  congrArg Settings.rollingInterval h

/-- To give a slot back changes nothing else. -/
theorem alike_freeProbe (b : Breaker) (p : Permit) : b.Alike (b.freeProbe p) := by
  unfold freeProbe
  split
  · exact ⟨rfl, rfl, rfl, rfl, rfl⟩
  · exact Alike.refl b

@[simp]
theorem counts_freeProbe (b : Breaker) (p : Permit) : (b.freeProbe p).counts = b.counts := by
  unfold freeProbe
  split <;> rfl

/-- Only a probe has a slot to give back. -/
theorem probes_freeProbe (b : Breaker) (p : Permit) :
    (b.freeProbe p).probes = if p.probe then b.probes - 1 else b.probes := by
  unfold freeProbe
  split <;> rfl

/-- A call that is given up costs the breaker its slot at most. -/
theorem alike_release (b : Breaker) (p : Permit) : b.Alike (b.release p) := by
  unfold release
  split
  · exact alike_freeProbe b p
  · exact Alike.refl b

/-- A result of the present generation is counted, and its slot is given back. -/
def counted (b : Breaker) (p : Permit) (success : Bool) : Breaker :=
  { b.freeProbe p with counts := b.counts.result success }

@[simp]
theorem counts_counted (b : Breaker) (p : Permit) (success : Bool) :
    (b.counted p success).counts = b.counts.result success := rfl

theorem alike_counted (b : Breaker) (p : Permit) (success : Bool) :
    b.Alike (b.counted p success) := by
  have h := alike_freeProbe b p
  exact ⟨h.settings, h.state, h.generation, h.openedAt, h.rollingResetAt⟩

/-- The number of a generation is never that of the one before, also where it wraps. -/
theorem nextGeneration_ne (n : Nat) : nextGeneration n ≠ n := by
  unfold nextGeneration Word.max64
  omega

/-! ## The beginning of a generation -/

/-- `b'` is `b` at the beginning of a generation in the state `target`. -/
structure Renewed (b : Breaker) (now : Time) (target : CircuitState) (b' : Breaker) : Prop where
  settings : b'.settings = b.settings
  state : b'.state = target
  generation : b'.generation = nextGeneration b.generation
  counts : b'.counts = {}
  probes : b'.probes = 0
  openedAt : target = .open → b'.openedAt = some now
  rollingResetAt : target = .closed → b'.rollingResetAt = rollingDeadline now b.rollingInterval

/-- A generation begins in the state that the breaker is in, with nothing counted. -/
theorem renewed_newGeneration (b : Breaker) (now : Time) :
    b.Renewed now b.state (b.newGeneration now) := by
  unfold newGeneration
  cases hstate : b.state <;> constructor <;> simp_all [Breaker.settings]

/-- A change of state begins a generation. -/
theorem renewed_transition (h : b.state ≠ target) :
    b.Renewed now target (b.transition target now) := by
  have hnew := renewed_newGeneration { b with state := target } now
  simp only [transition, if_neg h]
  exact ⟨hnew.settings, hnew.state, hnew.generation, hnew.counts, hnew.probes, hnew.openedAt,
    hnew.rollingResetAt⟩

/-- Of the breaker before only the settings and the generation matter. -/
theorem Renewed.of_eq {a : Breaker} (h : a.Renewed now target b') (hs : a.settings = b.settings)
    (hg : a.generation = b.generation) : b.Renewed now target b' where
  settings := h.settings.trans hs
  state := h.state
  generation := by rw [h.generation, hg]
  counts := h.counts
  probes := h.probes
  openedAt := h.openedAt
  rollingResetAt := by
    have hr : a.rollingInterval = b.rollingInterval := congrArg Settings.rollingInterval hs
    rw [← hr]
    exact h.rollingResetAt

/-! ## Time -/

/-- What time brings about: a closed breaker begins anew once its reset is due, and an open one lets
probes through once it has been open long enough. -/
inductive Due (b : Breaker) (now : Time) : CircuitState → Prop where
  | reset {t : Time} (closed : b.state = .closed) (resetAt : b.rollingResetAt = some t)
      (le : t ≤ now) : Due b now .closed
  | expiry (opened : b.state = .open)
      (elapsed : ∀ t, b.openedAt = some t → b.openTimeout ≤ now - t) : Due b now .halfOpen

/-- Nothing is left to be done that time has brought about. -/
def Fresh (b : Breaker) (now : Time) : Prop := ∀ target, ¬ b.Due now target

inductive Refreshes (b : Breaker) (now : Time) : Breaker → Prop where
  | fresh (fresh : b.Fresh now) : Refreshes b now b
  | due {target : CircuitState} {b' : Breaker} (due : b.Due now target)
      (renewed : b.Renewed now target b') : Refreshes b now b'

theorem refreshes_of_closed (hstate : b.state = .closed) : b.Refreshes now (b.refresh now) := by
  cases hreset : b.rollingResetAt with
  | none =>
    have hrefresh : b.refresh now = b := by simp only [refresh, hstate, hreset]
    rw [hrefresh]
    refine .fresh fun target hdue ↦ ?_
    cases hdue with
    | reset closed resetAt => simp [hreset] at resetAt
    | expiry opened => simp [hstate] at opened
  | some t =>
    by_cases hle : t ≤ now
    · have hrefresh : b.refresh now = b.newGeneration now := by
        simp only [refresh, hstate, hreset, if_pos hle]
      have hnew := renewed_newGeneration b now
      rw [hstate] at hnew
      rw [hrefresh]
      exact .due (.reset hstate hreset hle) hnew
    · have hrefresh : b.refresh now = b := by simp only [refresh, hstate, hreset, if_neg hle]
      rw [hrefresh]
      refine .fresh fun target hdue ↦ ?_
      cases hdue with
      | reset closed resetAt le =>
        rw [hreset, Option.some.injEq] at resetAt
        exact hle (resetAt ▸ le)
      | expiry opened => simp [hstate] at opened

theorem refreshes_of_open (hstate : b.state = .open) : b.Refreshes now (b.refresh now) := by
  by_cases helapsed : ∀ t, b.openedAt = some t → b.openTimeout ≤ now - t
  · have hrefresh : b.refresh now = b.transition .halfOpen now := by
      cases hopened : b.openedAt with
      | none => simp [refresh, hstate, hopened]
      | some t => simp only [refresh, hstate, hopened, if_pos (helapsed t hopened)]
    rw [hrefresh]
    exact .due (.expiry hstate helapsed) (renewed_transition (by simp [hstate]))
  · have hrefresh : b.refresh now = b := by
      obtain ⟨t, ht⟩ := Classical.not_forall.mp helapsed
      obtain ⟨hopened, hlt⟩ := Classical.not_imp.mp ht
      simp only [refresh, hstate, hopened, if_neg hlt]
    rw [hrefresh]
    refine .fresh fun target hdue ↦ ?_
    cases hdue with
    | reset closed => simp [hstate] at closed
    | expiry opened elapsed => exact helapsed elapsed

/-- The first thing that each operation does. -/
theorem refreshes (b : Breaker) (now : Time) : b.Refreshes now (b.refresh now) := by
  cases hstate : b.state with
  | closed => exact refreshes_of_closed hstate
  | «open» => exact refreshes_of_open hstate
  | halfOpen =>
    have hrefresh : b.refresh now = b := by simp only [refresh, hstate]
    rw [hrefresh]
    refine .fresh fun target hdue ↦ ?_
    cases hdue with
    | reset closed => simp [hstate] at closed
    | expiry opened => simp [hstate] at opened

/-- A breaker that time has just changed is not due again at that instant: it has a reset ahead of
it, or it waits for its probes. -/
theorem Renewed.fresh (due : b.Due now target) (h : b.Renewed now target b') : b'.Fresh now := by
  intro next hdue
  have hstate := h.state
  cases due with
  | reset =>
    cases hdue with
    | reset closed resetAt le =>
      rw [h.rollingResetAt rfl, rollingDeadline] at resetAt
      split at resetAt
      · simp at resetAt
      · rw [Option.some.injEq] at resetAt
        unfold Time at *
        omega
    | expiry opened => simp [hstate] at opened
  | expiry =>
    cases hdue with
    | reset closed => simp [hstate] at closed
    | expiry opened => simp [hstate] at opened

/-- Time brings nothing about twice at one instant. -/
theorem fresh_refresh (b : Breaker) (now : Time) : (b.refresh now).Fresh now := by
  have h := refreshes b now
  generalize b.refresh now = r at h
  cases h with
  | fresh fresh => exact fresh
  | due due renewed => exact renewed.fresh due

/-- A refresh with nothing due leaves the breaker as it is. -/
theorem Fresh.refresh_eq (h : b.Fresh now) : b.refresh now = b := by
  have hr := refreshes b now
  generalize b.refresh now = r at hr
  cases hr with
  | fresh => rfl
  | due due => exact absurd due (h _)

/-! ## Calls -/

/-- How a breaker answers a call that asks to be let in. -/
inductive Acquires (b : Breaker) : Option Permit × Breaker → Prop where
  | refused (opened : b.state = .open) : Acquires b (none, b)
  | full (probing : b.state = .halfOpen) (full : b.halfOpenMax ≤ b.probes) : Acquires b (none, b)
  | admitted (closed : b.state = .closed) :
      Acquires b (some ⟨b.generation, false⟩, { b with counts := b.counts.request })
  | probe (probing : b.state = .halfOpen) (room : b.probes < b.halfOpenMax) :
      Acquires b (some ⟨b.generation, true⟩,
        { b with probes := b.probes + 1, counts := b.counts.request })

/-- An answer is given by the breaker as it is after its refresh. -/
theorem acquires (b : Breaker) (now : Time) : (b.refresh now).Acquires (b.acquire now) := by
  unfold acquire
  generalize b.refresh now = r
  dsimp only
  split
  · rename_i hstate
    exact .refused hstate
  · rename_i hstate
    split
    · rename_i hfull
      exact .full hstate hfull
    · rename_i hroom
      exact .probe hstate (Nat.lt_of_not_le hroom)
  · rename_i hstate
    exact .admitted hstate

/-- The results that a breaker only counts. -/
inductive Keeps (b : Breaker) : Bool → Prop where
  | success (closed : b.state = .closed) : Keeps b true
  | failure (closed : b.state = .closed)
      (below : bump b.counts.consecutiveFailures < b.failureThreshold) : Keeps b false
  | probe (probing : b.state = .halfOpen)
      (below : bump b.counts.consecutiveSuccesses < b.halfOpenMax) : Keeps b true

/-- The results that change the state of a breaker, and the state after. -/
inductive Turns (b : Breaker) : Bool → CircuitState → Prop where
  | trip (closed : b.state = .closed)
      (reached : b.failureThreshold ≤ bump b.counts.consecutiveFailures) : Turns b false .open
  | close (probing : b.state = .halfOpen)
      (reached : b.halfOpenMax ≤ bump b.counts.consecutiveSuccesses) : Turns b true .closed
  | reopen (probing : b.state = .halfOpen) : Turns b false .open

/-- A result that turns a breaker takes it to another state. -/
theorem Turns.state_ne (h : b.Turns success target) : b.state ≠ target := by
  cases h with
  | trip closed => simp [closed]
  | close probing => simp [probing]
  | reopen probing => simp [probing]

/-- What the end of a call does to a breaker. -/
inductive Completes (b : Breaker) (p : Permit) (now : Time) (success : Bool) : Breaker → Prop where
  | discarded (stale : b.generation ≠ p.generation) : Completes b p now success b
  | ignored (current : b.generation = p.generation) (opened : b.state = .open) :
      Completes b p now success (b.freeProbe p)
  | counted (current : b.generation = p.generation) (keeps : b.Keeps success) :
      Completes b p now success (b.counted p success)
  | turned {target : CircuitState} {b' : Breaker} (current : b.generation = p.generation)
      (turns : b.Turns success target) (renewed : b.Renewed now target b') :
      Completes b p now success b'

theorem Keeps.of_freeProbe (h : (b.freeProbe p).Keeps success) : b.Keeps success := by
  unfold freeProbe at h
  split at h
  · cases h with
    | success closed => exact .success closed
    | failure closed below => exact .failure closed below
    | probe probing below => exact .probe probing below
  · exact h

theorem Turns.of_freeProbe (h : (b.freeProbe p).Turns success target) : b.Turns success target := by
  unfold freeProbe at h
  split at h
  · cases h with
    | trip closed reached => exact .trip closed reached
    | close probing reached => exact .close probing reached
    | reopen probing => exact .reopen probing
  · exact h

/-- A turn is the same whatever has been counted before. -/
theorem Turns.renewed (h : b.Turns success target) (counts : Counts) :
    b.Renewed now target (({ b with counts := counts }).transition target now) := by
  have hne : ({ b with counts := counts } : Breaker).state ≠ target := h.state_ne
  exact (renewed_transition hne).of_eq rfl rfl

/-- A result is passed over in the open state; otherwise it is counted, or it turns the breaker. -/
theorem record_cases (b : Breaker) (now : Time) (success : Bool) :
    (b.state = .open ∧ b.record now success = b) ∨
      (b.Keeps success ∧ b.record now success = { b with counts := b.counts.result success }) ∨
      ∃ target, b.Turns success target ∧ b.Renewed now target (b.record now success) := by
  unfold record
  split
  · rename_i hstate
    exact .inr (.inl ⟨.success hstate, rfl⟩)
  · rename_i hstate
    dsimp only
    split
    · rename_i hreached
      have hturns : b.Turns false .open := .trip hstate hreached
      exact .inr (.inr ⟨.open, hturns, hturns.renewed _⟩)
    · rename_i hbelow
      exact .inr (.inl ⟨.failure hstate (Nat.lt_of_not_le hbelow), rfl⟩)
  · rename_i hstate
    dsimp only
    split
    · rename_i hreached
      have hturns : b.Turns true .closed := .close hstate hreached
      exact .inr (.inr ⟨.closed, hturns, hturns.renewed _⟩)
    · rename_i hbelow
      exact .inr (.inl ⟨.probe hstate (Nat.lt_of_not_le hbelow), rfl⟩)
  · rename_i hstate
    have hturns : b.Turns false .open := .reopen hstate
    exact .inr (.inr ⟨.open, hturns, hturns.renewed _⟩)
  · rename_i hstate
    exact .inl ⟨hstate, rfl⟩

/-- The end of a call of the present generation gives its slot back before the result is looked at,
which makes no difference to what the result does. -/
theorem completes_of_current (current : b.generation = p.generation) :
    b.Completes p now success ((b.freeProbe p).record now success) := by
  obtain ⟨hopen, hrecord⟩ | ⟨hkeeps, hrecord⟩ | ⟨target, hturns, hrenewed⟩ :=
    record_cases (b.freeProbe p) now success
  · rw [hrecord]
    exact .ignored current ((alike_freeProbe b p).state.symm.trans hopen)
  · rw [hrecord, counts_freeProbe]
    exact .counted current hkeeps.of_freeProbe
  · exact .turned current hturns.of_freeProbe
      (hrenewed.of_eq (alike_freeProbe b p).settings (alike_freeProbe b p).generation)

/-- The end of a call comes to what the breaker makes of it after its refresh. -/
theorem completes (b : Breaker) (p : Permit) (now : Time) (success : Bool) :
    (b.refresh now).Completes p now success (b.complete p now success) := by
  unfold complete
  generalize b.refresh now = r
  dsimp only
  split
  · rename_i hcurrent
    exact completes_of_current hcurrent
  · rename_i hstale
    exact .discarded hstale

/-! ## What a call leaves unchanged -/

/-- `b'` is `b` with one more call, which holds the permit `p`. -/
structure Admits (b : Breaker) (p : Permit) (b' : Breaker) : Prop where
  alike : b.Alike b'
  generation : p.generation = b.generation
  state_ne_open : b.state ≠ .open
  probe_iff : p.probe = true ↔ b.state = .halfOpen
  counts : b'.counts = b.counts.request
  probes : b.state = .halfOpen → b'.probes = b.probes + 1

/-- To let a call in changes nothing but the counts and, for a probe, the slots. -/
theorem Acquires.admits (h : b.Acquires (some p, b')) : b.Admits p b' := by
  cases h with
  | admitted closed =>
    exact ⟨⟨rfl, rfl, rfl, rfl, rfl⟩, rfl, by simp [closed], by simp [closed], rfl,
      by simp [closed]⟩
  | probe probing =>
    exact ⟨⟨rfl, rfl, rfl, rfl, rfl⟩, rfl, by simp [probing], by simp [probing], rfl,
      fun _ ↦ rfl⟩

/-- The end of a call turns the breaker or leaves it as it is but for its counts and probes. -/
theorem Completes.alike_or_turned (h : b.Completes p now success b') :
    b.Alike b' ∨ ∃ target, b.Turns success target ∧ b.Renewed now target b' := by
  cases h with
  | discarded => exact .inl (Alike.refl b)
  | ignored => exact .inl (alike_freeProbe b p)
  | counted => exact .inl (alike_counted b p success)
  | turned current turns renewed => exact .inr ⟨_, turns, renewed⟩

/-- No result changes the settings. -/
theorem Completes.settings (h : b.Completes p now success b') : b'.settings = b.settings := by
  obtain halike | ⟨target, -, hrenewed⟩ := h.alike_or_turned
  · exact halike.settings
  · exact hrenewed.settings

/-! ## The invariant of a breaker -/

/-- What holds of a breaker between any two operations. -/
structure Sound (b : Breaker) : Prop where
  threshold_pos : 0 < b.failureThreshold
  halfOpenMax_pos : 0 < b.halfOpenMax
  probes_le : b.probes ≤ b.halfOpenMax
  probes_eq_zero : b.state ≠ .halfOpen → b.probes = 0
  closed : b.state = .closed → b.counts.consecutiveFailures < b.failureThreshold
  opened : b.state = .open → b.counts = {} ∧ b.openedAt.isSome
  no_failure : b.state = .halfOpen →
    b.counts.totalFailures = 0 ∧ b.counts.consecutiveFailures = 0
  successes : b.state = .halfOpen →
    b.counts.totalSuccesses = b.counts.consecutiveSuccesses ∧
      b.counts.consecutiveSuccesses < b.halfOpenMax

/-- A new breaker is closed and has counted nothing, and it is made with positive settings. -/
theorem sound_new (c : Config.CircuitBreaker) (now : Time) : (new c now).Sound where
  threshold_pos := by simp only [new]; omega
  halfOpenMax_pos := by simp only [new]; omega
  probes_le := Nat.zero_le _
  probes_eq_zero _ := rfl
  closed _ := by simp only [new]; omega
  opened h := by simp [new] at h
  no_failure h := by simp [new] at h
  successes h := by simp [new] at h

/-- What holds at the beginning of a generation holds whatever was before. -/
theorem Sound.renewed (h : b.Sound) (hb : b.Renewed now target b') : b'.Sound := by
  have hthreshold : b'.failureThreshold = b.failureThreshold :=
    congrArg Settings.failureThreshold hb.settings
  have hmax := halfOpenMax_eq hb.settings
  have hcounts := hb.counts
  have hprobes := hb.probes
  have hpos := h.threshold_pos
  have hmaxPos := h.halfOpenMax_pos
  constructor
  · rwa [hthreshold]
  · rwa [hmax]
  · omega
  · exact fun _ ↦ hprobes
  · intro _
    rw [hcounts, hthreshold]
    exact hpos
  · intro hstate
    rw [hb.openedAt (hb.state.symm.trans hstate)]
    exact ⟨hcounts, rfl⟩
  · intro _
    rw [hcounts]
    exact ⟨rfl, rfl⟩
  · intro _
    rw [hcounts, hmax]
    exact ⟨rfl, hmaxPos⟩

/-- A probe is let in only where there is room for it. -/
theorem Sound.acquires {o : Option Permit} (h : b.Sound) (hb : b.Acquires (o, b')) : b'.Sound := by
  cases hb with
  | refused => exact h
  | full => exact h
  | admitted closed =>
    exact { h with opened := fun hopen ↦ by simp [closed] at hopen }
  | probe probing room =>
    exact { h with
      probes_le := room
      probes_eq_zero := fun hne ↦ absurd probing hne
      opened := fun hopen ↦ by simp [probing] at hopen }

theorem Sound.freeProbe (h : b.Sound) (p : Permit) : (b.freeProbe p).Sound := by
  unfold Breaker.freeProbe
  split
  · have hle := h.probes_le
    exact { h with
      probes_le := by dsimp only; omega
      probes_eq_zero := fun hne ↦ by simp only [h.probes_eq_zero hne] }
  · exact h

theorem Sound.release (h : b.Sound) (p : Permit) : (b.release p).Sound := by
  unfold Breaker.release
  split
  · exact h.freeProbe p
  · exact h

theorem Sound.keeps (h : b.Sound) (hk : b.Keeps success) :
    ({ b with counts := b.counts.result success } : Breaker).Sound := by
  cases hk with
  | success closed =>
    exact { h with
      closed := fun _ ↦ h.threshold_pos
      opened := fun hopen ↦ by simp [closed] at hopen
      no_failure := fun hprobing ↦ by simp [closed] at hprobing
      successes := fun hprobing ↦ by simp [closed] at hprobing }
  | failure closed below =>
    exact { h with
      closed := fun _ ↦ below
      opened := fun hopen ↦ by simp [closed] at hopen
      no_failure := fun hprobing ↦ by simp [closed] at hprobing
      successes := fun hprobing ↦ by simp [closed] at hprobing }
  | probe probing below =>
    have hnone := h.no_failure probing
    have hsame := h.successes probing
    exact { h with
      closed := fun hclosed ↦ by simp [probing] at hclosed
      opened := fun hopen ↦ by simp [probing] at hopen
      no_failure := fun _ ↦ ⟨hnone.1, rfl⟩
      successes := fun _ ↦ ⟨congrArg bump hsame.1, below⟩ }

/-- Results that are only counted stay below the limits at which they would turn the breaker. -/
theorem Sound.completes (h : b.Sound) (hb : b.Completes p now success b') : b'.Sound := by
  cases hb with
  | discarded => exact h
  | ignored => exact h.freeProbe p
  | counted current keeps =>
    have hfreed := (h.keeps keeps).freeProbe p
    unfold Breaker.counted Breaker.freeProbe at *
    split at hfreed <;> simpa [*] using hfreed
  | turned current turns renewed => exact h.renewed renewed

end Breaker

end RpcGateway.Calls
