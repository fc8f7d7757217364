import RpcGateway.Proofs.Breaker.Traffic

/-!
# What a breaker counts

The counts and the probes of a breaker against the calls themselves. A breaker sees only the
number in a permit and its own counters; the traffic knows in which period each call was let in and
how it ended. As long as the numbers of generations have not come round, a permit is current
exactly if its call is of the present period, and then every count is the number of calls that it
stands for, cut off at the largest count.
-/

namespace RpcGateway.Calls.Traffic

variable {s s' : Traffic} {b : Breaker} {p : Permit} {x : EndedCall} {place : Nat}

/-! ## Generations and periods -/

/-- Numbers of generations follow the changes, as far as 64 bits go. -/
structure Stamped (s : Traffic) : Prop where
  generation : s.breaker.generation = s.changes % (Word.max64 + 1)
  stamp : ∀ c ∈ s.running, c.permit.generation = c.period % (Word.max64 + 1)
  period_le : ∀ c ∈ s.started, c.period ≤ s.changes
  endPeriod_le : ∀ x ∈ s.ended, x.endPeriod ≤ s.changes

theorem stamped_new (c : Config.CircuitBreaker) (start : Time) : (new c start).Stamped where
  generation := rfl
  stamp c hc := by simp [new] at hc
  period_le c hc := by simp [new, started] at hc
  endPeriod_le x hx := by simp [new] at hx

theorem Stamped.alike (h : s.Stamped) (hb : s.breaker.Alike b) : (s.update b).Stamped where
  generation := by
    rw [update_breaker, update_changes_of_eq hb.generation, hb.generation]
    exact h.generation
  stamp := h.stamp
  period_le := by
    rw [update_changes_of_eq hb.generation]
    exact h.period_le
  endPeriod_le := by
    rw [update_changes_of_eq hb.generation]
    exact h.endPeriod_le

theorem Stamped.renewed {t : Time} {target : CircuitState} (h : s.Stamped)
    (hb : s.breaker.Renewed t target b) : (s.update b).Stamped where
  generation := by
    rw [update_breaker, update_changes_of_renewed hb, hb.generation, h.generation,
      Breaker.nextGeneration, Nat.mod_add_mod]
  stamp := h.stamp
  period_le c hc := by
    rw [update_changes_of_renewed hb]
    exact Nat.le_succ_of_le (h.period_le c hc)
  endPeriod_le x hx := by
    rw [update_changes_of_renewed hb]
    exact Nat.le_succ_of_le (h.endPeriod_le x hx)

theorem Stamped.begin (h : s.Stamped) (hp : p.generation = s.breaker.generation) :
    (s.begin p).Stamped where
  generation := h.generation
  stamp c hc := by
    rw [begin_running, List.mem_cons] at hc
    obtain rfl | hc := hc
    · exact hp.trans h.generation
    · exact h.stamp c hc
  period_le c hc := by
    rw [begin_started, List.mem_cons] at hc
    obtain rfl | hc := hc
    · exact Nat.le_refl _
    · exact h.period_le c hc
  endPeriod_le := h.endPeriod_le

theorem Stamped.finish (h : s.Stamped) (hrunning : s.running[place]? = some x.call)
    (hx : x.endPeriod ≤ s.changes) : (s.finish place x).Stamped where
  generation := h.generation
  stamp c hc := h.stamp c (mem_running_of_finish hc)
  period_le c hc := h.period_le c ((mem_started_of_finish hrunning).mp hc)
  endPeriod_le y hy := by
    rw [finish_ended, List.mem_cons] at hy
    obtain rfl | hy := hy
    · exact hx
    · exact h.endPeriod_le y hy

theorem le_update_changes (s : Traffic) (b : Breaker) : s.changes ≤ (s.update b).changes := by
  simp only [update]
  split <;> omega

theorem Stamped.move (hmove : Move s s') (h : s.Stamped) : s'.Stamped := by
  cases hmove with
  | advance ms => exact ⟨h.generation, h.stamp, h.period_le, h.endPeriod_le⟩
  | renew due renewed => exact h.renewed renewed
  | begin fresh acquires =>
    have hadmits := acquires.admits
    exact (h.alike hadmits.alike).begin
      (hadmits.generation.trans hadmits.alike.generation.symm)
  | finish fresh running completes =>
    obtain halike | ⟨target, -, hrenewed⟩ := completes.alike_or_turned
    · exact (h.alike halike).finish running (le_update_changes _ _)
    · exact (h.renewed hrenewed).finish running (le_update_changes _ _)
  | cancel running =>
    exact (h.alike (Breaker.alike_release _ _)).finish running (le_update_changes _ _)

/-- A permit is current exactly if its call is of the present period, as long as the call has not
seen the numbers of generations come round. -/
theorem Stamped.current_iff {c : Call} (h : s.Stamped) (hc : c ∈ s.running)
    (hrecent : s.changes ≤ c.period + Word.max64) :
    s.breaker.generation = c.permit.generation ↔ c.period = s.changes := by
  have hle := h.period_le c (mem_started_of_running hc)
  rw [h.generation, h.stamp c hc]
  unfold Word.max64 at *
  omega

/-- No call has outlived the 64 bits of a generation: each one came to its end before the number in
its permit could have come round. -/
def Prompt (s : Traffic) : Prop := ∀ x ∈ s.ended, x.endPeriod ≤ x.call.period + Word.max64

instance (s : Traffic) : Decidable s.Prompt :=
  inferInstanceAs (Decidable (∀ x ∈ s.ended, x.endPeriod ≤ x.call.period + Word.max64))

theorem Stamped.prompt (h : s.Stamped) (hchanges : s.changes ≤ Word.max64) : s.Prompt := by
  intro x hx
  have hle := h.endPeriod_le x hx
  omega

theorem Move.prompt (h : Move s s') (hprompt : s'.Prompt) : s.Prompt := by
  cases h with
  | advance => exact hprompt
  | renew => exact hprompt
  | begin => exact hprompt
  | finish => exact fun x hx ↦ hprompt x (List.mem_cons_of_mem _ hx)
  | cancel => exact fun x hx ↦ hprompt x (List.mem_cons_of_mem _ hx)

theorem Moves.prompt (h : Moves s s') (hprompt : s'.Prompt) : s.Prompt := by
  induction h with
  | refl => exact hprompt
  | tail _ hmove ih => exact ih (hmove.prompt hprompt)

/-- What no move breaks as long as calls are prompt. -/
theorem Moves.keeps_of_prompt {P : Traffic → Prop}
    (hP : ∀ {s s'}, Move s s' → s'.Prompt → P s → P s') (h : Moves s s') (hprompt : s'.Prompt)
    (hs : P s) : P s' := by
  induction h with
  | refl => exact hs
  | tail _ hmove ih => exact hP hmove hprompt (ih (hmove.prompt hprompt))

/-! ## Counts and calls -/

/-- The counts of the breaker are those of the calls of the present period. -/
structure Accounted (s : Traffic) : Prop where
  probes : s.breaker.state = .halfOpen → s.breaker.probes = s.runningIn s.changes
  probe_iff : ∀ c ∈ s.running, c.period = s.changes →
    (c.permit.probe = true ↔ s.breaker.state = .halfOpen)
  idle : s.breaker.state = .open → s.startedIn s.changes = 0
  requests : s.breaker.counts.requests = min (s.startedIn s.changes) maxCount
  successes : s.breaker.counts.totalSuccesses = min (s.endedIn .succeeded s.changes) maxCount
  failures : s.breaker.counts.totalFailures = min (s.endedIn .failed s.changes) maxCount

theorem startedIn_eq_zero_of_lt {period : Nat} (h : s.Stamped) (hlt : s.changes < period) :
    s.startedIn period = 0 := by
  rw [startedIn, List.countP_eq_zero]
  intro c hc
  have hle := h.period_le c hc
  simp only [decide_eq_true_eq]
  omega

/-- No call is of a period that begins. -/
theorem startedIn_renewed {t : Time} {target : CircuitState} (h : s.Stamped)
    (hb : s.breaker.Renewed t target b) : (s.update b).startedIn (s.update b).changes = 0 := by
  have hnone : s.startedIn (s.changes + 1) = 0 :=
    startedIn_eq_zero_of_lt h (Nat.lt_succ_self _)
  rw [update_changes_of_renewed hb]
  exact hnone

theorem accounted_renewed {t : Time} {target : CircuitState} (h : s.Stamped)
    (hb : s.breaker.Renewed t target b) : (s.update b).Accounted := by
  have hstarted := startedIn_renewed h hb
  have hsum := startedIn_eq (s.update b) (s.update b).changes
  constructor
  · intro _
    rw [update_breaker, hb.probes]
    omega
  · intro c hc hperiod
    have hle := h.period_le c (mem_started_of_running hc)
    rw [update_changes_of_renewed hb] at hperiod
    omega
  · exact fun _ ↦ hstarted
  · rw [update_breaker, hb.counts, hstarted]
    rfl
  · rw [update_breaker, hb.counts, show (s.update b).endedIn _ _ = 0 by omega]
    rfl
  · rw [update_breaker, hb.counts, show (s.update b).endedIn _ _ = 0 by omega]
    rfl

/-- Calls of earlier periods end without a trace. -/
theorem Accounted.finish_other (h : s.Accounted) (hrunning : s.running[place]? = some x.call)
    (hx : x.call.period ≠ s.changes) : (s.finish place x).Accounted := by
  have hcount := runningIn_finish hrunning s.changes
  have hended (ending : Ending) :
      (s.finish place x).endedIn ending s.changes = s.endedIn ending s.changes := by
    rw [endedIn_finish, if_neg fun hboth ↦ hx hboth.2, Nat.add_zero]
  rw [if_neg hx, Nat.add_zero] at hcount
  constructor
  · intro hprobing
    rw [finish_changes, hcount]
    exact h.probes hprobing
  · exact fun c hc ↦ h.probe_iff c (mem_running_of_finish hc)
  · intro hopen
    rw [finish_changes, startedIn_finish hrunning]
    exact h.idle hopen
  · rw [finish_changes, startedIn_finish hrunning]
    exact h.requests
  · rw [finish_changes, hended]
    exact h.successes
  · rw [finish_changes, hended]
    exact h.failures

/-- While the breaker is open no call of the present period has been let in. -/
theorem Accounted.state_ne_open (h : s.Accounted) {c : Call} (hc : c ∈ s.started)
    (hperiod : c.period = s.changes) : s.breaker.state ≠ .open := by
  intro hopen
  have hnone := List.countP_eq_zero.mp (h.idle hopen) c hc
  simp [hperiod] at hnone

/-- The end of a probe gives its slot back. -/
theorem Accounted.probes_freeProbe (h : s.Accounted) (hrunning : s.running[place]? = some x.call)
    (hx : x.call.period = s.changes) (hprobing : s.breaker.state = .halfOpen) :
    (s.breaker.freeProbe x.call.permit).probes = (s.finish place x).runningIn s.changes := by
  have hmem := mem_running_of_getElem? hrunning
  have hprobe := (h.probe_iff _ hmem hx).mpr hprobing
  have hprobes := h.probes hprobing
  have hcount := runningIn_finish hrunning s.changes
  rw [if_pos hx] at hcount
  rw [Breaker.probes_freeProbe, if_pos hprobe]
  omega

/-- A call of the present period ends, and the breaker counts its end. -/
theorem Accounted.finish_current (h : s.Accounted) (hrunning : s.running[place]? = some x.call)
    (hx : x.call.period = s.changes) (halike : s.breaker.Alike b)
    (hprobes : b.probes = (s.breaker.freeProbe x.call.permit).probes)
    (hrequests : b.counts.requests = s.breaker.counts.requests)
    (hsuccesses : b.counts.totalSuccesses =
      min ((s.finish place x).endedIn .succeeded s.changes) maxCount)
    (hfailures : b.counts.totalFailures =
      min ((s.finish place x).endedIn .failed s.changes) maxCount) :
    ((s.update b).finish place x).Accounted := by
  have hchanges : ((s.update b).finish place x).changes = s.changes :=
    update_changes_of_eq halike.generation
  constructor
  · intro hprobing
    rw [hchanges]
    exact hprobes.trans (h.probes_freeProbe hrunning hx (halike.state.symm.trans hprobing))
  · intro c hc hperiod
    have hmem : c ∈ (s.update b).running := mem_running_of_finish hc
    have hiff := h.probe_iff c hmem (hperiod.trans hchanges)
    rwa [finish_breaker, update_breaker, halike.state]
  · intro hopen
    rw [hchanges]
    exact (startedIn_finish hrunning _).trans (h.idle (halike.state.symm.trans hopen))
  · rw [hchanges, finish_breaker, update_breaker, hrequests, h.requests]
    exact congrArg (min · maxCount) (startedIn_finish hrunning _).symm
  · rw [hchanges]
    exact hsuccesses
  · rw [hchanges]
    exact hfailures

theorem Accounted.begin (h : s.Accounted) (hadmits : s.breaker.Admits p b) :
    ((s.update b).begin p).Accounted := by
  have hstate := hadmits.alike.state
  have hsame : (s.update b).changes = s.changes := update_changes_of_eq hadmits.alike.generation
  have hchanges : ((s.update b).begin p).changes = s.changes := hsame
  have hrunning := runningIn_begin (s.update b) p s.changes
  have hstarted := startedIn_begin (s.update b) p s.changes
  rw [hsame, if_pos rfl] at hrunning hstarted
  constructor
  · intro hprobing
    have hbefore := hstate.symm.trans hprobing
    rw [hchanges, hrunning, begin_breaker, update_breaker, hadmits.probes hbefore]
    exact congrArg (· + 1) (h.probes hbefore)
  · intro c hc hperiod
    rw [begin_breaker, update_breaker, hstate]
    rw [begin_running, List.mem_cons] at hc
    obtain rfl | hc := hc
    · exact hadmits.probe_iff
    · exact h.probe_iff c hc (hperiod.trans hchanges)
  · exact fun hopen ↦ absurd (hstate.symm.trans hopen) hadmits.state_ne_open
  · rw [hchanges, hstarted, begin_breaker, update_breaker, hadmits.counts, Counts.request,
      h.requests]
    exact bump_min _
  · rw [hchanges, begin_breaker, update_breaker, hadmits.counts]
    exact h.successes
  · rw [hchanges, begin_breaker, update_breaker, hadmits.counts]
    exact h.failures

/-- A result that is only counted is counted among the calls that ended so. -/
theorem Accounted.counted {success : Bool} {c : Call} (h : s.Accounted)
    (hrunning : s.running[place]? = some c) (hc : c.period = s.changes) :
    ((s.update (s.breaker.counted c.permit success)).finish place
      ⟨c, .of success, s.now, s.changes⟩).Accounted := by
  have hsuccesses := h.successes
  have hfailures := h.failures
  refine h.finish_current hrunning hc (Breaker.alike_counted _ _ _) rfl ?_ ?_ ?_
  · cases success <;> rfl
  · rw [endedIn_finish]
    cases success with
    | true => simpa [Ending.of, hc, Counts.result, Counts.success, hsuccesses] using bump_min _
    | false => simpa [Ending.of, Counts.result, Counts.failure] using hsuccesses
  · rw [endedIn_finish]
    cases success with
    | true => simpa [Ending.of, Counts.result, Counts.success] using hfailures
    | false => simpa [Ending.of, hc, Counts.result, Counts.failure, hfailures] using bump_min _

theorem Accounted.cancelled {c : Call} (h : s.Accounted)
    (hrunning : s.running[place]? = some c) (hc : c.period = s.changes) :
    ((s.update (s.breaker.freeProbe c.permit)).finish place
      ⟨c, .cancelled, s.now, s.changes⟩).Accounted := by
  refine h.finish_current hrunning hc (Breaker.alike_freeProbe _ _) rfl ?_ ?_ ?_
  · rw [Breaker.counts_freeProbe]
  · rw [Breaker.counts_freeProbe, endedIn_finish]
    simpa using h.successes
  · rw [Breaker.counts_freeProbe, endedIn_finish]
    simpa using h.failures

theorem Accounted.move (hmove : Move s s') (hprompt : s'.Prompt) (hs : s.Stamped)
    (h : s.Accounted) : s'.Accounted := by
  cases hmove with
  | advance ms => exact ⟨h.probes, h.probe_iff, h.idle, h.requests, h.successes, h.failures⟩
  | renew due renewed => exact accounted_renewed hs renewed
  | begin fresh acquires => exact h.begin acquires.admits
  | finish fresh running completes =>
    have hmem := mem_running_of_getElem? running
    have hcurrent := hs.current_iff hmem (hprompt _ List.mem_cons_self)
    cases completes with
    | discarded stale =>
      rw [update_self]
      exact h.finish_other running fun hperiod ↦ stale (hcurrent.mpr hperiod)
    | ignored current opened =>
      exact absurd opened
        (h.state_ne_open (mem_started_of_running hmem) (hcurrent.mp current))
    | counted current keeps => exact h.counted running (hcurrent.mp current)
    | turned current turns renewed =>
      have hle := hs.period_le _ (mem_started_of_running hmem)
      refine (accounted_renewed hs renewed).finish_other running ?_
      rw [update_changes_of_renewed renewed]
      dsimp only
      omega
  | @cancel _ c running =>
    have hmem := mem_running_of_getElem? running
    have hcurrent := hs.current_iff hmem (hprompt _ List.mem_cons_self)
    unfold Breaker.release
    split
    · rename_i current
      exact h.cancelled running (hcurrent.mp current)
    · rename_i stale
      rw [update_self]
      exact h.finish_other running fun hperiod ↦ stale (hcurrent.mpr hperiod)

theorem accounted_new (c : Config.CircuitBreaker) (start : Time) : (new c start).Accounted where
  probes h := by simp [new, Breaker.new] at h
  probe_iff c hc := by simp [new] at hc
  idle h := by simp [new, Breaker.new] at h
  requests := rfl
  successes := rfl
  failures := rfl

theorem stamped_run (c : Config.CircuitBreaker) (start : Time) (events : List Event) :
    ((new c start).run events).Stamped :=
  Moves.keeps Stamped.move (moves_run _ events) (stamped_new c start)

theorem accounted_run {c : Config.CircuitBreaker} {start : Time} {events : List Event}
    (hprompt : ((new c start).run events).Prompt) : ((new c start).run events).Accounted := by
  let P (s : Traffic) : Prop := s.Stamped ∧ s.Accounted
  have hP : ∀ {s s'}, Move s s' → s'.Prompt → P s → P s' :=
    fun hmove hprompt hs ↦ ⟨hs.1.move hmove, hs.2.move hmove hprompt hs.1⟩
  exact (Moves.keeps_of_prompt hP (moves_run _ events) hprompt
    ⟨stamped_new c start, accounted_new c start⟩).2

/-- No counter of the present generation has been cut off: that of the requests, which no other one
exceeds, has room for each call of the period. -/
def Unsaturated (s : Traffic) : Prop := s.startedIn s.changes ≤ maxCount

theorem Accounted.requests_eq (h : s.Accounted)
    (hroom : s.Unsaturated ∨ s.breaker.counts.requests < maxCount) :
    s.breaker.counts.requests =
      s.breaker.counts.totalSuccesses + s.breaker.counts.totalFailures +
        s.runningIn s.changes + s.endedIn .cancelled s.changes := by
  have hrequests := h.requests
  have hsuccesses := h.successes
  have hfailures := h.failures
  have hsum := startedIn_eq s s.changes
  unfold Unsaturated at hroom
  omega

/-- In every state that a run reaches, the probes are the running calls of a half-open generation,
the counts stay below what would have changed the state, and the requests are the calls that have
succeeded, failed, been given up or are still running. -/
theorem breaker_agrees_with_calls (c : Config.CircuitBreaker) (start : Time) (events : List Event)
    (hchanges : ((new c start).run events).changes ≤ Word.max64) :
    let s := (new c start).run events
    let b := s.breaker
    ((b.state = .halfOpen → b.probes = s.runningIn s.changes) ∧
        (b.state ≠ .halfOpen → b.probes = 0) ∧ b.probes ≤ max 1 c.halfOpenMaxRequests.toNat) ∧
      (b.state = .closed → b.counts.consecutiveFailures < max 1 c.failureThreshold.toNat) ∧
      (b.state = .open → b.counts = ⟨0, 0, 0, 0, 0⟩ ∧ b.openedAt.isSome) ∧
      (b.state = .halfOpen →
        b.counts.totalFailures = 0 ∧ b.counts.consecutiveFailures = 0 ∧
          b.counts.totalSuccesses = b.counts.consecutiveSuccesses ∧
          b.counts.consecutiveSuccesses < max 1 c.halfOpenMaxRequests.toNat) ∧
      (s.Unsaturated ∨ b.counts.requests < maxCount →
        b.counts.requests = b.counts.totalSuccesses + b.counts.totalFailures +
          s.runningIn s.changes + s.endedIn .cancelled s.changes) := by
  intro s b
  have hsettings := settings_run c start events
  have hthreshold : b.failureThreshold = max 1 c.failureThreshold.toNat :=
    congrArg Breaker.Settings.failureThreshold hsettings
  have hmax : b.halfOpenMax = max 1 c.halfOpenMaxRequests.toNat :=
    congrArg Breaker.Settings.halfOpenMax hsettings
  have hsound : b.Sound := sound_run c start events
  have haccounted : s.Accounted := accounted_run ((stamped_run c start events).prompt hchanges)
  rw [← hthreshold, ← hmax]
  refine ⟨⟨haccounted.probes, hsound.probes_eq_zero, hsound.probes_le⟩, hsound.closed,
    hsound.opened, fun hprobing ↦ ?_, haccounted.requests_eq⟩
  obtain ⟨hfailures, hconsecutive⟩ := hsound.no_failure hprobing
  obtain ⟨hsame, hbelow⟩ := hsound.successes hprobing
  exact ⟨hfailures, hconsecutive, hsame, hbelow⟩

/-- One of two probes is given up after a call from before the trip has failed among them. -/
theorem probes_agree_with_calls_after_trip :
    let s := (new ⟨1, 1000, 2, 0⟩ 0).run
      [.arrive, .arrive, .complete 0 false, .advance 1000, .arrive, .arrive, .complete 2 false,
        .cancel 0]
    s.changes ≤ Word.max64 ∧ s.breaker.state = .halfOpen ∧
      s.breaker.probes = s.runningIn s.changes ∧ s.runningIn s.changes = 1 := by
  refine ⟨by decide, by decide, ?_, by decide⟩
  exact (breaker_agrees_with_calls ⟨1, 1000, 2, 0⟩ 0 _ (by decide)).1.1 (by decide)

end RpcGateway.Calls.Traffic
