import RpcGateway.Proofs.Breaker.Accounting

/-!
# How long a breaker stays open

A breaker that opens at an instant stays open until its timeout has passed, whatever the calls from
before do in the meantime and however often it is read. After that it stands ready for a probe: it
may have been read and be half-open already, but as long as nobody has asked for a call, none of the
results that arrive belongs to the period of the probes. The time that it tells those it refuses is
the time that is left.
-/

namespace RpcGateway.Calls.Traffic

variable {s s' : Traffic} {b : Breaker} {x : EndedCall} {place : Nat} {t : Time}

/-! ## Before the timeout -/

/-- Until its timeout has passed, the breaker is as it was when it opened at `t`. -/
def StaysOpen (t : Time) (s : Traffic) : Prop :=
  t ≤ s.now ∧ (s.now < t + s.breaker.openTimeout →
    s.breaker.state = .open ∧ s.breaker.openedAt = some t)

theorem fresh_of_lt (hopen : s.breaker.state = .open) (hopened : s.breaker.openedAt = some t)
    (hle : t ≤ s.now) (hlt : s.now < t + s.breaker.openTimeout) : s.breaker.Fresh s.now := by
  intro target hdue
  cases hdue with
  | reset closed => simp [hopen] at closed
  | expiry opened elapsed =>
    have hpassed := elapsed t hopened
    unfold Time at *
    omega

theorem StaysOpen.move (hmove : Move s s') (h : s.StaysOpen t) : s'.StaysOpen t := by
  obtain ⟨hle, hbefore⟩ := h
  have htimeout := Breaker.openTimeout_eq hmove.settings
  have hnow : s.now ≤ s'.now := hmove.now_le
  refine ⟨Nat.le_trans hle hnow, fun hlt ↦ ?_⟩
  rw [htimeout] at hlt
  have hearlier := Nat.lt_of_le_of_lt hnow hlt
  obtain ⟨hopen, hopened⟩ := hbefore hearlier
  cases hmove with
  | advance ms => exact ⟨hopen, hopened⟩
  | renew due renewed => exact absurd due (fresh_of_lt hopen hopened hle hearlier _)
  | begin fresh acquires =>
    have halike := acquires.admits.alike
    exact ⟨halike.state.trans hopen, halike.openedAt.trans hopened⟩
  | finish fresh running completes =>
    obtain halike | ⟨target, hturns, -⟩ := completes.alike_or_turned
    · exact ⟨halike.state.trans hopen, halike.openedAt.trans hopened⟩
    · cases hturns <;> simp_all
  | @cancel _ c running =>
    have halike := Breaker.alike_release s.breaker c.permit
    exact ⟨halike.state.trans hopen, halike.openedAt.trans hopened⟩

/-- A breaker that is still open refuses, and nothing is started. -/
theorem refuses_of_lt (hopen : s.breaker.state = .open) (hopened : s.breaker.openedAt = some t)
    (hle : t ≤ s.now) (hlt : s.now < t + s.breaker.openTimeout) :
    (s.breaker.acquire s.now).1 = none ∧ s.step .arrive = s := by
  have hrefreshed : s.refreshed = s := refreshed_of_fresh (fresh_of_lt hopen hopened hle hlt)
  obtain ⟨hrefused, -, hstep⟩ | ⟨p, b, -, hacquires, -⟩ := step_arrive_cases s
  · exact ⟨hrefused, hstep.trans hrefreshed⟩
  · rw [hrefreshed] at hacquires
    exact absurd hopen hacquires.admits.state_ne_open

/-! ## After the timeout -/

/-- Since the breaker opened at `t` nobody has got a call: it is open, or lets probes through and no
one has come. -/
def Waits (t : Time) (s : Traffic) : Prop :=
  (s.breaker.state = .open ∧ s.breaker.openedAt = some t ∧ t ≤ s.now) ∨
    (s.breaker.state = .halfOpen ∧ t + s.breaker.openTimeout ≤ s.now ∧ s.startedIn s.changes = 0)

theorem Waits.state_ne_closed (h : s.Waits t) : s.breaker.state ≠ .closed := by
  obtain ⟨hopen, -⟩ | ⟨hprobing, -⟩ := h
  · simp [hopen]
  · simp [hprobing]

theorem Waits.advance (h : s.Waits t) (ms : Nat) :
    ({ s with now := s.now + ms } : Traffic).Waits t := by
  obtain ⟨hopen, hopened, hle⟩ | ⟨hprobing, hpassed, hidle⟩ := h
  · exact .inl ⟨hopen, hopened, Nat.le_trans hle (Nat.le_add_right _ _)⟩
  · exact .inr ⟨hprobing, Nat.le_trans hpassed (Nat.le_add_right _ _), hidle⟩

theorem Waits.refreshed (h : s.Waits t) (hs : s.Stamped) : s.refreshed.Waits t := by
  obtain ⟨-, hsame⟩ | ⟨target, b, hdue, hrenewed, hrefreshed⟩ := refreshed_cases s
  · rwa [hsame]
  · rw [hrefreshed]
    cases hdue with
    | reset closed => exact absurd closed h.state_ne_closed
    | expiry opened elapsed =>
      obtain ⟨-, hopened, hle⟩ | ⟨hprobing, -⟩ := h
      · have hpassed := elapsed t hopened
        refine .inr ⟨hrenewed.state, ?_, startedIn_renewed hs hrenewed⟩
        rw [update_breaker, update_now, Breaker.openTimeout_eq hrenewed.settings]
        unfold Time at *
        omega
      · simp [opened] at hprobing

theorem Waits.alike (h : s.Waits t) (hb : s.breaker.Alike b) : (s.update b).Waits t := by
  have htimeout := Breaker.openTimeout_eq hb.settings
  have hchanges := update_changes_of_eq hb.generation
  unfold Waits at *
  rwa [update_breaker, update_now, hb.state, hb.openedAt, htimeout, hchanges]

theorem Waits.finish (h : s.Waits t) (hrunning : s.running[place]? = some x.call) :
    (s.finish place x).Waits t := by
  have hstarted := startedIn_finish hrunning s.changes
  unfold Waits at *
  rwa [finish_breaker, finish_now, finish_changes, hstarted]

/-- While no probe has come, no result belongs to the present period. -/
theorem Waits.stale {c : Call} (h : s.Waits t) (hs : s.Stamped) (hc : c ∈ s.running)
    (hrecent : s.changes ≤ c.period + Word.max64) (hprobing : s.breaker.state = .halfOpen) :
    s.breaker.generation ≠ c.permit.generation := by
  intro hcurrent
  have hperiod := (hs.current_iff hc hrecent).mp hcurrent
  obtain ⟨hopen, -⟩ | ⟨-, -, hidle⟩ := h
  · simp [hopen] at hprobing
  · have hnone := List.countP_eq_zero.mp hidle c (mem_started_of_running hc)
    simp [hperiod] at hnone

theorem Waits.completed {success : Bool} {c : Call} (h : s.Waits t) (hs : s.Stamped)
    (hc : c ∈ s.running) (hrecent : s.changes ≤ c.period + Word.max64)
    (hcompletes : s.breaker.Completes c.permit s.now success b) : (s.update b).Waits t := by
  cases hcompletes with
  | discarded =>
    rw [update_self]
    exact h
  | ignored => exact h.alike (Breaker.alike_freeProbe _ _)
  | counted => exact h.alike (Breaker.alike_counted _ _ _)
  | turned current turns =>
    cases turns with
    | trip closed => exact absurd closed h.state_ne_closed
    | close probing => exact absurd current (h.stale hs hc hrecent probing)
    | reopen probing => exact absurd current (h.stale hs hc hrecent probing)

/-- As long as nobody asks for a call after the timeout, the breaker waits for a probe. -/
theorem Waits.step {e : Event} (h : s.Waits t) (hs : s.Stamped) (hprompt : (s.step e).Prompt)
    (harrive : e = .arrive → s.now < t + s.breaker.openTimeout) : (s.step e).Waits t := by
  cases e with
  | advance ms => exact h.advance ms
  | read => exact h.refreshed hs
  | arrive =>
    have hlt := harrive rfl
    obtain ⟨hopen, hopened, hle⟩ | ⟨-, hpassed, -⟩ := h
    · rw [(refuses_of_lt hopen hopened hle hlt).2]
      exact .inl ⟨hopen, hopened, hle⟩
    · exact absurd hpassed (Nat.not_le_of_lt hlt)
  | complete place success =>
    cases hrunning : s.running[place]? with
    | none =>
      simp only [Traffic.step, hrunning]
      exact h
    | some c =>
      obtain ⟨b, hcompletes, hstep⟩ := step_complete success hrunning
      rw [hstep] at hprompt ⊢
      have hrefreshed : s.refreshed.Stamped := (moves_refreshed s).keeps Stamped.move hs
      have hcompleted := (h.refreshed hs).completed hrefreshed (mem_running_of_getElem? hrunning)
        (hprompt _ List.mem_cons_self) hcompletes
      exact hcompleted.finish hrunning
  | cancel place =>
    cases hrunning : s.running[place]? with
    | none =>
      simp only [Traffic.step, hrunning]
      exact h
    | some c =>
      simp only [Traffic.step, hrunning]
      exact (h.alike (Breaker.alike_release _ _)).finish hrunning

theorem Waits.run {events : List Event} (h : s.Waits t) (hs : s.Stamped)
    (hprompt : (s.run events).Prompt)
    (harrive : ∀ k < events.length, events[k]? = some .arrive →
      (s.run (events.take k)).now < t + s.breaker.openTimeout) : (s.run events).Waits t := by
  induction events generalizing s with
  | nil => exact h
  | cons e events ih =>
    have hstep := h.step hs ((moves_run _ events).prompt hprompt) fun he ↦
      harrive 0 (Nat.succ_pos _) (congrArg some he)
    have hstamped : (s.step e).Stamped := (moves_step s e).keeps Stamped.move hs
    have htimeout := Breaker.openTimeout_eq (moves_step s e).settings
    refine ih hstep hstamped hprompt fun k hk hasks ↦ ?_
    rw [htimeout]
    exact harrive (k + 1) (Nat.succ_lt_succ hk) hasks

/-- Once the timeout has passed and the breaker has been refreshed, all slots of probes are free. -/
theorem Waits.idle (h : s.Waits t) (haccounted : s.Accounted) (hfresh : s.breaker.Fresh s.now)
    (hpassed : t + s.breaker.openTimeout ≤ s.now) :
    s.breaker.state = .halfOpen ∧ s.breaker.probes = 0 := by
  obtain ⟨hopen, hopened, -⟩ | ⟨hprobing, -, hidle⟩ := h
  · have hdue : s.breaker.Due s.now .halfOpen := by
      refine .expiry hopen fun t' ht' ↦ ?_
      rw [hopened, Option.some.injEq] at ht'
      unfold Time at *
      omega
    exact absurd hdue (hfresh _)
  · have hprobes := haccounted.probes hprobing
    have hsum := startedIn_eq s s.changes
    exact ⟨hprobing, by omega⟩

/-- A half-open breaker with a free slot lets the next call in, as a probe. -/
theorem admits_probe (hprobing : s.refreshed.breaker.state = .halfOpen)
    (hroom : s.refreshed.breaker.probes < s.refreshed.breaker.halfOpenMax) :
    ∃ p, (s.breaker.acquire s.now).1 = some p ∧ p.probe = true ∧
      (s.step .arrive).started = ⟨p, s.refreshed.changes, s.now⟩ :: s.started := by
  obtain ⟨-, hacquires, -⟩ | ⟨p, b, hadmitted, hacquires, hstep⟩ := step_arrive_cases s
  · cases hacquires with
    | refused opened => simp [hprobing] at opened
    | full probing full => exact absurd full (Nat.not_le_of_lt hroom)
  · have hadmits := hacquires.admits
    have hchanges := update_changes_of_eq hadmits.alike.generation
    refine ⟨p, hadmitted, hadmits.probe_iff.mpr hprobing, ?_⟩
    rw [hstep, begin_started, hchanges]
    rfl

/-! ## The time that is left -/

/-- An open breaker has been open since it opened last. -/
def Dated (s : Traffic) : Prop :=
  s.breaker.state = .open →
    ∃ t earlier, s.openings = t :: earlier ∧ s.breaker.openedAt = some t ∧ t ≤ s.now

theorem Dated.alike (h : s.Dated) (hb : s.breaker.Alike b) : (s.update b).Dated := by
  unfold Dated at *
  rwa [update_breaker, update_now, update_openings_of_eq hb.state, hb.state, hb.openedAt]

theorem dated_renewed {target : CircuitState} (hne : s.breaker.state ≠ .open)
    (hb : s.breaker.Renewed s.now target b) : (s.update b).Dated := by
  intro hopen
  have htarget : target = .open := hb.state.symm.trans hopen
  exact ⟨s.now, s.openings, update_openings_of_opens hne hopen, hb.openedAt htarget,
    Nat.le_refl _⟩

theorem Dated.move (hmove : Move s s') (h : s.Dated) : s'.Dated := by
  cases hmove with
  | advance ms =>
    intro hopen
    obtain ⟨t, earlier, hopenings, hopened, hle⟩ := h hopen
    exact ⟨t, earlier, hopenings, hopened, Nat.le_trans hle (Nat.le_add_right _ _)⟩
  | renew due renewed =>
    intro hopen
    rw [update_breaker, renewed.state] at hopen
    cases due <;> simp at hopen
  | begin fresh acquires => exact h.alike acquires.admits.alike
  | finish fresh running completes =>
    obtain halike | ⟨target, hturns, hrenewed⟩ := completes.alike_or_turned
    · exact h.alike halike
    · refine dated_renewed ?_ hrenewed
      cases hturns <;> simp_all
  | cancel running => exact h.alike (Breaker.alike_release _ _)

theorem dated_run (c : Config.CircuitBreaker) (start : Time) (events : List Event) :
    ((new c start).run events).Dated := by
  have hnew : (new c start).Dated := fun hopen ↦ by simp [new, Breaker.new] at hopen
  exact (moves_run _ events).keeps Dated.move hnew

/-- How long a caller is told to wait; to be asked refreshes the breaker. -/
def retryAfter (s : Traffic) : Time := s.refreshed.breaker.retryAfter s.now

theorem retryAfter_of_fresh (hopen : s.breaker.state = .open)
    (hopened : s.breaker.openedAt = some t) (hle : t ≤ s.now) (hfresh : s.breaker.Fresh s.now) :
    0 < s.retryAfter ∧ s.now + s.retryAfter = t + s.breaker.openTimeout := by
  have hretry : s.retryAfter = s.breaker.openTimeout - (s.now - t) := by
    rw [retryAfter, refreshed_of_fresh hfresh]
    simp only [Breaker.retryAfter, hopen, hopened]
  have hleft : s.now - t < s.breaker.openTimeout := by
    refine Nat.lt_of_not_le fun hpassed ↦ hfresh .halfOpen (.expiry hopen fun t' ht' ↦ ?_)
    rw [hopened, Option.some.injEq] at ht'
    exact ht' ▸ hpassed
  rw [hretry]
  unfold Time at *
  omega

theorem retryAfter_of_ne_open (h : s.refreshed.breaker.state ≠ .open) : s.retryAfter = 0 := by
  simp only [retryAfter, Breaker.retryAfter]
  split
  · rename_i hopen _
    exact absurd hopen h
  · rfl

/-- Nothing is due for a breaker that is open once it has been refreshed. -/
theorem fresh_of_refreshed_open (h : s.refreshed.breaker.state = .open) :
    s.breaker.Fresh s.now := by
  obtain ⟨hfresh, -⟩ | ⟨target, b, hdue, hrenewed, hrefreshed⟩ := refreshed_cases s
  · exact hfresh
  · rw [hrefreshed, update_breaker, hrenewed.state] at h
    cases hdue <;> simp at h

/-- An open breaker tells the time until its timeout, counted from when it opened last. -/
theorem Dated.retryAfter_eq (h : s.Dated) (hopen : s.refreshed.breaker.state = .open) :
    ∃ t earlier, s.openings = t :: earlier ∧ 0 < s.retryAfter ∧
      s.now + s.retryAfter = t + s.breaker.openTimeout := by
  have hfresh := fresh_of_refreshed_open hopen
  rw [refreshed_of_fresh hfresh] at hopen
  obtain ⟨t, earlier, hopenings, hopened, hle⟩ := h hopen
  exact ⟨t, earlier, hopenings, retryAfter_of_fresh hopen hopened hle hfresh⟩

/-! ## The open period -/

theorem StaysOpen.refuses (h : s.StaysOpen t) (hlt : s.now < t + s.breaker.openTimeout) :
    (s.breaker.acquire s.now).1 = none ∧ (s.step .arrive).started = s.started ∧
      0 < s.retryAfter ∧ s.now + s.retryAfter = t + s.breaker.openTimeout := by
  obtain ⟨hle, hbefore⟩ := h
  obtain ⟨hopen, hopened⟩ := hbefore hlt
  obtain ⟨hrefused, hstep⟩ := refuses_of_lt hopen hopened hle hlt
  have hfresh := fresh_of_lt hopen hopened hle hlt
  exact ⟨hrefused, congrArg started hstep, retryAfter_of_fresh hopen hopened hle hfresh⟩

/-- In a run whose calls are prompt, a breaker that waits lets the next call in as a probe once its
timeout has passed. -/
theorem Waits.admits {c : Config.CircuitBreaker} {start : Time} {events : List Event}
    (hs : s = (new c start).run events) (h : s.Waits t) (hprompt : s.Prompt)
    (hpassed : t + s.breaker.openTimeout ≤ s.now) :
    ∃ p, (s.breaker.acquire s.now).1 = some p ∧ p.probe = true ∧
      (s.step .arrive).started = ⟨p, s.refreshed.changes, s.now⟩ :: s.started := by
  have hread : s.refreshed = (new c start).run (events ++ [.read]) := by
    rw [run_append, ← hs]
    rfl
  have hwaits : s.refreshed.Waits t := h.refreshed (hs ▸ stamped_run c start events)
  have haccounted : s.refreshed.Accounted := by
    rw [hread]
    exact accounted_run (hread ▸ hprompt)
  have hsound : s.refreshed.breaker.Sound := by
    rw [hread]
    exact sound_run c start _
  have htimeout := Breaker.openTimeout_eq (moves_refreshed s).settings
  rw [← htimeout] at hpassed
  obtain ⟨hprobing, hnone⟩ := hwaits.idle haccounted (fresh_refreshed s) hpassed
  exact admits_probe hprobing (hnone ▸ hsound.halfOpenMax_pos)

/-- A breaker that opens at an event refuses every call before its timeout has passed, whatever
happens meanwhile, and starts nothing; the first call that asks from then on is let in as a probe.
The time that it tells is what is left of the timeout while it is open, and zero otherwise. -/
theorem open_for_the_timeout (c : Config.CircuitBreaker) (start : Time) (before : List Event)
    (e : Event) (after : List Event) :
    let s := (new c start).run before
    let opened := s.step e
    let u := opened.run after
    let timeout := c.openTimeoutMs.toNat
    (s.breaker.state ≠ .open → opened.breaker.state = .open →
        (u.now < opened.now + timeout →
          (u.breaker.acquire u.now).1 = none ∧ (u.step .arrive).started = u.started ∧
            0 < u.retryAfter ∧ u.now + u.retryAfter = opened.now + timeout) ∧
          (u.Prompt → opened.now + timeout ≤ u.now →
            (∀ k < after.length, after[k]? = some .arrive →
              (opened.run (after.take k)).now < opened.now + timeout) →
            ∃ p, (u.breaker.acquire u.now).1 = some p ∧ p.probe = true ∧
              (u.step .arrive).started = ⟨p, u.refreshed.changes, u.now⟩ :: u.started)) ∧
      (s.refreshed.breaker.state = .open →
        ∃ t earlier, s.openings = t :: earlier ∧ 0 < s.retryAfter ∧
          s.now + s.retryAfter = t + timeout) ∧
      (s.refreshed.breaker.state ≠ .open → s.retryAfter = 0) := by
  intro s opened u timeout
  have htimeout : s.breaker.openTimeout = timeout :=
    Breaker.openTimeout_eq (settings_run c start before)
  refine ⟨fun hne hopen ↦ ?_, fun hopen ↦ ?_, retryAfter_of_ne_open⟩
  · have hopenedAt := openedAt_step hne hopen
    have hopenedTimeout : opened.breaker.openTimeout = timeout :=
      (Breaker.openTimeout_eq (moves_step s e).settings).trans htimeout
    have huTimeout : u.breaker.openTimeout = timeout :=
      (Breaker.openTimeout_eq (moves_run opened after).settings).trans hopenedTimeout
    refine ⟨fun hlt ↦ ?_, fun hprompt hpassed harrive ↦ ?_⟩
    · have hstays : u.StaysOpen opened.now := by
        refine (moves_run opened after).keeps StaysOpen.move ⟨Nat.le_refl _, fun _ ↦ ?_⟩
        exact ⟨hopen, hopenedAt⟩
      rw [← huTimeout] at hlt ⊢
      exact hstays.refuses hlt
    · have hwaits : u.Waits opened.now := by
        have hstamped : opened.Stamped :=
          (moves_step s e).keeps Stamped.move (stamped_run c start before)
        refine Waits.run (.inl ⟨hopen, hopenedAt, Nat.le_refl _⟩) hstamped hprompt ?_
        rw [hopenedTimeout]
        exact harrive
      have hrun : u = (new c start).run (before ++ e :: after) :=
        (run_append _ before (e :: after)).symm
      rw [← huTimeout] at hpassed
      exact hwaits.admits hrun hprompt hpassed
  · rw [← htimeout]
    exact (dated_run c start before).retryAfter_eq hopen

/-- A success from before the trip arrives and a call is refused, and then a probe is let in. -/
theorem probe_after_open_second :
    let s := (new ⟨1, 1000, 1, 0⟩ 0).run [.arrive, .arrive]
    let opened := s.step (.complete 0 false)
    let u := opened.run [.complete 0 true, .arrive, .advance 1000, .read]
    s.breaker.state ≠ .open ∧ opened.breaker.state = .open ∧ u.Prompt ∧
      opened.now + 1000 ≤ u.now ∧
      ∃ p, (u.breaker.acquire u.now).1 = some p ∧ p.probe = true := by
  have hopens := (open_for_the_timeout ⟨1, 1000, 1, 0⟩ 0 [.arrive, .arrive] (.complete 0 false)
    [.complete 0 true, .arrive, .advance 1000, .read]).1 (by decide) (by decide)
  refine ⟨by decide, by decide, by decide, by decide, ?_⟩
  obtain ⟨p, hadmitted, hprobe, -⟩ := hopens.2 (by decide) (by decide) (by decide)
  exact ⟨p, hadmitted, hprobe⟩

end RpcGateway.Calls.Traffic
