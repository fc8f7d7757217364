import RpcGateway.Proofs.Breaker.Accounting

/-!
# When a breaker trips

The breaker keeps one number where the history has a list: the failures of the present period since
its last success. Results are compared with the generation only after the refresh, so that a reset
that is due at the instant of a result comes before it. The number is therefore the length of the
list, the breaker trips when the list gets as long as the threshold, and with a rolling interval all
of the list lies between two resets.
-/

namespace RpcGateway.Calls.Traffic

variable {s s' : Traffic} {b : Breaker} {x : EndedCall} {place period : Nat}

/-- The results of the calls of a period, the last one first. -/
def results (s : Traffic) (period : Nat) : List EndedCall :=
  s.ended.filter fun x ↦ x.ending ≠ .cancelled ∧ x.call.period = period

/-- The unbroken series of failures at the end of the results of a period, the last one first. -/
def failureSeries (s : Traffic) (period : Nat) : List EndedCall :=
  (s.results period).takeWhile fun x ↦ x.ending = .failed

theorem mem_of_mem_failureSeries (h : x ∈ s.failureSeries period) :
    x ∈ s.ended ∧ x.ending ≠ .cancelled ∧ x.call.period = period := by
  have hresult : x ∈ s.results period := (List.takeWhile_sublist _).mem h
  simpa [results] using hresult

theorem failureSeries_update (s : Traffic) (b : Breaker) (period : Nat) :
    (s.update b).failureSeries period = s.failureSeries period := rfl

theorem failureSeries_finish_other
    (hx : ¬ (x.ending ≠ .cancelled ∧ x.call.period = period)) :
    (s.finish place x).failureSeries period = s.failureSeries period := by
  unfold failureSeries results
  rw [finish_ended, List.filter_cons_of_neg (by simpa using hx)]

theorem failureSeries_finish_failed (hending : x.ending = .failed)
    (hperiod : x.call.period = period) :
    (s.finish place x).failureSeries period = x :: s.failureSeries period := by
  unfold failureSeries results
  rw [finish_ended, List.filter_cons_of_pos (by simp [hending, hperiod]),
    List.takeWhile_cons_of_pos (by simp [hending])]

theorem failureSeries_finish_succeeded (hending : x.ending = .succeeded)
    (hperiod : x.call.period = period) : (s.finish place x).failureSeries period = [] := by
  unfold failureSeries results
  rw [finish_ended, List.filter_cons_of_pos (by simp [hending, hperiod]),
    List.takeWhile_cons_of_neg (by simp [hending])]

theorem failureSeries_eq_nil_of_lt (h : s.Stamped) (hlt : s.changes < period) :
    s.failureSeries period = [] := by
  rw [List.eq_nil_iff_forall_not_mem]
  intro x hx
  obtain ⟨hended, -, hperiod⟩ := mem_of_mem_failureSeries hx
  have hle := h.period_le _ (mem_started_of_ended hended)
  omega

/-! ## The counter is the length of the series -/

def Streak (s : Traffic) : Prop :=
  s.breaker.state = .closed →
    s.breaker.counts.consecutiveFailures = (s.failureSeries s.changes).length

theorem streak_renewed {t : Time} {target : CircuitState} (hs : s.Stamped)
    (hb : s.breaker.Renewed t target b) : (s.update b).Streak := by
  intro _
  rw [update_changes_of_renewed hb, failureSeries_update,
    failureSeries_eq_nil_of_lt hs (Nat.lt_succ_self _), update_breaker, hb.counts]
  rfl

theorem Streak.finish_other (h : s.Streak)
    (hx : ¬ (x.ending ≠ .cancelled ∧ x.call.period = s.changes)) :
    (s.finish place x).Streak := by
  intro hclosed
  rw [finish_changes, failureSeries_finish_other hx]
  exact h hclosed

/-- A result of the present period makes series and counter longer by one or sets both back. -/
theorem Streak.counted {success : Bool} {c : Call} (h : s.Streak) (hsound : s.breaker.Sound)
    (hthreshold : s.breaker.failureThreshold ≤ maxCount) (hc : c.period = s.changes) :
    ((s.update (s.breaker.counted c.permit success)).finish place
      ⟨c, .of success, s.now, s.changes⟩).Streak := by
  intro hclosed
  have halike := Breaker.alike_counted s.breaker c.permit success
  have hstate : s.breaker.state = .closed := halike.state.symm.trans hclosed
  have hcount := h hstate
  have hbelow := hsound.closed hstate
  rw [finish_changes, update_changes_of_eq halike.generation]
  cases success with
  | true =>
    rw [failureSeries_finish_succeeded rfl hc]
    rfl
  | false =>
    rw [failureSeries_finish_failed rfl hc, failureSeries_update, List.length_cons, ← hcount]
    exact bump_of_lt (Nat.lt_of_lt_of_le hbelow hthreshold)

theorem Streak.move (hmove : Move s s') (hprompt : s'.Prompt) (hs : s.Stamped)
    (hsound : s.breaker.Sound) (hthreshold : s.breaker.failureThreshold ≤ maxCount)
    (h : s.Streak) : s'.Streak := by
  cases hmove with
  | advance ms => exact h
  | renew due renewed => exact streak_renewed hs renewed
  | begin fresh acquires =>
    intro hclosed
    rw [begin_changes, update_changes_of_eq acquires.admits.alike.generation]
    cases acquires with
    | admitted closed => exact h closed
    | probe probing => simp [probing] at hclosed
  | finish fresh running completes =>
    have hmem := mem_running_of_getElem? running
    have hcurrent := hs.current_iff hmem (hprompt _ List.mem_cons_self)
    cases completes with
    | discarded stale =>
      rw [update_self]
      exact h.finish_other fun hboth ↦ stale (hcurrent.mpr hboth.2)
    | ignored current opened =>
      intro hclosed
      have hstate := (Breaker.alike_freeProbe s.breaker _).state.symm.trans hclosed
      simp [opened] at hstate
    | counted current keeps => exact h.counted hsound hthreshold (hcurrent.mp current)
    | turned current turns renewed =>
      have hle := hs.period_le _ (mem_started_of_running hmem)
      refine (streak_renewed hs renewed).finish_other fun hboth ↦ ?_
      have hperiod : _ = s.changes + 1 := hboth.2.trans (update_changes_of_renewed renewed)
      exact absurd (hperiod ▸ hle) (Nat.not_succ_le_self _)
  | @cancel _ c running =>
    refine Streak.finish_other ?_ (by simp)
    unfold Breaker.release
    split
    · intro hclosed
      have halike := Breaker.alike_freeProbe s.breaker c.permit
      rw [update_changes_of_eq halike.generation, failureSeries_update, update_breaker,
        Breaker.counts_freeProbe]
      exact h (halike.state.symm.trans hclosed)
    · rw [update_self]
      exact h

/-! ## The series lies between two resets -/

/-- Calls are let in before they end, and those of a closed breaker with a rolling interval are let
in after the last reset and have their results before the next one. -/
structure Timed (s : Traffic) : Prop where
  started_le : ∀ c ∈ s.started, c.admittedAt ≤ s.now
  ended_le : ∀ x ∈ s.ended, x.call.admittedAt ≤ x.endedAt
  window : s.breaker.state = .closed → 0 < s.breaker.rollingInterval →
    ∃ t ≤ s.now, s.breaker.rollingResetAt = some (t + s.breaker.rollingInterval) ∧
      (∀ c ∈ s.started, c.period = s.changes → t ≤ c.admittedAt) ∧
      ∀ x ∈ s.ended, x.ending ≠ .cancelled → x.call.period = s.changes →
        x.endedAt < t + s.breaker.rollingInterval

theorem timed_renewed {target : CircuitState} (h : s.Timed) (hs : s.Stamped)
    (hb : s.breaker.Renewed s.now target b) : (s.update b).Timed where
  started_le := h.started_le
  ended_le := h.ended_le
  window hclosed hpos := by
    have hinterval : b.rollingInterval = s.breaker.rollingInterval :=
      congrArg Breaker.Settings.rollingInterval hb.settings
    have hreset := hb.rollingResetAt (hb.state.symm.trans hclosed)
    rw [update_breaker, hinterval] at hpos
    rw [Breaker.rollingDeadline, if_neg (Nat.ne_of_gt hpos)] at hreset
    refine ⟨s.now, Nat.le_refl _, ?_, ?_, ?_⟩
    · rw [update_breaker, hreset, hinterval]
    · intro c hc hperiod
      have hle := hs.period_le c hc
      rw [update_changes_of_renewed hb] at hperiod
      omega
    · intro x hx _ hperiod
      have hle := hs.period_le _ (mem_started_of_ended hx)
      rw [update_changes_of_renewed hb] at hperiod
      omega

/-- Before a reset is due there is time left in the window. -/
theorem lt_of_fresh {t : Time} (hfresh : s.breaker.Fresh s.now)
    (hclosed : s.breaker.state = .closed) (hreset : s.breaker.rollingResetAt = some t) :
    s.now < t := by
  refine Nat.lt_of_not_le fun hle ↦ ?_
  exact hfresh .closed (.reset hclosed hreset hle)

theorem Timed.alike (h : s.Timed) (hb : s.breaker.Alike b) : (s.update b).Timed where
  started_le := h.started_le
  ended_le := h.ended_le
  window := by
    have hinterval : b.rollingInterval = s.breaker.rollingInterval :=
      congrArg Breaker.Settings.rollingInterval hb.settings
    rw [update_changes_of_eq hb.generation, update_breaker, hb.state, hb.rollingResetAt, hinterval]
    exact h.window

theorem Timed.begin {p : Permit} (h : s.Timed) : (s.begin p).Timed where
  started_le c hc := by
    rw [begin_started, List.mem_cons] at hc
    obtain rfl | hc := hc
    · exact Nat.le_refl _
    · exact h.started_le c hc
  ended_le := h.ended_le
  window hclosed hpos := by
    obtain ⟨t, hle, hreset, hstarted, hended⟩ := h.window hclosed hpos
    refine ⟨t, hle, hreset, fun c hc hperiod ↦ ?_, hended⟩
    rw [begin_started, List.mem_cons] at hc
    obtain rfl | hc := hc
    · exact hle
    · exact hstarted c hc hperiod

theorem Timed.finish (h : s.Timed) (hrunning : s.running[place]? = some x.call)
    (hnow : x.endedAt = s.now) (hfresh : s.breaker.Fresh s.now ∨ x.ending = .cancelled) :
    (s.finish place x).Timed where
  started_le d hd := h.started_le d ((mem_started_of_finish hrunning).mp hd)
  ended_le y hy := by
    rw [finish_ended, List.mem_cons] at hy
    obtain rfl | hy := hy
    · rw [hnow]
      exact h.started_le y.call (mem_started_of_running (mem_running_of_getElem? hrunning))
    · exact h.ended_le y hy
  window hclosed hpos := by
    obtain ⟨t, hle, hreset, hstarted, hended⟩ := h.window hclosed hpos
    refine ⟨t, hle, hreset, fun d hd ↦ hstarted d ((mem_started_of_finish hrunning).mp hd), ?_⟩
    intro y hy hending hperiod
    rw [finish_ended, List.mem_cons] at hy
    obtain rfl | hy := hy
    · obtain hfresh | hcancelled := hfresh
      · rw [hnow]
        exact lt_of_fresh hfresh hclosed hreset
      · exact absurd hcancelled hending
    · exact hended y hy hending hperiod

theorem Timed.completed {success : Bool} {c : Call} (h : s.Timed) (hs : s.Stamped)
    (hcompletes : s.breaker.Completes c.permit s.now success b) : (s.update b).Timed := by
  obtain halike | ⟨target, -, hrenewed⟩ := hcompletes.alike_or_turned
  · exact h.alike halike
  · exact timed_renewed h hs hrenewed

theorem Timed.advance (h : s.Timed) (ms : Nat) :
    ({ s with now := s.now + ms } : Traffic).Timed where
  started_le c hc := Nat.le_trans (h.started_le c hc) (Nat.le_add_right _ _)
  ended_le := h.ended_le
  window hclosed hpos := by
    obtain ⟨t, hle, hrest⟩ := h.window hclosed hpos
    exact ⟨t, Nat.le_trans hle (Nat.le_add_right _ _), hrest⟩

theorem Timed.move (hmove : Move s s') (hs : s.Stamped) (h : s.Timed) : s'.Timed := by
  cases hmove with
  | advance ms => exact h.advance ms
  | renew due renewed => exact timed_renewed h hs renewed
  | begin fresh acquires => exact (h.alike acquires.admits.alike).begin
  | @finish place call success b fresh running completes =>
    -- The call may as well be moved first and the breaker changed afterwards.
    let x : EndedCall := ⟨call, .of success, s.now, s.changes⟩
    have hended : (s.finish place x).Timed := h.finish running rfl (.inl fresh)
    exact hended.completed (hs.finish running (Nat.le_refl _)) completes
  | cancel running => exact (h.alike (Breaker.alike_release _ _)).finish running rfl (.inr rfl)

theorem timed_new (c : Config.CircuitBreaker) (start : Time) : (new c start).Timed where
  started_le d hd := by simp [new, started] at hd
  ended_le x hx := by simp [new] at hx
  window _ hpos := by
    have hne : c.rollingIntervalMs.toNat ≠ 0 := Nat.ne_of_gt hpos
    refine ⟨start, Nat.le_refl _, ?_, fun d hd ↦ by simp [new, started] at hd,
      fun x hx ↦ by simp [new] at hx⟩
    simp [new, Breaker.new, Breaker.rollingDeadline, hne]

theorem timed_run (c : Config.CircuitBreaker) (start : Time) (events : List Event) :
    ((new c start).run events).Timed := by
  let P (s : Traffic) : Prop := s.Stamped ∧ s.Timed
  have hP : ∀ {s s'}, Move s s' → P s → P s' := fun hmove hs ↦
    ⟨hs.1.move hmove, hs.2.move hmove hs.1⟩
  exact (Moves.keeps hP (moves_run _ events) ⟨stamped_new c start, timed_new c start⟩).2

theorem streak_run {c : Config.CircuitBreaker} {start : Time} {events : List Event}
    (hprompt : ((new c start).run events).Prompt) : ((new c start).run events).Streak := by
  let settings := (Breaker.new c start).settings
  let P (s : Traffic) : Prop :=
    s.Stamped ∧ s.breaker.Sound ∧ s.breaker.settings = settings ∧ s.Streak
  have hle : (Breaker.new c start).failureThreshold ≤ maxCount := by
    have hlt := c.failureThreshold.toNat_lt
    simp only [Breaker.new, maxCount, Word.max32]
    omega
  have hP : ∀ {s s'}, Move s s' → s'.Prompt → P s → P s' := by
    intro s s' hmove hprompt hbefore
    obtain ⟨hs, hsound, hsettings, hstreak⟩ := hbefore
    have hthreshold : s.breaker.failureThreshold = (Breaker.new c start).failureThreshold :=
      congrArg Breaker.Settings.failureThreshold hsettings
    exact ⟨hs.move hmove, hmove.sound hsound, hmove.settings.trans hsettings,
      hstreak.move hmove hprompt hs hsound (hthreshold ▸ hle)⟩
  have hnew : P (new c start) :=
    ⟨stamped_new c start, Breaker.sound_new c start, rfl, fun _ ↦ rfl⟩
  exact (Moves.keeps_of_prompt hP (moves_run _ events) hprompt hnew).2.2.2

/-! ## Trips -/

/-- A refresh leaves a closed breaker closed. -/
theorem state_refreshed_of_closed (h : s.breaker.state = .closed) :
    s.refreshed.breaker.state = .closed := by
  obtain ⟨-, hsame⟩ | ⟨target, b, hdue, hrenewed, hrefreshed⟩ := refreshed_cases s
  · rwa [hsame]
  · rw [hrefreshed, update_breaker, hrenewed.state]
    cases hdue with
    | reset => rfl
    | expiry opened => simp [h] at opened

/-- A closed breaker opens at a failure of a current call that brings the counter to the threshold,
and at nothing else. -/
theorem opens_iff_of_closed {e : Event} (hclosed : s.breaker.state = .closed) :
    (s.step e).breaker.state = .open ↔
      ∃ place c, e = .complete place false ∧ s.running[place]? = some c ∧
        s.refreshed.breaker.generation = c.permit.generation ∧
        s.refreshed.breaker.failureThreshold ≤
          bump s.refreshed.breaker.counts.consecutiveFailures := by
  have hrefreshed := state_refreshed_of_closed hclosed
  constructor
  · intro hopen
    have hne : s.breaker.state ≠ .open := by simp [hclosed]
    obtain ⟨place, c, b, he, hrunning, hcurrent, hturns, -⟩ := opens_cases hne hopen
    cases hturns with
    | trip closed reached => exact ⟨place, c, he, hrunning, hcurrent, reached⟩
    | reopen probing => simp [hrefreshed] at probing
  · rintro ⟨place, c, rfl, hrunning, hcurrent, hreached⟩
    obtain ⟨b, hcompletes, hstep⟩ := step_complete false hrunning
    rw [hstep, finish_breaker, update_breaker]
    cases hcompletes with
    | discarded stale => exact absurd hcurrent stale
    | ignored current opened => simp [hrefreshed] at opened
    | counted current keeps =>
      cases keeps with
      | failure closed below => exact absurd hreached (Nat.not_le_of_lt below)
    | turned current turns renewed =>
      cases turns with
      | trip => exact renewed.state
      | reopen => exact renewed.state

theorem prompt_of_step_complete {success : Bool} {c : Call} (hrunning : s.running[place]? = some c)
    (hprompt : (s.step (.complete place success)).Prompt) :
    s.refreshed.changes ≤ c.period + Word.max64 := by
  obtain ⟨b, -, hstep⟩ := step_complete success hrunning
  rw [hstep] at hprompt
  exact hprompt _ List.mem_cons_self

theorem failureSeries_step_complete {c : Call} (hrunning : s.running[place]? = some c)
    (hperiod : c.period = period) :
    (s.step (.complete place false)).failureSeries period =
      ⟨c, .failed, s.now, s.refreshed.changes⟩ :: s.failureSeries period := by
  obtain ⟨b, -, hstep⟩ := step_complete false hrunning
  rw [hstep, failureSeries_finish_failed rfl hperiod]
  rfl

/-- A series that is still growing, and the calls that can make it longer, lie within one window. -/
theorem Timed.exists_window (h : s.Timed) (hfresh : s.breaker.Fresh s.now)
    (hclosed : s.breaker.state = .closed) (hpos : 0 < s.breaker.rollingInterval) :
    ∃ t, s.now < t + s.breaker.rollingInterval ∧
      (∀ c ∈ s.running, c.period = s.changes → t ≤ c.admittedAt ∧ c.admittedAt ≤ s.now) ∧
      ∀ x ∈ s.failureSeries s.changes,
        t ≤ x.call.admittedAt ∧ x.call.admittedAt ≤ x.endedAt ∧
          x.endedAt < t + s.breaker.rollingInterval := by
  obtain ⟨t, -, hreset, hstarted, hended⟩ := h.window hclosed hpos
  refine ⟨t, lt_of_fresh hfresh hclosed hreset, fun c hc hperiod ↦ ?_, fun x hx ↦ ?_⟩
  · have hmem := mem_started_of_running hc
    exact ⟨hstarted c hmem hperiod, h.started_le c hmem⟩
  · obtain ⟨hmem, hending, hperiod⟩ := mem_of_mem_failureSeries hx
    exact ⟨hstarted _ (mem_started_of_ended hmem) hperiod, h.ended_le x hmem,
      hended x hmem hending hperiod⟩

/-- Below the threshold the counter gets to it at the next failure or not at all. -/
theorem threshold_le_bump_iff {n threshold : Nat} (hlt : n < threshold)
    (hle : threshold ≤ maxCount) : threshold ≤ bump n ↔ n + 1 = threshold := by
  rw [bump_of_lt (Nat.lt_of_lt_of_le hlt hle)]
  omega

/-- A closed breaker opens exactly at the failure of a call of the present period that makes the
unbroken series of failures of that period as long as the threshold; its counter is the length of
that series; and with a rolling interval all calls of a series that trips it have been let in and
have failed within less than one interval. The present period at an event is the one after a reset
that is due at that instant. -/
theorem trips_exactly_at_threshold (c : Config.CircuitBreaker) (start : Time)
    (events : List Event) (e : Event)
    (hprompt : (((new c start).run events).step e).Prompt) :
    let s := (new c start).run events
    let s' := s.step e
    let period := s.refreshed.changes
    (s.breaker.state = .closed ∧ s'.breaker.state = .open ↔
        s.breaker.state = .closed ∧ ∃ place call, e = .complete place false ∧
          s.running[place]? = some call ∧ call.period = period ∧
          (s'.failureSeries period).length = max 1 c.failureThreshold.toNat) ∧
      (s.breaker.state = .closed →
        s.breaker.counts.consecutiveFailures = (s.failureSeries s.changes).length) ∧
      (0 < c.rollingIntervalMs.toNat → s.breaker.state = .closed → s'.breaker.state = .open →
        ∃ t, ∀ x ∈ s'.failureSeries period,
          t ≤ x.call.admittedAt ∧ x.call.admittedAt ≤ x.endedAt ∧
            x.endedAt < t + c.rollingIntervalMs.toNat) := by
  intro s s' period
  have hrun : (new c start).run (events ++ [.read]) = s.refreshed := run_append _ _ _
  have hsettings : s.refreshed.breaker.settings = (Breaker.new c start).settings :=
    hrun ▸ settings_run c start (events ++ [.read])
  have hthreshold : s.refreshed.breaker.failureThreshold = max 1 c.failureThreshold.toNat :=
    congrArg Breaker.Settings.failureThreshold hsettings
  have hinterval : s.refreshed.breaker.rollingInterval = c.rollingIntervalMs.toNat :=
    congrArg Breaker.Settings.rollingInterval hsettings
  have hmax : max 1 c.failureThreshold.toNat ≤ maxCount := by
    have hlt := c.failureThreshold.toNat_lt
    simp only [maxCount, Word.max32]
    omega
  have hstamped : s.refreshed.Stamped := hrun ▸ stamped_run c start (events ++ [.read])
  have hsound : s.refreshed.breaker.Sound := hrun ▸ sound_run c start (events ++ [.read])
  have htimed : s.refreshed.Timed := hrun ▸ timed_run c start (events ++ [.read])
  have hbefore : s.Prompt := (moves_step s e).prompt hprompt
  have hstreak : s.refreshed.Streak := by
    rw [← hrun]
    exact streak_run (hrun ▸ hbefore)
  have hopens (hclosed : s.breaker.state = .closed) : s'.breaker.state = .open ↔
      ∃ place call, e = .complete place false ∧ s.running[place]? = some call ∧
        call.period = period ∧
        (s'.failureSeries period).length = max 1 c.failureThreshold.toNat := by
    have hrefreshed := state_refreshed_of_closed hclosed
    rw [opens_iff_of_closed hclosed, hthreshold]
    refine exists_congr fun place ↦ exists_congr fun call ↦ and_congr_right fun he ↦
      and_congr_right fun hrunning ↦ ?_
    subst he
    have hbelow := hsound.closed hrefreshed
    have hrecent : period ≤ call.period + Word.max64 := prompt_of_step_complete hrunning hprompt
    rw [hstamped.current_iff (mem_running_of_getElem? hrunning) hrecent]
    refine and_congr_right fun hperiod ↦ ?_
    rw [failureSeries_step_complete hrunning hperiod, List.length_cons]
    exact (hstreak hrefreshed) ▸ threshold_le_bump_iff (hthreshold ▸ hbelow) hmax
  refine ⟨and_congr_right hopens, ?_, fun hpos hclosed hopen ↦ ?_⟩
  · exact streak_run hbefore
  · obtain ⟨place, call, rfl, hrunning, hperiod, -⟩ := (hopens hclosed).mp hopen
    obtain ⟨t, hnow, hcalls, hseries⟩ := htimed.exists_window (fresh_refreshed s)
      (state_refreshed_of_closed hclosed) (hinterval ▸ hpos)
    rw [hinterval] at hnow hseries
    refine ⟨t, fun x hx ↦ ?_⟩
    rw [failureSeries_step_complete hrunning hperiod, List.mem_cons] at hx
    obtain rfl | hx := hx
    · obtain ⟨hafter, hbefore⟩ := hcalls call (mem_running_of_getElem? hrunning) hperiod
      exact ⟨hafter, hbefore, hnow⟩
    · exact hseries x hx

/-- The failure before the reset is not one of the two that trip the breaker. -/
theorem trips_after_rolling_reset :
    let s := (new ⟨2, 1000, 1, 100⟩ 0).run
      [.arrive, .complete 0 false, .advance 100, .arrive, .arrive, .complete 0 false]
    (s.step (.complete 0 false)).Prompt ∧ s.breaker.state = .closed ∧
      s.breaker.counts.consecutiveFailures = (s.failureSeries s.changes).length ∧
      (s.step (.complete 0 false)).breaker.state = .open := by
  have htrips := trips_exactly_at_threshold ⟨2, 1000, 1, 100⟩ 0
    [.arrive, .complete 0 false, .advance 100, .arrive, .arrive, .complete 0 false]
    (.complete 0 false) (by decide)
  refine ⟨by decide, by decide, htrips.2.1 (by decide), (htrips.1.mpr ⟨by decide, ?_⟩).2⟩
  exact ⟨0, ⟨⟨1, false⟩, 1, 100⟩, rfl, by decide, by decide, by decide⟩

end RpcGateway.Calls.Traffic
