import RpcGateway.Proofs.Breaker.OpenPeriod

/-!
# Recovery

A breaker cannot be wedged. Every slot that a half-open breaker has given away is held by a running
call of the present period, which gives it back when it ends. This holds without a bound on how many
generations a call may outlive: a permit whose number has come round gives a slot back too early and
never too late. An idle breaker is therefore as many successes away from being closed as it has
slots at the most, once its timeout has passed, and each success brings it one nearer.
-/

namespace RpcGateway.Calls.Traffic

variable {s s' : Traffic} {b : Breaker} {p : Permit} {x : EndedCall} {place n : Nat} {t : Time}

/-! ## No slot is lost -/

/-- Each slot that is taken is held by a running call of the present period. -/
structure Backed (s : Traffic) : Prop where
  probes_le : s.breaker.state = .halfOpen → s.breaker.probes ≤ s.runningIn s.changes
  probe : s.breaker.state = .halfOpen →
    ∀ c ∈ s.running, c.period = s.changes → c.permit.probe = true

theorem backed_new (c : Config.CircuitBreaker) (start : Time) : (new c start).Backed where
  probes_le h := by simp [new, Breaker.new] at h
  probe h := by simp [new, Breaker.new] at h

theorem backed_renewed {target : CircuitState} (hs : s.Stamped)
    (hb : s.breaker.Renewed t target b) : (s.update b).Backed where
  probes_le _ := by
    rw [update_breaker, hb.probes]
    exact Nat.zero_le _
  probe _ c hc hperiod := by
    have hle := hs.period_le c (mem_started_of_running hc)
    rw [update_changes_of_renewed hb] at hperiod
    omega

theorem Backed.begin (h : s.Backed) (hadmits : s.breaker.Admits p b) :
    ((s.update b).begin p).Backed := by
  have hstate := hadmits.alike.state
  have hchanges : (s.update b).changes = s.changes :=
    update_changes_of_eq hadmits.alike.generation
  constructor
  · intro hprobing
    have hbefore := hstate.symm.trans hprobing
    have hrunning := runningIn_begin (s.update b) p s.changes
    rw [hchanges, if_pos rfl] at hrunning
    rw [begin_changes, hchanges, hrunning, begin_breaker, update_breaker,
      hadmits.probes hbefore]
    exact Nat.succ_le_succ (h.probes_le hbefore)
  · intro hprobing c hc hperiod
    have hbefore := hstate.symm.trans hprobing
    rw [begin_running, List.mem_cons] at hc
    obtain rfl | hc := hc
    · exact hadmits.probe_iff.mpr hbefore
    · exact h.probe hbefore c hc (hperiod.trans hchanges)

/-- A permit with another number than the generation is of another period. -/
theorem Stamped.period_ne {c : Call} (h : s.Stamped) (hc : c ∈ s.running)
    (hstale : s.breaker.generation ≠ c.permit.generation) : c.period ≠ s.changes := by
  intro hperiod
  rw [h.generation, h.stamp c hc, hperiod] at hstale
  exact hstale rfl

theorem Backed.finish_other (h : s.Backed) (hrunning : s.running[place]? = some x.call)
    (hx : x.call.period ≠ s.changes) : (s.finish place x).Backed where
  probes_le hprobing := by
    have hcount := runningIn_finish hrunning s.changes
    rw [if_neg hx, Nat.add_zero] at hcount
    rw [finish_changes, hcount]
    exact h.probes_le hprobing
  probe hprobing c hc := h.probe hprobing c (mem_running_of_finish hc)

/-- A call that ends takes no slot away from another one, whatever the number in its permit. -/
theorem Backed.freed (h : s.Backed) (hrunning : s.running[place]? = some x.call)
    (halike : s.breaker.Alike b)
    (hprobes : b.probes = (s.breaker.freeProbe x.call.permit).probes) :
    ((s.update b).finish place x).Backed := by
  have hchanges : ((s.update b).finish place x).changes = s.changes :=
    update_changes_of_eq halike.generation
  constructor
  · intro hprobing
    have hbefore := halike.state.symm.trans hprobing
    have hle := h.probes_le hbefore
    have hcount : ((s.update b).finish place x).runningIn s.changes +
        (if x.call.period = s.changes then 1 else 0) = s.runningIn s.changes :=
      runningIn_finish hrunning s.changes
    rw [Breaker.probes_freeProbe] at hprobes
    rw [hchanges, finish_breaker, update_breaker]
    by_cases hperiod : x.call.period = s.changes
    · rw [if_pos (h.probe hbefore _ (mem_running_of_getElem? hrunning) hperiod)] at hprobes
      rw [if_pos hperiod] at hcount
      omega
    · rw [if_neg hperiod, Nat.add_zero] at hcount
      split at hprobes <;> omega
  · intro hprobing c hc hperiod
    exact h.probe (halike.state.symm.trans hprobing) c (List.mem_of_mem_eraseIdx hc)
      (hperiod.trans hchanges)

theorem Backed.move (hmove : Move s s') (hs : s.Stamped) (h : s.Backed) : s'.Backed := by
  cases hmove with
  | advance ms => exact ⟨h.probes_le, h.probe⟩
  | renew due renewed => exact backed_renewed hs renewed
  | begin fresh acquires => exact h.begin acquires.admits
  | @finish place c success b fresh running completes =>
    have hmem := mem_running_of_getElem? running
    cases completes with
    | discarded stale =>
      rw [update_self]
      exact h.finish_other running (hs.period_ne hmem stale)
    | ignored current opened =>
      exact h.freed running (Breaker.alike_freeProbe _ _) rfl
    | counted current keeps => exact h.freed running (Breaker.alike_counted _ _ _) rfl
    | turned current turns renewed =>
      have hle := hs.period_le c (mem_started_of_running hmem)
      refine (backed_renewed hs renewed).finish_other running ?_
      rw [update_changes_of_renewed renewed]
      dsimp only
      omega
  | @cancel place c running =>
    have hmem := mem_running_of_getElem? running
    unfold Breaker.release
    split
    · exact h.freed running (Breaker.alike_freeProbe _ _) rfl
    · rename_i stale
      rw [update_self]
      exact h.finish_other running (hs.period_ne hmem stale)

theorem backed_run (c : Config.CircuitBreaker) (start : Time) (events : List Event) :
    ((new c start).run events).Backed := by
  let P (s : Traffic) : Prop := s.Stamped ∧ s.Backed
  have hP : ∀ {s s'}, Move s s' → P s → P s' :=
    fun hmove hs ↦ ⟨hs.1.move hmove, hs.2.move hmove hs.1⟩
  exact (Moves.keeps hP (moves_run _ events) ⟨stamped_new c start, backed_new c start⟩).2

/-- With fewer running calls of the present period than slots, a half-open breaker lets the next
call in. -/
theorem Backed.admits (h : s.refreshed.Backed)
    (hprobing : s.refreshed.breaker.state = .halfOpen)
    (hroom : s.refreshed.runningIn s.refreshed.changes < s.refreshed.breaker.halfOpenMax) :
    ∃ p, (s.breaker.acquire s.now).1 = some p := by
  have hfree := Nat.lt_of_le_of_lt (h.probes_le hprobing) hroom
  obtain ⟨p, hadmitted, -⟩ := admits_probe hprobing hfree
  exact ⟨p, hadmitted⟩

/-! ## Quiet events -/

/-- Whether at an event no call asks and none ends. -/
def Event.isQuiet : Event → Bool
  | .advance _ => true
  | .read => true
  | _ => false

/-- What quiet events keep: they let time pass and bring about what it makes due. -/
theorem run_quiet {P : Traffic → Prop} {events : List Event}
    (hadvance : ∀ {s : Traffic} (ms : Nat), P s → P { s with now := s.now + ms })
    (hrenew : ∀ {s : Traffic} {target : CircuitState} {b : Breaker}, s.breaker.Due s.now target →
      s.breaker.Renewed s.now target b → P s → P (s.update b))
    (hquiet : ∀ e ∈ events, e.isQuiet = true) (hs : P s) : P (s.run events) := by
  induction events generalizing s with
  | nil => exact hs
  | cons e events ih =>
    refine ih (fun e' he' ↦ hquiet e' (List.mem_cons_of_mem _ he')) ?_
    have he := hquiet e List.mem_cons_self
    cases e with
    | advance ms => exact hadvance ms hs
    | read =>
      obtain ⟨-, hsame⟩ | ⟨target, b, hdue, hrenewed, hrefreshed⟩ := refreshed_cases s
      · simpa only [step, hsame] using hs
      · simpa only [step, hrefreshed] using hrenew hdue hrenewed hs
    | arrive => simp [Event.isQuiet] at he
    | complete => simp [Event.isQuiet] at he
    | cancel => simp [Event.isQuiet] at he

theorem running_run_quiet {events : List Event} (hquiet : ∀ e ∈ events, e.isQuiet = true) :
    (s.run events).running = s.running :=
  run_quiet (P := fun u ↦ u.running = s.running) (fun _ h ↦ h) (fun _ _ h ↦ h) hquiet rfl

/-- A call that has the breaker to itself and succeeds. -/
structure LoneCall where
  /-- What happens before it asks. -/
  before : List Event
  /-- What happens while it runs. -/
  during : List Event
  before_quiet : ∀ e ∈ before, e.isQuiet = true := by decide
  during_quiet : ∀ e ∈ during, e.isQuiet = true := by decide

def LoneCall.events (x : LoneCall) : List Event :=
  x.before ++ .arrive :: (x.during ++ [.complete 0 true])

/-- One call after another. -/
def eventsOf (calls : List LoneCall) : List Event := calls.flatMap LoneCall.events

/-! ## From call to call -/

/-- A breaker without running calls that is closed after `n` successes, if it is not open any more
or its timeout, counted from `t`, has passed. -/
inductive Nears (t : Time) (n : Nat) (b : Breaker) : Prop where
  | closed (closed : b.state = .closed)
  | probing (probing : b.state = .halfOpen) (free : b.probes = 0)
      (near : b.halfOpenMax ≤ b.counts.consecutiveSuccesses + n)
  | opened {since : Time} (opened : b.state = .open) (openedAt : b.openedAt = some since)
      (le : since ≤ t) (enough : b.halfOpenMax ≤ n)

theorem Nears.renewed {b' : Breaker} {now : Time} {target : CircuitState} (h : Nears t n b)
    (hdue : b.Due now target) (hb : b.Renewed now target b') : Nears t n b' := by
  have hmax := Breaker.halfOpenMax_eq hb.settings
  cases hdue with
  | reset => exact .closed hb.state
  | expiry opened =>
    cases h with
    | closed closed => simp [opened] at closed
    | probing probing => simp [opened] at probing
    | opened _ _ _ enough =>
      refine .probing hb.state hb.probes ?_
      rw [hb.counts, hmax]
      exact Nat.le_trans enough (Nat.le_add_left _ _)

theorem Nears.run_quiet {events : List Event} (h : Nears t n s.breaker)
    (hquiet : ∀ e ∈ events, e.isQuiet = true) : Nears t n (s.run events).breaker :=
  Traffic.run_quiet (P := fun u ↦ Nears t n u.breaker) (fun _ hu ↦ hu)
    (fun hdue hrenewed hu ↦ hu.renewed hdue hrenewed) hquiet h

/-- No call is running, the timeout has passed, and `n` successes are enough. -/
structure Recovering (t : Time) (n : Nat) (s : Traffic) : Prop where
  idle : s.running = []
  passed : t + s.breaker.openTimeout ≤ s.now
  sound : s.breaker.Sound
  room : s.breaker.halfOpenMax ≤ maxCount
  nears : Nears t n s.breaker

theorem Recovering.moves {m : Nat} (h : s.Recovering t n) (hmoves : Moves s s')
    (hidle : s'.running = []) (hnears : Nears t m s'.breaker) : s'.Recovering t m where
  idle := hidle
  passed := by
    have hnow : s.now ≤ s'.now := by
      refine hmoves.keeps (P := fun u ↦ s.now ≤ u.now) (fun hmove hle ↦ ?_) (Nat.le_refl _)
      exact Nat.le_trans hle hmove.now_le
    rw [Breaker.openTimeout_eq hmoves.settings]
    exact Nat.le_trans h.passed hnow
  sound := hmoves.keeps Move.sound h.sound
  room := by
    rw [Breaker.halfOpenMax_eq hmoves.settings]
    exact h.room
  nears := hnears

theorem Recovering.run_quiet {events : List Event} (h : s.Recovering t n)
    (hquiet : ∀ e ∈ events, e.isQuiet = true) : (s.run events).Recovering t n :=
  h.moves (moves_run s events) ((running_run_quiet hquiet).trans h.idle)
    (h.nears.run_quiet hquiet)

theorem Recovering.refreshed (h : s.Recovering t n) : s.refreshed.Recovering t n := by
  have hread : ∀ e ∈ [Event.read], e.isQuiet = true := by decide
  exact h.run_quiet hread

/-- While such a call runs: its success will be counted, or there is nothing left to set back. -/
inductive Boarded (n : Nat) (p : Permit) (b : Breaker) : Prop where
  | closed (closed : b.state = .closed)
      (current : b.generation = p.generation ∨ b.counts.consecutiveFailures = 0)
  | probing (probing : b.state = .halfOpen) (current : b.generation = p.generation)
      (probe : p.probe = true) (alone : b.probes = 1)
      (near : b.halfOpenMax ≤ b.counts.consecutiveSuccesses + n)

theorem Boarded.renewed {b' : Breaker} {now : Time} {target : CircuitState} (h : Boarded n p b)
    (hdue : b.Due now target) (hb : b.Renewed now target b') : Boarded n p b' := by
  cases hdue with
  | reset =>
    refine .closed hb.state (.inr ?_)
    rw [hb.counts]
  | expiry opened =>
    cases h with
    | closed closed => simp [opened] at closed
    | probing probing => simp [opened] at probing

theorem Boarded.run_quiet {events : List Event} (h : Boarded n p s.breaker)
    (hquiet : ∀ e ∈ events, e.isQuiet = true) : Boarded n p (s.run events).breaker :=
  Traffic.run_quiet (P := fun u ↦ Boarded n p u.breaker) (fun _ hu ↦ hu)
    (fun hdue hrenewed hu ↦ hu.renewed hdue hrenewed) hquiet h

/-- A recovering breaker refuses nobody. -/
theorem Recovering.asks (h : s.Recovering t n) :
    ∃ c, (s.breaker.acquire s.now).1 = some c.permit ∧ (s.step .arrive).running = [c] ∧
      Boarded n c.permit (s.step .arrive).breaker := by
  have hrefreshed := h.refreshed
  have hnears := hrefreshed.nears
  obtain ⟨-, hacquires, -⟩ | ⟨p, b, hadmitted, hacquires, hstep⟩ := step_arrive_cases s
  · cases hacquires with
    | refused opened =>
      cases hnears with
      | closed closed => simp [opened] at closed
      | probing probing => simp [opened] at probing
      | opened _ openedAt le =>
        refine absurd (.expiry opened fun since hsince ↦ ?_) (fresh_refreshed s .halfOpen)
        have hpassed := hrefreshed.passed
        rw [openedAt, Option.some.injEq] at hsince
        unfold Time at *
        omega
    | full probing full =>
      have hpos := hrefreshed.sound.halfOpenMax_pos
      cases hnears with
      | closed closed => simp [probing] at closed
      | probing _ free =>
        rw [free] at full
        exact absurd hpos (Nat.not_lt_of_le full)
      | opened opened => simp [probing] at opened
  · refine ⟨⟨p, (s.refreshed.update b).changes, s.now⟩, hadmitted, ?_, ?_⟩
    · rw [hstep, begin_running, update_running, hrefreshed.idle]
      rfl
    · rw [hstep, begin_breaker, update_breaker]
      cases hacquires with
      | admitted closed => exact .closed closed (.inl rfl)
      | probe probing =>
        cases hnears with
        | closed closed => simp [probing] at closed
        | probing _ free near => exact .probing probing rfl rfl (congrArg (· + 1) free) near
        | opened opened => simp [probing] at opened

/-- A success brings the breaker one success nearer, and leaves no failure if it is closed. -/
theorem Boarded.succeeds {b' : Breaker} {now : Time} (h : Boarded n p b) (hsound : b.Sound)
    (hroom : b.halfOpenMax ≤ maxCount) (hcompletes : b.Completes p now true b') :
    Nears t (n - 1) b' ∧ (b'.state = .closed → b'.counts.consecutiveFailures = 0) := by
  cases hcompletes with
  | discarded stale =>
    cases h with
    | closed closed current =>
      exact ⟨.closed closed, fun _ ↦ current.resolve_left stale⟩
    | probing _ current => exact absurd current stale
  | ignored _ opened =>
    cases h with
    | closed closed => simp [opened] at closed
    | probing probing => simp [opened] at probing
  | counted _ keeps =>
    have halike := Breaker.alike_counted b p true
    cases keeps with
    | success closed => exact ⟨.closed (halike.state.trans closed), fun _ ↦ rfl⟩
    | probe probing =>
      refine ⟨?_, fun _ ↦ rfl⟩
      cases h with
      | closed closed => simp [probing] at closed
      | probing _ _ probe alone near =>
        have hbelow := (hsound.successes probing).2
        have hcount : (b.counted p true).counts.consecutiveSuccesses =
            b.counts.consecutiveSuccesses + 1 := bump_of_lt (Nat.lt_of_lt_of_le hbelow hroom)
        refine .probing (halike.state.trans probing) ?_ ?_
        · have hfreed := Breaker.probes_freeProbe b p
          rw [if_pos probe, alone] at hfreed
          exact hfreed
        · rw [Breaker.halfOpenMax_eq halike.settings, hcount]
          omega
  | turned _ turns renewed =>
    cases turns with
    | close =>
      refine ⟨.closed renewed.state, fun _ ↦ ?_⟩
      rw [renewed.counts]

/-- Without running calls a breaker is no more successes away from being closed than it has slots.
-/
theorem nears_of_idle (hbacked : s.Backed) (hdated : s.Dated) (hidle : s.running = []) :
    Nears s.now s.breaker.halfOpenMax s.breaker := by
  cases hstate : s.breaker.state with
  | closed => exact .closed hstate
  | «open» =>
    obtain ⟨since, -, -, hopened, hle⟩ := hdated hstate
    exact .opened hstate hopened hle (Nat.le_refl _)
  | halfOpen =>
    have hprobes := hbacked.probes_le hstate
    rw [runningIn, hidle] at hprobes
    exact .probing hstate (Nat.le_zero.mp hprobes) (Nat.le_add_left _ _)

/-- A lone call is let in, and its success brings the breaker one success nearer. -/
theorem Recovering.succeeds (h : s.Recovering t n) (x : LoneCall) :
    (∃ p, ((s.run x.before).breaker.acquire (s.run x.before).now).1 = some p) ∧
      (s.run x.events).Recovering t (n - 1) ∧
      ((s.run x.events).breaker.state = .closed →
        (s.run x.events).breaker.counts.consecutiveFailures = 0) := by
  obtain ⟨c, hadmitted, hbegun, hboarded⟩ := (h.run_quiet x.before_quiet).asks
  refine ⟨⟨c.permit, hadmitted⟩, ?_⟩
  let u := (s.run x.before).step .arrive
  let v := u.run x.during
  have hread : ∀ e ∈ [Event.read], e.isQuiet = true := by decide
  have hboard : Boarded n c.permit v.refreshed.breaker :=
    (hboarded.run_quiet x.during_quiet).run_quiet hread
  have hmoves : Moves s v.refreshed :=
    ((moves_run s x.before).trans (moves_step _ .arrive)).trans
      ((moves_run u x.during).trans (moves_refreshed v))
  have hmax := Breaker.halfOpenMax_eq hmoves.settings
  have hrunning : v.running = [c] := (running_run_quiet x.during_quiet).trans hbegun
  have hfirst : v.running[0]? = some c := congrArg (·[0]?) hrunning
  obtain ⟨b, hcompletes, hstep⟩ := step_complete true hfirst
  obtain ⟨hnears, hfailures⟩ : Nears t (n - 1) b ∧ _ :=
    hboard.succeeds (hmoves.keeps Move.sound h.sound) (hmax ▸ h.room) hcompletes
  have hend : s.run x.events =
      (v.refreshed.update b).finish 0 ⟨c, .of true, v.now, v.refreshed.changes⟩ := by
    rw [LoneCall.events, run_append, ← hstep]
    exact run_append u x.during [.complete 0 true]
  refine ⟨h.moves (moves_run s x.events) ?_ ?_, ?_⟩
  · rw [hend, finish_running, update_running]
    exact congrArg (·.eraseIdx 0) hrunning
  · rw [hend]
    exact hnears
  · rw [hend]
    exact hfailures

/-- As many lone calls as are needed close the breaker, and each of them is let in. -/
theorem Recovering.succeed {calls : List LoneCall} (h : s.Recovering t calls.length)
    (hclean : calls = [] → s.breaker.state = .closed →
      s.breaker.counts.consecutiveFailures = 0) :
    (∀ k x, calls[k]? = some x →
        ∃ p, let u := s.run (eventsOf (calls.take k) ++ x.before)
          (u.breaker.acquire u.now).1 = some p) ∧
      (s.run (eventsOf calls)).breaker.state = .closed ∧
      (s.run (eventsOf calls)).breaker.counts.consecutiveFailures = 0 := by
  induction calls generalizing s with
  | nil =>
    have hclosed : s.breaker.state = .closed := by
      cases h.nears with
      | closed closed => exact closed
      | probing probing _ near =>
        have hbelow := (h.sound.successes probing).2
        exact absurd near (Nat.not_le_of_lt hbelow)
      | opened _ _ _ enough =>
        exact absurd h.sound.halfOpenMax_pos (Nat.not_lt_of_le enough)
    exact ⟨by simp, hclosed, hclean rfl hclosed⟩
  | cons x calls ih =>
    obtain ⟨hadmitted, hnext, hfailures⟩ := h.succeeds x
    have hrun (events : List Event) : s.run (x.events ++ events) = (s.run x.events).run events :=
      run_append s x.events events
    obtain ⟨hall, hclosed⟩ := ih hnext fun _ ↦ hfailures
    refine ⟨fun k y hy ↦ ?_, ?_⟩
    · cases k with
      | zero =>
        rw [List.getElem?_cons_zero, Option.some.injEq] at hy
        subst hy
        exact hadmitted
      | succ k =>
        have hmet := hall k y hy
        rw [← hrun, ← List.append_assoc] at hmet
        exact hmet
    · rw [← hrun] at hclosed
      exact hclosed

/-- No state that a run reaches is a dead end. Without running calls, once the timeout has passed,
as many lone calls as there are slots are all let in and leave the breaker closed without failures;
and a half-open breaker lets the next call in whenever fewer calls of its period are running than
there are slots. -/
theorem never_wedged (c : Config.CircuitBreaker) (start : Time) (events : List Event) :
    let s := (new c start).run events
    let slots := max 1 c.halfOpenMaxRequests.toNat
    (s.running = [] → ∀ (idle : List Event) (calls : List LoneCall),
        (∀ e ∈ idle, e.isQuiet = true) →
        s.now + c.openTimeoutMs.toNat ≤ (s.run idle).now → calls.length = slots →
        (∀ k x, calls[k]? = some x →
            ∃ p, let u := (s.run idle).run (eventsOf (calls.take k) ++ x.before)
              (u.breaker.acquire u.now).1 = some p) ∧
          let v := (s.run idle).run (eventsOf calls)
          v.breaker.state = .closed ∧ v.breaker.counts.consecutiveFailures = 0) ∧
      (s.refreshed.breaker.state = .halfOpen →
        s.refreshed.runningIn s.refreshed.changes < slots →
        ∃ p, (s.breaker.acquire s.now).1 = some p) := by
  intro s slots
  have hsettings : s.breaker.settings = (Breaker.new c start).settings :=
    settings_run c start events
  have hmax : s.breaker.halfOpenMax = slots := Breaker.halfOpenMax_eq hsettings
  refine ⟨fun hrunning idle calls hquiet hpassed hlength ↦ ?_, fun hprobing hroom ↦ ?_⟩
  · let u := s.run idle
    have hmoves : Moves s u := moves_run s idle
    have humax : u.breaker.halfOpenMax = slots :=
      (Breaker.halfOpenMax_eq hmoves.settings).trans hmax
    have htimeout : u.breaker.openTimeout = c.openTimeoutMs.toNat :=
      Breaker.openTimeout_eq (hmoves.settings.trans hsettings)
    have hroom : slots ≤ maxCount := by
      have hlt := c.halfOpenMaxRequests.toNat_lt
      simp only [slots, maxCount, Word.max32]
      omega
    have hnears : Nears s.now slots s.breaker :=
      hmax ▸ nears_of_idle (backed_run c start events) (dated_run c start events) hrunning
    have hrecovering : u.Recovering s.now calls.length := by
      rw [hlength]
      exact {
        idle := (running_run_quiet hquiet).trans hrunning
        passed := htimeout ▸ hpassed
        sound := hmoves.keeps Move.sound (sound_run c start events)
        room := humax ▸ hroom
        nears := hnears.run_quiet hquiet }
    refine hrecovering.succeed fun hnone ↦ ?_
    have hsome : 0 < calls.length := by omega
    simp [hnone] at hsome
  · have hread : (new c start).run (events ++ [.read]) = s.refreshed := run_append _ _ _
    have hbacked : s.refreshed.Backed := hread ▸ backed_run c start (events ++ [.read])
    rw [← hmax, ← Breaker.halfOpenMax_eq (moves_refreshed s).settings] at hroom
    exact hbacked.admits hprobing hroom

/-- One of two probes has succeeded and the other has been given up, and a call from before the trip
has failed meanwhile; two more successes close the breaker. -/
theorem recovers_after_cancelled_probe :
    let s := (new ⟨1, 1000, 2, 0⟩ 0).run
      [.arrive, .arrive, .complete 0 false, .advance 1000, .arrive, .arrive, .complete 0 true,
        .complete 1 false, .cancel 0]
    let call : LoneCall := { before := [.advance 1], during := [.advance 5, .read] }
    let v := (s.run [.advance 1000]).run (eventsOf [call, call])
    s.running = [] ∧ s.breaker.state = .halfOpen ∧ s.breaker.counts.consecutiveSuccesses = 1 ∧
      v.breaker.state = .closed ∧
      ∃ p, (s.breaker.acquire s.now).1 = some p := by
  have hwedged := never_wedged ⟨1, 1000, 2, 0⟩ 0
    [.arrive, .arrive, .complete 0 false, .advance 1000, .arrive, .arrive, .complete 0 true,
      .complete 1 false, .cancel 0]
  refine ⟨by decide, by decide, by decide, ?_, hwedged.2 (by decide) (by decide)⟩
  exact (hwedged.1 (by decide) [.advance 1000] _ (by decide) (by decide) (by decide)).2.1

end RpcGateway.Calls.Traffic
