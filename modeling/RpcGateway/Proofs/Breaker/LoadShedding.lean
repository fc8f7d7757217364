import RpcGateway.Proofs.Breaker.Tripping

/-!
# How much load a breaker sheds

After a trip, as long as no call succeeds and none is given up, a breaker goes round: it is open for
its timeout, lets probes through, and opens again at the first of them that fails. The beginnings of
two rounds are at least one timeout apart, and in one round it has only the slots of the probes to
give away, since no slot comes back before it opens again. So it starts at most that many calls for
each whole timeout that has passed.
-/

namespace RpcGateway.Calls.Traffic

variable {s s' : Traffic} {b : Breaker} {p : Permit} {x : EndedCall} {place : Nat} {t0 : Time}

/-- How many calls have been let in later than an instant, but at most so much later. -/
def startedWithin (s : Traffic) (t0 length : Time) : Nat :=
  s.started.countP fun c ↦ t0 < c.admittedAt ∧ c.admittedAt ≤ t0 + length

theorem startedWithin_begin (s : Traffic) (p : Permit) (t0 length : Time) :
    (s.begin p).startedWithin t0 length =
      s.startedWithin t0 length + if t0 < s.now ∧ s.now ≤ t0 + length then 1 else 0 := by
  simp [startedWithin, List.countP_cons]

theorem startedWithin_finish (h : s.running[place]? = some x.call) (t0 length : Time) :
    (s.finish place x).startedWithin t0 length = s.startedWithin t0 length :=
  (finish_started_perm h).countP_eq _

/-- In the beginning there is none, for all calls so far have been let in by now. -/
theorem startedWithin_now (h : s.Timed) (length : Time) : s.startedWithin s.now length = 0 := by
  rw [startedWithin, List.countP_eq_zero]
  intro c hc
  have hle := h.started_le c hc
  have hnot : ¬ s.now < c.admittedAt := Nat.not_lt_of_le hle
  simp [hnot]

/-! ## Rounds -/

/-- Where a breaker stands that tripped at `t0` and has gone round `rounds` times since: how late it
is at least, and how many calls it has let in at most. -/
inductive Sheds (t0 : Time) (rounds : Nat) (s : Traffic) : Prop where
  | opened {t : Time} (opened : s.breaker.state = .open) (openedAt : s.breaker.openedAt = some t)
      (le : t ≤ s.now) (late : t0 + rounds * s.breaker.openTimeout ≤ t)
      (bound : ∀ length, s.startedWithin t0 length ≤
        s.breaker.halfOpenMax * min rounds (length / s.breaker.openTimeout))
  | probing (probing : s.breaker.state = .halfOpen)
      (late : t0 + (rounds + 1) * s.breaker.openTimeout ≤ s.now)
      (bound : ∀ length, s.startedWithin t0 length ≤
        s.breaker.halfOpenMax * min rounds (length / s.breaker.openTimeout) +
          if rounds + 1 ≤ length / s.breaker.openTimeout then s.breaker.probes else 0)

/-- The probes of a round do not exceed what the round is allowed. -/
theorem round_le {slots probes rounds n : Nat} (h : probes ≤ slots) :
    slots * min rounds n + (if rounds + 1 ≤ n then probes else 0) ≤
      slots * min (rounds + 1) n := by
  by_cases hround : rounds + 1 ≤ n
  · rw [if_pos hround, Nat.min_eq_left (Nat.le_of_succ_le hround), Nat.min_eq_left hround]
    calc
      slots * rounds + probes ≤ slots * rounds + slots := Nat.add_le_add_left h _
      _ = slots * (rounds + 1) := (Nat.mul_succ slots rounds).symm
  · have hle : n ≤ rounds := by omega
    apply Nat.le_of_eq
    rw [if_neg hround, Nat.add_zero, Nat.min_eq_right hle,
      Nat.min_eq_right (Nat.le_succ_of_le hle)]

theorem Sheds.state_ne_closed {rounds : Nat} (h : s.Sheds t0 rounds) :
    s.breaker.state ≠ .closed := by
  cases h with
  | opened opened => simp [opened]
  | probing probing => simp [probing]

/-- For each whole timeout a breaker starts no more calls than it has slots. -/
theorem Sheds.bound {rounds : Nat} (h : s.Sheds t0 rounds) (hsound : s.breaker.Sound)
    (length : Time) : s.startedWithin t0 length ≤
      s.breaker.halfOpenMax * (length / s.breaker.openTimeout) := by
  cases h with
  | opened _ _ _ _ bound =>
    exact Nat.le_trans (bound length) (Nat.mul_le_mul_left _ (Nat.min_le_right _ _))
  | probing _ _ bound =>
    calc
      s.startedWithin t0 length ≤ _ := bound length
      _ ≤ s.breaker.halfOpenMax * min (rounds + 1) (length / s.breaker.openTimeout) :=
        round_le hsound.probes_le
      _ ≤ s.breaker.halfOpenMax * (length / s.breaker.openTimeout) :=
        Nat.mul_le_mul_left _ (Nat.min_le_right _ _)

theorem Sheds.advance {rounds : Nat} (h : s.Sheds t0 rounds) (ms : Nat) :
    ({ s with now := s.now + ms } : Traffic).Sheds t0 rounds := by
  have hnow : s.now ≤ s.now + ms := Nat.le_add_right _ _
  cases h with
  | opened opened openedAt le late bound =>
    exact .opened opened openedAt (Nat.le_trans le hnow) late bound
  | probing probing late bound => exact .probing probing (Nat.le_trans late hnow) bound

/-- When the timeout has passed the round goes on with all slots free. -/
theorem Sheds.refreshed {rounds : Nat} (h : s.Sheds t0 rounds) :
    s.refreshed.Sheds t0 rounds := by
  obtain ⟨-, hsame⟩ | ⟨target, b, hdue, hrenewed, hrefreshed⟩ := refreshed_cases s
  · rwa [hsame]
  · rw [hrefreshed]
    cases hdue with
    | reset closed => exact absurd closed h.state_ne_closed
    | expiry opened elapsed =>
      cases h with
      | opened _ openedAt le late bound =>
        have hpassed := elapsed _ openedAt
        have htimeout := Breaker.openTimeout_eq hrenewed.settings
        have hmax := Breaker.halfOpenMax_eq hrenewed.settings
        refine .probing hrenewed.state ?_ fun length ↦ ?_
        · rw [update_breaker, update_now, htimeout, Nat.succ_mul]
          unfold Time at *
          omega
        · rw [update_breaker, htimeout, hmax]
          exact Nat.le_trans (bound length) (Nat.le_add_right _ _)
      | probing probing => simp [opened] at probing

/-- A probe takes a slot, and counts only for lengths that reach into its round. -/
theorem Sheds.begin {rounds : Nat} (h : s.Sheds t0 rounds) (hpos : 0 < s.breaker.openTimeout)
    (hacquires : s.breaker.Acquires (some p, b)) :
    ((s.update b).begin p).Sheds t0 rounds := by
  cases hacquires with
  | admitted closed => exact absurd closed h.state_ne_closed
  | probe probing room =>
    cases h with
    | opened opened => simp [probing] at opened
    | probing _ late bound =>
      refine .probing probing late fun length ↦ ?_
      have hbefore := bound length
      rw [startedWithin_begin]
      by_cases hwithin : t0 < s.now ∧ s.now ≤ t0 + length
      · have hround : rounds + 1 ≤ length / s.breaker.openTimeout := by
          rw [Nat.le_div_iff_mul_le hpos]
          exact Nat.le_of_add_le_add_left (Nat.le_trans late hwithin.2)
        rw [if_pos hround] at hbefore
        rw [begin_breaker, update_breaker, update_now, if_pos hwithin, if_pos hround]
        exact Nat.succ_le_succ hbefore
      · rw [begin_breaker, update_breaker, update_now, if_neg hwithin]
        refine Nat.le_trans hbefore (Nat.add_le_add_left ?_ _)
        split
        · exact Nat.le_succ _
        · exact Nat.le_refl _

/-- A failure changes nothing or begins the next round. -/
theorem Sheds.failed {rounds : Nat} (h : s.Sheds t0 rounds) (hsound : s.breaker.Sound)
    (hcompletes : s.breaker.Completes p s.now false b) :
    ∃ rounds, (s.update b).Sheds t0 rounds := by
  have htimeout := Breaker.openTimeout_eq hcompletes.settings
  have hmax := Breaker.halfOpenMax_eq hcompletes.settings
  cases hcompletes with
  | discarded =>
    rw [update_self]
    exact ⟨rounds, h⟩
  | ignored current opened =>
    cases h with
    | opened _ openedAt le late bound =>
      have halike := Breaker.alike_freeProbe s.breaker p
      refine ⟨rounds, .opened (halike.state.trans opened) (halike.openedAt.trans openedAt) le ?_
        fun length ↦ ?_⟩
      · rw [update_breaker, htimeout]
        exact late
      · rw [update_breaker, htimeout, hmax]
        exact bound length
    | probing probing => simp [opened] at probing
  | counted current keeps =>
    cases keeps with
    | failure closed => exact absurd closed h.state_ne_closed
  | turned current turns renewed =>
    cases turns with
    | trip closed => exact absurd closed h.state_ne_closed
    | reopen probing =>
      cases h with
      | opened opened => simp [probing] at opened
      | probing _ late bound =>
        refine ⟨rounds + 1, .opened renewed.state (renewed.openedAt rfl) (Nat.le_refl _) ?_
          fun length ↦ ?_⟩
        · rw [update_breaker, htimeout]
          exact late
        · rw [update_breaker, htimeout, hmax]
          exact Nat.le_trans (bound length) (round_le hsound.probes_le)

theorem Sheds.finish {rounds : Nat} (h : s.Sheds t0 rounds)
    (hrunning : s.running[place]? = some x.call) : (s.finish place x).Sheds t0 rounds := by
  have hstarted := startedWithin_finish hrunning t0
  cases h with
  | opened opened openedAt le late bound =>
    refine .opened opened openedAt le late fun length ↦ ?_
    exact Nat.le_trans (Nat.le_of_eq (hstarted length)) (bound length)
  | probing probing late bound =>
    refine .probing probing late fun length ↦ ?_
    exact Nat.le_trans (Nat.le_of_eq (hstarted length)) (bound length)

/-! ## Runs of failures -/

/-- Whether a call succeeds at an event or is given up. -/
def Event.relieves : Event → Bool
  | .complete _ success => success
  | .cancel _ => true
  | _ => false

theorem Sheds.step {rounds : Nat} {e : Event} (h : s.Sheds t0 rounds) (he : e.relieves = false)
    (hsound : s.breaker.Sound) (hpos : 0 < s.breaker.openTimeout) :
    ∃ rounds, (s.step e).Sheds t0 rounds := by
  have hrefreshed := h.refreshed
  have hmoves := moves_refreshed s
  cases e with
  | advance ms => exact ⟨rounds, h.advance ms⟩
  | read => exact ⟨rounds, hrefreshed⟩
  | arrive =>
    obtain ⟨-, -, hstep⟩ | ⟨p, b, -, hacquires, hstep⟩ := step_arrive_cases s
    · exact ⟨rounds, hstep ▸ hrefreshed⟩
    · have htimeout := Breaker.openTimeout_eq hmoves.settings
      rw [hstep]
      exact ⟨rounds, hrefreshed.begin (htimeout ▸ hpos) hacquires⟩
  | complete place success =>
    cases hrunning : s.running[place]? with
    | none =>
      simp only [Traffic.step, hrunning]
      exact ⟨rounds, h⟩
    | some c =>
      obtain ⟨b, hcompletes, hstep⟩ := step_complete success hrunning
      obtain rfl : success = false := he
      obtain ⟨next, hnext⟩ := hrefreshed.failed (hmoves.keeps Move.sound hsound) hcompletes
      rw [hstep]
      exact ⟨next, hnext.finish hrunning⟩
  | cancel place => simp [Event.relieves] at he

theorem Sheds.run {rounds : Nat} {events : List Event} (h : s.Sheds t0 rounds)
    (hevents : ∀ e ∈ events, e.relieves = false) (hsound : s.breaker.Sound)
    (hpos : 0 < s.breaker.openTimeout) : ∃ rounds, (s.run events).Sheds t0 rounds := by
  induction events generalizing s rounds with
  | nil => exact ⟨rounds, h⟩
  | cons e events ih =>
    have hmoves := moves_step s e
    have htimeout := Breaker.openTimeout_eq hmoves.settings
    obtain ⟨next, hnext⟩ := h.step (hevents e List.mem_cons_self) hsound hpos
    exact ih hnext (fun e' he' ↦ hevents e' (List.mem_cons_of_mem _ he'))
      (hmoves.keeps Move.sound hsound) (htimeout ▸ hpos)

/-- After a trip, in a run in which no call succeeds and none is given up, a breaker does not close,
and of all calls that ask it starts no more than its number of probes for each whole timeout. -/
theorem starts_at_most_probes_per_timeout (c : Config.CircuitBreaker) (start : Time)
    (before : List Event) (e : Event) (after : List Event) (hpos : 0 < c.openTimeoutMs.toNat)
    (hne : ((new c start).run before).breaker.state ≠ .open)
    (hopen : (((new c start).run before).step e).breaker.state = .open)
    (hafter : ∀ x ∈ after, x.relieves = false) :
    let tripped := ((new c start).run before).step e
    let u := tripped.run after
    u.breaker.state ≠ .closed ∧ ∀ length, u.startedWithin tripped.now length ≤
      max 1 c.halfOpenMaxRequests.toNat * (length / c.openTimeoutMs.toNat) := by
  intro tripped u
  have htripped : tripped = (new c start).run (before ++ [e]) := (run_append _ before [e]).symm
  have hsettings : tripped.breaker.settings = (Breaker.new c start).settings :=
    htripped ▸ settings_run c start (before ++ [e])
  have htimeout : tripped.breaker.openTimeout = c.openTimeoutMs.toNat :=
    Breaker.openTimeout_eq hsettings
  have hsound : tripped.breaker.Sound := htripped ▸ sound_run c start (before ++ [e])
  have htimed : tripped.Timed := htripped ▸ timed_run c start (before ++ [e])
  have hsheds : tripped.Sheds tripped.now 0 := by
    refine .opened hopen (openedAt_step hne hopen) (Nat.le_refl _) ?_ fun length ↦ ?_
    · apply Nat.le_of_eq
      rw [Nat.zero_mul, Nat.add_zero]
    · rw [startedWithin_now htimed length]
      exact Nat.zero_le _
  obtain ⟨rounds, hu⟩ := hsheds.run hafter hsound (htimeout ▸ hpos)
  have hmoves := moves_run tripped after
  have husettings := hmoves.settings.trans hsettings
  have humax : u.breaker.halfOpenMax = max 1 c.halfOpenMaxRequests.toNat :=
    Breaker.halfOpenMax_eq husettings
  have hutimeout : u.breaker.openTimeout = c.openTimeoutMs.toNat :=
    Breaker.openTimeout_eq husettings
  rw [← humax, ← hutimeout]
  exact ⟨hu.state_ne_closed, hu.bound (hmoves.keeps Move.sound hsound)⟩

/-- One of two probes fails before the other, and a third call comes when the breaker has opened
again. -/
theorem starts_two_probes_in_a_second :
    let tripped := (new ⟨1, 1000, 2, 0⟩ 0).step .arrive |>.step (.complete 0 false)
    let u := tripped.run
      [.advance 1000, .arrive, .arrive, .complete 0 false, .complete 0 false, .arrive]
    u.breaker.state ≠ .closed ∧ u.startedWithin tripped.now 1999 = 2 ∧
      u.startedWithin tripped.now 1999 ≤ 2 * (1999 / 1000) := by
  have hsheds := starts_at_most_probes_per_timeout ⟨1, 1000, 2, 0⟩ 0 [.arrive] (.complete 0 false)
    [.advance 1000, .arrive, .arrive, .complete 0 false, .complete 0 false, .arrive]
    (by decide) (by decide) (by decide) (by decide)
  exact ⟨hsheds.1, by decide, hsheds.2 1999⟩

end RpcGateway.Calls.Traffic
