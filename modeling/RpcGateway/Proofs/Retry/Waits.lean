import Mathlib.Algebra.BigOperators.Intervals
import Mathlib.Algebra.BigOperators.Ring.Finset
import RpcGateway.Proofs.Retry.Attempts

/-!
# The waits of a run

A run is watched: beside the state it is written down when each attempt is begun and when word of
each retry comes, at which the wait begins. Watching changes nothing about the run. Each wait ends
when the next attempt is begun, and the waits are the backoffs by the number of the attempt before
them, from one on. So the whole wait of a run is a sum of the first multiples of the base, unless
one of them is cut off at the longest span.
-/

namespace RpcGateway.Calls

variable {σ α : Type} {p : RetryPolicy} {deadline : Deadline} {made k : Nat} {now : Time}
  {begun paused : List Time}

/-! ## Watching -/

/-- A state, and beside it the instants at which attempts and waits have been begun. -/
structure Watched (σ : Type) where
  state : σ
  begun : List Time := []
  paused : List Time := []

namespace Watched

def begin (now : Time) (w : Watched σ) : Watched σ := { w with begun := w.begun ++ [now] }

def set (s : σ) (w : Watched σ) : Watched σ := { w with state := s }

@[simp] theorem state_set (s : σ) (w : Watched σ) : state (set s w) = s := rfl

@[simp] theorem set_set (s s' : σ) (w : Watched σ) : set s (set s' w) = set s w := rfl

@[simp] theorem set_state (w : Watched σ) : set w.state w = w := rfl

/-- An attempt, of which it is written down when it is begun. -/
def attempt (op : Activity σ (Except Rpc.Error α)) : Activity (Watched σ) (Except Rpc.Error α) :=
  .act begin fun _ _ ↦ op.onPart state set

/-- Word of a retry, of which it is written down when it comes. -/
def retried (onRetry : Nat → Rpc.Error → Time → σ → σ) (n : Nat) (e : Rpc.Error) (now : Time)
    (w : Watched σ) : Watched σ :=
  { w with state := onRetry n e now w.state, paused := w.paused ++ [now] }

/-- How long each wait was, at the end of which another attempt was begun. -/
def waits (w : Watched σ) : List Nat :=
  List.zipWith (fun next pause ↦ next - pause) w.begun.tail w.paused

theorem run_bound_attempt (deadline : Deadline) (op : Activity σ (Except Rpc.Error α)) (now : Time)
    (w : Watched σ) :
    (deadline.bound (attempt op)).run now w =
      match (deadline.bound op).run now w.state with
      | (t, s, outcome) => (t, (w.begin now).set s, outcome) := by
  change ((op.onPart state set).withinAfter deadline.instant 0).run now (w.begin now) = _
  rw [Activity.withinAfter_onPart]
  exact Activity.run_onPart state_set set_set set_state _ now (w.begin now)

end Watched

/-- The instants at which attempts and waits are begun from `now` on, when `made` attempts have been
made. -/
inductive Paced (p : RetryPolicy) (deadline : Deadline) :
    Nat → Time → List Time → List Time → Prop where
  | late {made : Nat} {now : Time} (passed : deadline.instant ≤ now) :
      Paced p deadline made now [] []
  | last {made : Nat} {now : Time} (before : now < deadline.instant) :
      Paced p deadline made now [now] []
  | again {made : Nat} {now t : Time} {begun paused : List Time} (before : now < deadline.instant)
      (ends : t + p.wait (made + 1) < deadline.instant)
      (rest : Paced p deadline (made + 1) (t + p.wait (made + 1)) begun paused) :
      Paced p deadline made now (now :: begun) (t :: paused)

/-- The run of any operation when it is watched: the run itself, and its pace. -/
theorem run_watched (p : RetryPolicy) (deadline : Deadline)
    (op : Activity σ (Except Rpc.Error α)) (onRetry : Nat → Rpc.Error → Time → σ → σ)
    (more made : Nat) (now : Time) (w : Watched σ) :
    ∃ finish s begun paused outcome, Paced p deadline made now begun paused ∧
      (p.attempts deadline op onRetry more made).run now w.state = (finish, s, outcome) ∧
      (p.attempts deadline (Watched.attempt op) (Watched.retried onRetry) more made).run now w =
        (finish, ⟨s, w.begun ++ begun, w.paused ++ paused⟩, outcome) := by
  induction more using Nat.strongRecOn generalizing made now w with
  | ind more ih =>
    rw [run_attempts_eq, run_attempts_eq]
    by_cases hpassed : deadline.instant ≤ now
    · rw [if_pos hpassed, if_pos hpassed]
      exact ⟨now, w.state, [], [], _, .late hpassed, rfl, by simp⟩
    rw [if_neg hpassed, if_neg hpassed, Watched.run_bound_attempt]
    have hbefore := Nat.lt_of_not_le hpassed
    obtain ⟨t, s, outcome⟩ := (deadline.bound op).run now w.state
    dsimp only
    have hlast (outcome : Outcome (Except RetryError α)) :
        ∃ finish s' begun paused outcome', Paced p deadline made now begun paused ∧
          (t, s, outcome) = (finish, s', outcome') ∧
          (t, (w.begin now).set s, outcome) =
            (finish, ⟨s', w.begun ++ begun, w.paused ++ paused⟩, outcome') :=
      ⟨_, _, _, _, _, .last hbefore, rfl, by simp [Watched.begin, Watched.set]⟩
    -- The run and the watched run leave each round on the same way.
    cases outcome with
    | panicked => exact hlast .panicked
    | stuck => exact hlast .stuck
    | done got =>
      cases got with
      | none => exact hlast _
      | some delivered =>
        cases delivered with
        | ok a => exact hlast _
        | error e =>
          simp only [RetryPolicy.afterwards]
          by_cases hretryable : e.retryable = true
          · rw [if_pos hretryable, if_pos hretryable]
            cases more with
            | zero => exact hlast _
            | succ more =>
              dsimp only
              by_cases hunnamed : clockEnd ≤ t + p.wait (made + 1)
              · rw [if_pos hunnamed, if_pos hunnamed]
                exact hlast .panicked
              rw [if_neg hunnamed, if_neg hunnamed]
              by_cases hreaches : deadline.instant ≤ t + p.wait (made + 1)
              · rw [if_pos hreaches, if_pos hreaches]
                exact hlast _
              · rw [if_neg hreaches, if_neg hreaches]
                obtain ⟨finish, s', begun, paused, outcome, hpaced, hrun, hwatched⟩ :=
                  ih more (Nat.lt_succ_self more) (made + 1) (t + p.wait (made + 1))
                    (Watched.retried onRetry (made + 1) e t ((w.begin now).set s))
                refine ⟨finish, s', _, _, outcome, .again hbefore (Nat.lt_of_not_le hreaches)
                  hpaced, hrun, hwatched.trans ?_⟩
                simp [Watched.retried, Watched.begin, Watched.set]
          · rw [if_neg hretryable, if_neg hretryable]
            exact hlast _

/-! ## The waits one by one -/

theorem Paced.exists_begun (h : Paced p deadline made now begun paused)
    (hbefore : now < deadline.instant) : ∃ later, begun = now :: later := by
  cases h with
  | late passed => exact absurd passed (Nat.not_le_of_lt hbefore)
  | last => exact ⟨[], rfl⟩
  | again => exact ⟨_, rfl⟩

/-- Every wait is followed by an attempt. -/
theorem Paced.length_paused (h : Paced p deadline made now begun paused) :
    paused.length = begun.length - 1 := by
  induction h with
  | late => rfl
  | last => rfl
  | again _ ends rest ih =>
    obtain ⟨later, rfl⟩ := rest.exists_begun ends
    simpa using ih

theorem Paced.waits_eq (h : Paced p deadline made now begun paused) :
    List.zipWith (fun next pause ↦ next - pause) begun.tail paused =
      (List.range' (made + 1) (begun.length - 1)).map p.wait := by
  induction h with
  | late => rfl
  | last => rfl
  | again _ ends rest ih =>
    obtain ⟨later, rfl⟩ := rest.exists_begun ends
    simp only [List.tail_cons, List.length_cons, Nat.add_sub_cancel] at ih ⊢
    rw [List.zipWith_cons_cons, Nat.add_sub_cancel_left, ih, List.range'_succ, List.map_cons]

/-! ## The waits together -/

/-- The sum of the first multiples of a number is half of the number times `k * (k - 1)`. -/
theorem sum_multiples {f : Nat → Nat} {b : Nat} (hf : ∀ n < k, f n = n * b) :
    ((List.range' 1 (k - 1)).map f).sum = b * k * (k - 1) / 2 := by
  have hmultiples : ((List.range' 1 (k - 1)).map f).sum = (∑ n ∈ Finset.range k, n) * b := by
    cases k with
    | zero => simp
    | succ m =>
      calc
        ((List.range' 1 m).map f).sum = ∑ n ∈ Finset.Ico 1 (1 + m), f n := by
          rw [← List.toFinset_range'_1, List.sum_toFinset f List.nodup_range']
        _ = ∑ n ∈ Finset.range (m + 1), f n := by
          rw [Finset.sum_range_eq_add_Ico f (Nat.succ_pos m), hf 0 (Nat.succ_pos m), Nat.zero_mul,
            Nat.zero_add, Nat.add_comm 1 m]
        _ = (∑ n ∈ Finset.range (m + 1), n) * b := by
          rw [Finset.sum_mul]
          exact Finset.sum_congr rfl fun n hn ↦ hf n (Finset.mem_range.mp hn)
  refine (Nat.div_eq_of_eq_mul_left (by decide) ?_).symm
  calc
    b * k * (k - 1) = (∑ n ∈ Finset.range k, n) * 2 * b := by
      rw [Finset.sum_range_id_mul_two, Nat.mul_assoc, Nat.mul_comm]
    _ = ((List.range' 1 (k - 1)).map f).sum * 2 := by rw [hmultiples, Nat.mul_right_comm]

/-- If the last wait before attempt `k` is not cut off, neither are those before it. -/
theorem mul_le_of_lt {n b limit : Nat} (h : (k - 1) * b ≤ limit) (hn : n < k) : n * b ≤ limit :=
  Nat.le_trans (Nat.mul_le_mul_right b (Nat.le_sub_one_of_lt hn)) h

theorem sum_toNanos_backoff {base : Span} (h : (k - 1) * base.toNanos ≤ Span.longest.toNanos) :
    ((List.range' 1 (k - 1)).map fun n ↦ (backoff n base).toNanos).sum =
      base.toNanos * k * (k - 1) / 2 :=
  sum_multiples fun n hn ↦ by rw [toNanos_backoff, Nat.min_eq_left (mul_le_of_lt h hn)]

theorem sum_wait (h : (k - 1) * (p.baseDelayMs * Span.nanosPerMilli) ≤ Span.longest.toNanos) :
    ((List.range' 1 (k - 1)).map p.wait).sum = p.baseDelayMs * k * (k - 1) / 2 :=
  sum_multiples fun _ hn ↦ backoffMillis_eq_of_le (mul_le_of_lt h hn)

theorem Span.toNanos_longest : Span.longest.toNanos = (2 ^ 64 - 1) * 10 ^ 9 + 999999999 := by
  decide

/-- The backoff after any number of attempts is the product, cut off at the longest span, in
well-formed seconds and nanoseconds; it grows with the number and with the base, and its computation
in words comes to the same. Where none is cut off, the backoffs after the attempts before the `k`-th
are `base * k * (k - 1) / 2` in all. So long are the waits of every run that makes `k` attempts,
whatever is attempted: between one attempt and the next there is a wait, which is the backoff by the
number of the one. -/
theorem waits_exact_up_to_longest :
    (∀ (attempt : Nat) (base : Span),
      (backoff attempt base).toNanos =
          min (attempt * (base.secs * 10 ^ 9 + base.nanos)) ((2 ^ 64 - 1) * 10 ^ 9 + 999999999) ∧
        (backoff attempt base).WellFormed) ∧
    (∀ (attempt attempt' : Nat) (base base' : Span), base.WellFormed → base'.WellFormed →
      attempt ≤ attempt' → base ≤ base' → backoff attempt base ≤ backoff attempt' base') ∧
    (∀ (attempt : Nat) (base : Span), base.WellFormed → attempt ≤ Word.max32 →
      backoff attempt base = (base.times? attempt).getD .longest) ∧
    (∀ (k : Nat) (base : Span), (k - 1) * base.toNanos ≤ Span.longest.toNanos →
      ((List.range' 1 (k - 1)).map fun n ↦ (backoff n base).toNanos).sum =
        base.toNanos * k * (k - 1) / 2) ∧
    ∀ (σ α : Type) (p : RetryPolicy) (deadline : Deadline) (op : Activity σ (Except Rpc.Error α))
      (onRetry : Nat → Rpc.Error → Time → σ → σ) (start : Time) (s : σ),
      ∃ finish w outcome,
        (p.run deadline op onRetry).run start s = (finish, w.state, outcome) ∧
        (p.run deadline (Watched.attempt op) (Watched.retried onRetry)).run start { state := s } =
          (finish, w, outcome) ∧
        let k := w.begun.length
        w.paused.length = k - 1 ∧
        w.waits = (List.range' 1 (k - 1)).map (fun n ↦ backoffMillis n p.baseDelayMs) ∧
        ((k - 1) * (p.baseDelayMs * Span.nanosPerMilli) ≤ Span.longest.toNanos →
          w.waits.sum = p.baseDelayMs * k * (k - 1) / 2) := by
  refine ⟨fun attempt base ↦ ⟨?_, wellFormed_backoff attempt base⟩,
    fun _ _ _ _ hbase hbase' ↦ backoff_mono hbase hbase', fun _ _ ↦ backoff_eq_times,
    fun _ _ ↦ sum_toNanos_backoff, fun σ α p deadline op onRetry start s ↦ ?_⟩
  · rw [toNanos_backoff, Span.toNanos_longest]
    rfl
  · obtain ⟨finish, s', begun, paused, outcome, hpaced, hrun, hwatched⟩ :=
      run_watched p deadline op onRetry (p.maxAttempts - 1) 0 start { state := s }
    have hwaits : Watched.waits ⟨s', begun, paused⟩ =
        (List.range' 1 (begun.length - 1)).map p.wait := hpaced.waits_eq
    refine ⟨finish, ⟨s', begun, paused⟩, outcome, hrun, hwatched, hpaced.length_paused, hwaits,
      fun hlimit ↦ ?_⟩
    rw [hwaits]
    exact sum_wait hlimit

/-- Three of four attempts fail after 50 ms each, and the waits between them are 600 ms. The third
multiple of a third of the longest span is just not cut off. -/
theorem waits_of_four_attempts :
    let almost : Span := ⟨0, 999999999⟩
    let third : Span := ⟨6148914691236517205, 333333333⟩
    let busy : Rpc.Error := ⟨.unavailable, "busy"⟩
    let op : Activity Nat (Except Rpc.Error Unit) := .act (fun _ n ↦ n + 1) fun _ n ↦
      (Activity.sleep 50).bind fun _ ↦ .done (if n < 3 then .error busy else .ok ())
    let w : Watched Nat := ⟨4, [0, 150, 400, 750], [50, 200, 450]⟩
    (almost.WellFormed ∧ Span.WellFormed ⟨1, 0⟩ ∧ 2 ≤ 3 ∧ almost ≤ ⟨1, 0⟩ ∧
        backoff 2 almost ≤ backoff 3 ⟨1, 0⟩) ∧
      (Span.longest.WellFormed ∧ Word.max32 ≤ Word.max32 ∧
        backoff Word.max32 .longest = (Span.longest.times? Word.max32).getD .longest) ∧
      ((4 - 1) * third.toNanos ≤ Span.longest.toNanos ∧
        ((List.range' 1 (4 - 1)).map fun n ↦ (backoff n third).toNanos).sum =
          third.toNanos * 4 * (4 - 1) / 2) ∧
      ((⟨5, 100⟩ : RetryPolicy).run ⟨2000⟩ (Watched.attempt op)
          (Watched.retried fun _ _ _ n ↦ n)).run 0 { state := 0 } = (800, w, .done (.ok ())) ∧
      (4 - 1) * (100 * Span.nanosPerMilli) ≤ Span.longest.toNanos ∧
      w.waits.sum = 100 * 4 * (4 - 1) / 2 := by
  intro almost third busy op w
  have halmost : almost.WellFormed := ⟨by decide, by decide⟩
  have hsecond : Span.WellFormed ⟨1, 0⟩ := ⟨by decide, by decide⟩
  have hle : almost ≤ ⟨1, 0⟩ := .inl (by decide)
  have hrun : ((⟨5, 100⟩ : RetryPolicy).run ⟨2000⟩ (Watched.attempt op)
      (Watched.retried fun _ _ _ n ↦ n)).run 0 { state := 0 } = (800, w, .done (.ok ())) := by cbv
  obtain ⟨-, hmono, hwords, hsum, htotal⟩ := waits_exact_up_to_longest
  obtain ⟨_, _, _, -, hwatched, -, -, hlimit⟩ :=
    htotal Nat Unit ⟨5, 100⟩ ⟨2000⟩ op (fun _ _ _ n ↦ n) 0 0
  cases hrun.symm.trans hwatched
  exact ⟨⟨halmost, hsecond, by decide, hle,
      hmono 2 3 almost ⟨1, 0⟩ halmost hsecond (by decide) hle⟩,
    ⟨Span.wellFormed_longest, Nat.le_refl _,
      hwords Word.max32 .longest Span.wellFormed_longest (Nat.le_refl _)⟩,
    ⟨by decide, hsum 4 third (by decide)⟩, hrun, by decide, hlimit (by decide)⟩

end RpcGateway.Calls
