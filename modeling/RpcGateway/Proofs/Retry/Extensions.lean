import RpcGateway.Proofs.Retry.Attempts

/-!
# A later deadline

The same script is run under two deadlines. What an attempt delivers by the earlier one it also
delivers by the later one, at the same instant, so both runs do the same until the earlier deadline
decides something: it has passed, it cuts an attempt off, or the next wait would reach it. Then the
run under it ends and the other one may go on. So the run under the earlier deadline is a beginning
of the other, and all of it unless it has run out of time.
-/

namespace RpcGateway.Calls

variable {α : Type} {p : RetryPolicy} {deadline extended : Deadline} {script : Script α}
  {more made n : Nat} {now t finish finish' : Time} {log log' : Log} {e : Rpc.Error}
  {outcome outcome' : Outcome (Except RetryError α)}

/-- What is delivered by a deadline is delivered by a later one. -/
theorem Script.delivered_mono (h : deadline.instant ≤ extended.instant) {r : Except Rpc.Error α}
    (hdelivered : script.delivered? deadline n now = some (t, r)) :
    script.delivered? extended n now = some (t, r) := by
  unfold delivered? at hdelivered ⊢
  split at hdelivered
  · split at hdelivered
    · rename_i hle
      rw [if_pos (Nat.le_trans hle h), hdelivered]
    · cases hdelivered
  · cases hdelivered

/-- Whether a run has ended because of its deadline. -/
def RanOut (outcome : Outcome (Except RetryError α)) : Prop :=
  ∃ n, outcome = .done (.error (.deadlineExceeded n))

/-- An attempt that ends a run ends it when it delivers, or else at the deadline. -/
theorem Stops.finish_eq (h : Stops p deadline script more n now finish outcome) :
    finish = ((script.delivered? deadline n now).map Prod.fst).getD deadline.instant := by
  cases h with
  | cut delivered => rw [delivered]; rfl
  | ok delivered => rw [delivered]; rfl
  | terminal delivered => rw [delivered]; rfl
  | exhausted delivered => rw [delivered]; rfl
  | beyond delivered => rw [delivered]; rfl
  | short delivered => rw [delivered]; rfl

theorem Stops.unique (h : Stops p deadline script more n now finish outcome)
    (h' : Stops p deadline script more n now finish' outcome') :
    finish' = finish ∧ outcome' = outcome :=
  ⟨h'.finish_eq.trans h.finish_eq.symm, h'.outcome_eq.trans h.outcome_eq.symm⟩

/-- An attempt does not end a run that goes on after it. -/
theorem Stops.not_of_again (delivered : script.delivered? deadline n now = some (t, .error e))
    (retryable : e.retryable = true) (named : t + p.wait n < clockEnd)
    (ends : t + p.wait n < deadline.instant) :
    ¬ Stops p deadline script (more + 1) n now finish outcome := by
  intro h
  cases h with
  | cut delivered' => simp [delivered] at delivered'
  | ok delivered' => simp [delivered] at delivered'
  | terminal delivered' final =>
    cases delivered.symm.trans delivered'
    exact absurd retryable (by simp [final])
  | beyond delivered' _ unnamed =>
    cases delivered.symm.trans delivered'
    exact Nat.not_le_of_lt named unnamed
  | short delivered' _ _ reaches =>
    cases delivered.symm.trans delivered'
    exact Nat.not_le_of_lt ends reaches

/-- An attempt that ends a run, and not because of the deadline, ends it under a later one, too. -/
theorem Stops.of_le (h : Stops p deadline script more n now finish outcome)
    (hle : deadline.instant ≤ extended.instant) (hends : ¬ RanOut outcome) :
    Stops p extended script more n now finish outcome := by
  cases h with
  | cut => exact absurd ⟨n, rfl⟩ hends
  | ok delivered => exact .ok (Script.delivered_mono hle delivered)
  | terminal delivered final => exact .terminal (Script.delivered_mono hle delivered) final
  | exhausted delivered retryable =>
    exact .exhausted (Script.delivered_mono hle delivered) retryable
  | beyond delivered retryable unnamed =>
    exact .beyond (Script.delivered_mono hle delivered) retryable unnamed
  | short => exact absurd ⟨n, rfl⟩ hends

/-- What is written down under a deadline is a beginning of what is written down under a later one,
and the runs are the same if the first has not run out of time. -/
theorem Tries.isPrefix (h : Tries p deadline script more made now log finish outcome)
    (h' : Tries p extended script more made now log' finish' outcome')
    (hle : deadline.instant ≤ extended.instant) :
    log.starts <+: log'.starts ∧ log.retries <+: log'.retries ∧
      (¬ RanOut outcome → log' = log ∧ finish' = finish ∧ outcome' = outcome) := by
  induction h generalizing log' with
  | @late more made now passed =>
    exact ⟨List.nil_prefix, List.nil_prefix, fun hends ↦ absurd ⟨made, rfl⟩ hends⟩
  | last before stops =>
    cases h' with
    | late passed => exact absurd passed (Nat.not_le_of_lt (Nat.lt_of_lt_of_le before hle))
    | last _ stops' =>
      refine ⟨List.prefix_rfl, List.prefix_rfl, fun hends ↦ ⟨rfl, ?_⟩⟩
      exact (stops.of_le hle hends).unique stops'
    | again _ delivered retryable named ends =>
      refine ⟨List.prefix_append [_] _, List.nil_prefix, fun hends ↦ ?_⟩
      exact absurd (stops.of_le hle hends) (Stops.not_of_again delivered retryable named ends)
  | again before delivered retryable named ends rest ih =>
    have hdelivered := Script.delivered_mono hle delivered
    have hlater := Nat.lt_of_lt_of_le ends hle
    cases h' with
    | late passed => exact absurd passed (Nat.not_le_of_lt (Nat.lt_of_lt_of_le before hle))
    | last _ stops' => exact absurd stops' (Stops.not_of_again hdelivered retryable named hlater)
    | again _ delivered' _ _ _ rest' =>
      cases hdelivered.symm.trans delivered'
      obtain ⟨hstarts, hretries, hsame⟩ := ih rest'
      refine ⟨List.cons_prefix_cons.mpr ⟨rfl, hstarts⟩, List.cons_prefix_cons.mpr ⟨rfl, hretries⟩,
        fun hends ↦ ?_⟩
      obtain ⟨rfl, hend⟩ := hsame hends
      exact ⟨rfl, hend⟩

/-- The same script under two deadlines: the attempts under the earlier one begin when the first of
those under the later one do, `onRetry` is told the first of what it is told under the later one,
and unless the run under the earlier one has ended because of it, the other one makes the same
attempts and comes out in the same way at the same instant, also if that is a breakdown. Both come
out in some way. -/
theorem more_time_never_hurts (p : RetryPolicy) (script : Script α) (start : Time)
    {deadline extended : Deadline} (h : deadline.instant ≤ extended.instant) :
    ∃ finish log outcome finish' log' outcome',
      (p.run deadline script.attempt Log.retried).run start {} = (finish, log, outcome) ∧
        (p.run extended script.attempt Log.retried).run start {} = (finish', log', outcome') ∧
        log.starts <+: log'.starts ∧ log.retries <+: log'.retries ∧
        ((∀ n, outcome ≠ .done (.error (.deadlineExceeded n))) →
          log' = log ∧ finish' = finish ∧ outcome' = outcome) ∧
        outcome ≠ .stuck ∧ outcome' ≠ .stuck := by
  obtain ⟨log, finish, outcome, htries, hrun⟩ :=
    run_attempts p deadline script (p.maxAttempts - 1) 0 start {} rfl
  obtain ⟨log', finish', outcome', htries', hrun'⟩ :=
    run_attempts p extended script (p.maxAttempts - 1) 0 start {} rfl
  obtain ⟨hstarts, hretries, hsame⟩ := htries.isPrefix htries' h
  exact ⟨finish, log, outcome, finish', log', outcome', hrun, hrun', hstarts, hretries,
    fun hends ↦ hsame fun ⟨n, hn⟩ ↦ hends n hn, htries.outcome_ne_stuck, htries'.outcome_ne_stuck⟩

/-- By the earlier deadline the second wait would just reach it. By the later one the third attempt
delivers at the deadline, and still more time changes nothing. -/
theorem third_attempt_under_later_deadline :
    let busy : Rpc.Error := ⟨.unavailable, "busy"⟩
    let script : Script Unit := fun n ↦ ⟨some 50, if n ≤ 2 then .error busy else .ok ()⟩
    let run := fun deadline ↦
      ((⟨3, 100⟩ : RetryPolicy).run ⟨deadline⟩ script.attempt Log.retried).run 0 {}
    400 ≤ 450 ∧ 450 ≤ 1000 ∧
      run 400 = (200, ⟨[0, 150], [(1, busy)]⟩, .done (.error (.deadlineExceeded 2))) ∧
      run 450 = (450, ⟨[0, 150, 400], [(1, busy), (2, busy)]⟩, .done (.ok ())) ∧
      [0, 150] <+: [0, 150, 400] ∧ [(1, busy)] <+: [(1, busy), (2, busy)] ∧
      run 1000 = run 450 := by
  intro busy script run
  have hshort : run 400 =
      (200, ⟨[0, 150], [(1, busy)]⟩, .done (.error (.deadlineExceeded 2))) := by
    unfold run
    cbv
  have hlong : run 450 =
      (450, ⟨[0, 150, 400], [(1, busy), (2, busy)]⟩, .done (.ok ())) := by
    unfold run
    cbv
  obtain ⟨_, _, _, _, _, _, hearlier, hlater, hstarts, hretries, -⟩ :=
    more_time_never_hurts ⟨3, 100⟩ script 0 (show (⟨400⟩ : Deadline).instant ≤ 450 by decide)
  obtain ⟨_, _, _, _, _, _, hearlier', hlater', -, -, hsame, -⟩ :=
    more_time_never_hurts ⟨3, 100⟩ script 0 (show (⟨450⟩ : Deadline).instant ≤ 1000 by decide)
  cases hshort.symm.trans hearlier
  cases hlong.symm.trans hlater
  cases hlong.symm.trans hearlier'
  obtain ⟨rfl, rfl, rfl⟩ := hsame fun n hn ↦ by cases hn
  exact ⟨by decide, by decide, hshort, hlong, hstarts, hretries, hlater'.trans hlong.symm⟩

end RpcGateway.Calls
