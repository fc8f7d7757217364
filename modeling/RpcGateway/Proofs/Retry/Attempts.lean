import RpcGateway.Proofs.Activity.History
import RpcGateway.Proofs.Retry.Backoff

/-!
# Attempts on the clock

A script says of each attempt how long it takes and what it comes to. What a run makes of a script
is described once, way out by way out: the deadline has passed, it cuts the attempt off, the attempt
ends the call, the attempts are used up, the clock cannot name the end of the next wait, that wait
would reach the deadline, or the loop goes on. All that holds of runs is an induction over this
description. Times are exact, and ties at the deadline fall as the loop decides them: what is
delivered at the deadline is in time, but nothing begins then.
-/

namespace RpcGateway.Calls

/-- How long an attempt takes, if it ever ends, and what it comes to. -/
structure Effort (α : Type) where
  takes : Option Nat
  result : Except Rpc.Error α

/-- The efforts of an operation by the number of the attempt, from one on. -/
abbrev Script (α : Type) := Nat → Effort α

/-- What is written down of a run: when each attempt was begun, and what `onRetry` was told. -/
structure Log where
  starts : List Time := []
  retries : List (Nat × Rpc.Error) := []
deriving DecidableEq

namespace Log

def started (now : Time) (l : Log) : Log := { l with starts := l.starts ++ [now] }

def retried (n : Nat) (e : Rpc.Error) (_ : Time) (l : Log) : Log :=
  { l with retries := l.retries ++ [(n, e)] }

/-- The log with what has been written down later. -/
def followedBy (l later : Log) : Log := ⟨l.starts ++ later.starts, l.retries ++ later.retries⟩

theorem followedBy_empty (l : Log) : l.followedBy {} = l := by
  simp [followedBy]

theorem followedBy_start (now : Time) (l : Log) : l.followedBy ⟨[now], []⟩ = l.started now := by
  simp [followedBy, started]

end Log

variable {α : Type} {p : RetryPolicy} {deadline : Deadline} {script : Script α}
  {more made n : Nat} {now t finish : Time} {log : Log} {e : Rpc.Error} {a : α}
  {outcome : Outcome (Except RetryError α)}

namespace Script

/-- One attempt, which is written down. -/
def attempt (script : Script α) : Activity Log (Except Rpc.Error α) :=
  .act Log.started fun _ l ↦
    let effort := script (l.starts.length + 1)
    match effort.takes with
    | some ms => (Activity.sleep ms).bind fun _ ↦ .done effort.result
    | none => .hang

/-- What an attempt that is begun at an instant delivers by the deadline, and when. -/
def delivered? (script : Script α) (deadline : Deadline) (n : Nat) (start : Time) :
    Option (Time × Except Rpc.Error α) :=
  match (script n).takes with
  | some ms => if start + ms ≤ deadline.instant then some (start + ms, (script n).result) else none
  | none => none

/-- An attempt under a deadline delivers in time or lasts until the deadline. -/
theorem run_bound_attempt (h : now < deadline.instant) (l : Log) :
    (deadline.bound script.attempt).run now l =
      match script.delivered? deadline (l.starts.length + 1) now with
      | some (t, r) => (t, l.started now, .done (some r))
      | none => (deadline.instant, l.started now, .done none) := by
  unfold delivered?
  simp only [Deadline.bound, Activity.within, attempt, Activity.withinAfter, Activity.run]
  cases htakes : (script (l.starts.length + 1)).takes with
  | none =>
    simp only [Activity.hang, Activity.withinAfter, Activity.run, Activity.keep]
    rw [Nat.max_eq_right (Nat.le_of_lt h)]
  | some ms =>
    simp only [Activity.sleep, Activity.sleepUntil, Activity.bind, Activity.withinAfter,
      Activity.run, Activity.keep]
    by_cases hin : now + ms ≤ deadline.instant
    · rw [if_pos hin]
      have hmax : max now (now + ms) = now + ms := Nat.max_eq_right (Nat.le_add_right _ _)
      split
      · simp only [Activity.run, hmax]
      · rename_i hnot
        rw [if_pos (Nat.le_antisymm hin (Nat.le_of_not_lt hnot))]
        simp only [Activity.run, hmax]
    · rw [if_neg hin, if_neg fun hlt ↦ hin (Nat.le_of_lt hlt),
        if_neg fun heq ↦ hin (Nat.le_of_eq heq)]
      simp only [Activity.run, Activity.keep]
      rw [Nat.max_eq_right (Nat.le_of_lt h)]

end Script

/-- The wait after the given number of attempts. -/
def RetryPolicy.wait (p : RetryPolicy) (n : Nat) : Nat := backoffMillis n p.baseDelayMs

/-- How a run ends with attempt `n`, begun at `now`, when `more` would be left. -/
inductive Stops (p : RetryPolicy) (deadline : Deadline) (script : Script α) :
    Nat → Nat → Time → Time → Outcome (Except RetryError α) → Prop where
  | cut {more n : Nat} {now : Time} (delivered : script.delivered? deadline n now = none) :
      Stops p deadline script more n now deadline.instant (.done (.error (.deadlineExceeded n)))
  | ok {more n : Nat} {now t : Time} {a : α}
      (delivered : script.delivered? deadline n now = some (t, .ok a)) :
      Stops p deadline script more n now t (.done (.ok a))
  | terminal {more n : Nat} {now t : Time} {e : Rpc.Error}
      (delivered : script.delivered? deadline n now = some (t, .error e))
      (final : e.retryable = false) :
      Stops p deadline script more n now t (.done (.error (.terminal e)))
  | exhausted {n : Nat} {now t : Time} {e : Rpc.Error}
      (delivered : script.delivered? deadline n now = some (t, .error e))
      (retryable : e.retryable = true) :
      Stops p deadline script 0 n now t (.done (.error (.exhausted n e)))
  | beyond {more n : Nat} {now t : Time} {e : Rpc.Error}
      (delivered : script.delivered? deadline n now = some (t, .error e))
      (retryable : e.retryable = true) (unnamed : clockEnd ≤ t + p.wait n) :
      Stops p deadline script (more + 1) n now t .panicked
  | short {more n : Nat} {now t : Time} {e : Rpc.Error}
      (delivered : script.delivered? deadline n now = some (t, .error e))
      (retryable : e.retryable = true) (named : t + p.wait n < clockEnd)
      (reaches : deadline.instant ≤ t + p.wait n) :
      Stops p deadline script (more + 1) n now t (.done (.error (.deadlineExceeded n)))

/-- What a run makes of a script from `now` on, when `made` attempts have been made and `more + 1`
are left: what is written down, when it ends and how. -/
inductive Tries (p : RetryPolicy) (deadline : Deadline) (script : Script α) :
    Nat → Nat → Time → Log → Time → Outcome (Except RetryError α) → Prop where
  | late {more made : Nat} {now : Time} (passed : deadline.instant ≤ now) :
      Tries p deadline script more made now {} now (.done (.error (.deadlineExceeded made)))
  | last {more made : Nat} {now finish : Time} {outcome : Outcome (Except RetryError α)}
      (before : now < deadline.instant)
      (stops : Stops p deadline script more (made + 1) now finish outcome) :
      Tries p deadline script more made now ⟨[now], []⟩ finish outcome
  | again {more made : Nat} {now t finish : Time} {e : Rpc.Error} {later : Log}
      {outcome : Outcome (Except RetryError α)} (before : now < deadline.instant)
      (delivered : script.delivered? deadline (made + 1) now = some (t, .error e))
      (retryable : e.retryable = true) (named : t + p.wait (made + 1) < clockEnd)
      (ends : t + p.wait (made + 1) < deadline.instant)
      (rest : Tries p deadline script more (made + 1) (t + p.wait (made + 1)) later finish
        outcome) :
      Tries p deadline script (more + 1) made now
        ⟨now :: later.starts, (made + 1, e) :: later.retries⟩ finish outcome

/-! ## One round after the other -/

section

variable {σ : Type}

/-- What the attempt leads to by which `made` have been made, when it has come out at `t`. -/
def RetryPolicy.afterwards (p : RetryPolicy) (deadline : Deadline)
    (op : Activity σ (Except Rpc.Error α)) (onRetry : Nat → Rpc.Error → Time → σ → σ)
    (more made : Nat) (t : Time) (s : σ) :
    Outcome (Option (Except Rpc.Error α)) → Time × σ × Outcome (Except RetryError α)
  | .panicked => (t, s, .panicked)
  | .stuck => (t, s, .stuck)
  | .done none => (t, s, .done (.error (.deadlineExceeded made)))
  | .done (some (.ok a)) => (t, s, .done (.ok a))
  | .done (some (.error e)) =>
    if e.retryable then
      match more with
      | 0 => (t, s, .done (.error (.exhausted made e)))
      | more + 1 =>
        if clockEnd ≤ t + p.wait made then (t, s, .panicked)
        else if deadline.instant ≤ t + p.wait made then
          (t, s, .done (.error (.deadlineExceeded made)))
        else (p.attempts deadline op onRetry more made).run (t + p.wait made) (onRetry made e t s)
    else (t, s, .done (.error (.terminal e)))

/-- A wait is over, unless the clock cannot name its end or it would reach the deadline. -/
theorem run_afterWait (deadline : Deadline) (delay made : Nat) (word : Time → σ → σ)
    (next : Activity σ (Except RetryError α)) (t : Time) (s : σ) :
    (RetryPolicy.afterWait deadline delay made word next).run t s =
      if clockEnd ≤ t + delay then (t, s, .panicked)
      else if deadline.instant ≤ t + delay then (t, s, .done (.error (.deadlineExceeded made)))
      else next.run (t + delay) (word t s) := by
  unfold RetryPolicy.afterWait
  simp only [Activity.run, Activity.keep, Deadline.wouldExpireAfter?_eq]
  by_cases hunnamed : clockEnd ≤ t + delay
  · rw [if_pos hunnamed, if_pos hunnamed]
    rfl
  rw [if_neg hunnamed, if_neg hunnamed]
  by_cases hreaches : deadline.instant ≤ t + delay
  · rw [if_pos hreaches, decide_eq_true hreaches]
    rfl
  · rw [if_neg hreaches, decide_eq_false hreaches]
    simp only [Activity.run, Activity.sleepUntil, Activity.bind,
      Nat.max_eq_right (Nat.le_add_right t delay)]

/-- A run of any operation, one round of it. -/
theorem run_attempts_eq (p : RetryPolicy) (deadline : Deadline)
    (op : Activity σ (Except Rpc.Error α)) (onRetry : Nat → Rpc.Error → Time → σ → σ)
    (more made : Nat) (now : Time) (s : σ) :
    (p.attempts deadline op onRetry more made).run now s =
      if deadline.instant ≤ now then (now, s, .done (.error (.deadlineExceeded made)))
      else match (deadline.bound op).run now s with
        | (t, s', outcome) => p.afterwards deadline op onRetry more (made + 1) t s' outcome := by
  unfold RetryPolicy.attempts
  simp only [Activity.run, Activity.keep, Deadline.isExpired]
  by_cases hpassed : deadline.instant ≤ now
  · simp only [hpassed, decide_true, if_true, Activity.run]
  · simp only [hpassed, decide_false, if_false, Bool.false_eq_true]
    rw [Activity.run_bind]
    obtain ⟨t, s', outcome⟩ := (deadline.bound op).run now s
    cases outcome with
    | panicked => rfl
    | stuck => rfl
    | done got =>
      cases got with
      | none => rfl
      | some delivered =>
        cases delivered with
        | ok a => rfl
        | error e =>
          simp only [RetryPolicy.afterwards]
          cases hretryable : e.retryable with
          | false => rfl
          | true =>
            cases more with
            | zero => rfl
            | succ more =>
              simp only [Bool.not_true, Bool.false_eq_true, if_false, if_true]
              rw [run_afterWait, ← RetryPolicy.wait]

end

/-- The run of a script is as described. -/
theorem run_attempts (p : RetryPolicy) (deadline : Deadline) (script : Script α) (more made : Nat)
    (now : Time) (l : Log) (hl : l.starts.length = made) :
    ∃ later finish outcome, Tries p deadline script more made now later finish outcome ∧
      (p.attempts deadline script.attempt Log.retried more made).run now l =
        (finish, l.followedBy later, outcome) := by
  induction more using Nat.strongRecOn generalizing made now l with
  | ind more ih =>
    rw [run_attempts_eq]
    by_cases hpassed : deadline.instant ≤ now
    · rw [if_pos hpassed]
      exact ⟨{}, now, _, .late hpassed, by rw [Log.followedBy_empty]⟩
    · have hbefore := Nat.lt_of_not_le hpassed
      rw [if_neg hpassed, Script.run_bound_attempt hbefore, hl]
      have hlast {finish : Time} {outcome : Outcome (Except RetryError α)}
          (hstops : Stops p deadline script more (made + 1) now finish outcome) :
          ∃ later finish' outcome', Tries p deadline script more made now later finish' outcome' ∧
            (finish, l.started now, outcome) = (finish', l.followedBy later, outcome') :=
        ⟨_, _, _, .last hbefore hstops, by rw [Log.followedBy_start]⟩
      cases hdelivered : script.delivered? deadline (made + 1) now with
      | none => exact hlast (.cut hdelivered)
      | some delivered =>
        obtain ⟨t, r⟩ := delivered
        cases r with
        | ok a => exact hlast (.ok hdelivered)
        | error e =>
          simp only [RetryPolicy.afterwards]
          by_cases hretryable : e.retryable = true
          · rw [if_pos hretryable]
            cases more with
            | zero => exact hlast (.exhausted hdelivered hretryable)
            | succ more =>
              by_cases hunnamed : clockEnd ≤ t + p.wait (made + 1)
              · simp only [hunnamed, if_true]
                exact hlast (.beyond hdelivered hretryable hunnamed)
              have hnamed := Nat.lt_of_not_le hunnamed
              simp only [hunnamed, if_false]
              by_cases hreaches : deadline.instant ≤ t + p.wait (made + 1)
              · simp only [if_pos hreaches]
                exact hlast (.short hdelivered hretryable hnamed hreaches)
              · have hnext : (Log.retried (made + 1) e t (l.started now)).starts.length =
                    made + 1 := by simp [Log.retried, Log.started, hl]
                obtain ⟨later, finish, outcome, hrest, hrun⟩ := ih more (Nat.lt_succ_self more)
                  (made + 1) (t + p.wait (made + 1)) _ hnext
                refine ⟨_, finish, outcome, .again hbefore hdelivered hretryable hnamed
                  (Nat.lt_of_not_le hreaches) hrest, (if_neg hreaches).trans (hrun.trans ?_)⟩
                simp [Log.retried, Log.started, Log.followedBy]
          · rw [if_neg hretryable]
            exact hlast (.terminal hdelivered (eq_false_of_ne_true hretryable))

/-! ## When attempts are begun -/

theorem Tries.starts_eq_nil_iff (h : Tries p deadline script more made now log finish outcome) :
    log.starts = [] ↔ deadline.instant ≤ now := by
  cases h with
  | late passed => exact iff_of_true rfl passed
  | last before => exact iff_of_false (List.cons_ne_nil _ _) (Nat.not_le_of_lt before)
  | again before => exact iff_of_false (List.cons_ne_nil _ _) (Nat.not_le_of_lt before)

theorem Tries.starts_ne_nil (h : Tries p deadline script more made now log finish outcome)
    (hbefore : now < deadline.instant) : log.starts ≠ [] :=
  fun hnil ↦ absurd (h.starts_eq_nil_iff.mp hnil) (Nat.not_le_of_lt hbefore)

/-- The first attempt is begun at once. -/
theorem Tries.first (h : Tries p deadline script more made now log finish outcome) {s : Time}
    (hs : log.starts[0]? = some s) : s = now := by
  cases h with
  | late => simp at hs
  | last => exact (Option.some.inj hs).symm
  | again => exact (Option.some.inj hs).symm

/-- What the last attempt has delivered, when `made` attempts have been made before those of the
log. -/
def Log.last? (log : Log) (script : Script α) (deadline : Deadline) (made : Nat) :
    Option (Time × Except Rpc.Error α) :=
  log.starts.getLast?.bind (script.delivered? deadline (made + log.starts.length))

theorem Log.last?_cons {later : Log} (h : later.starts ≠ []) (retries : List (Nat × Rpc.Error)) :
    Log.last? ⟨now :: later.starts, retries⟩ script deadline made =
      later.last? script deadline (made + 1) := by
  unfold Log.last?
  rw [List.length_cons, List.getLast?_cons, List.getLast?_eq_some_getLast h, Option.getD_some,
    Nat.add_assoc, Nat.add_comm 1]

/-- What `n` attempts come to by what the last one has delivered, the attempts being used up or not.
-/
def verdict (p : RetryPolicy) (n : Nat) (spent : Bool) :
    Option (Time × Except Rpc.Error α) → Outcome (Except RetryError α)
  | none => .done (.error (.deadlineExceeded n))
  | some (_, .ok a) => .done (.ok a)
  | some (t, .error e) =>
    if e.retryable then
      if spent then .done (.error (.exhausted n e))
      else if clockEnd ≤ t + p.wait n then .panicked
      else .done (.error (.deadlineExceeded n))
    else .done (.error (.terminal e))

variable {spent : Bool} {delivered : Option (Time × Except Rpc.Error α)}

theorem verdict_ne_stuck : verdict p n spent delivered ≠ .stuck := by
  unfold verdict
  generalize clockEnd = last
  grind

theorem Stops.outcome_eq (h : Stops p deadline script more n now finish outcome) :
    outcome = verdict p n (more = 0) (script.delivered? deadline n now) := by
  cases h with
  | cut delivered => rw [delivered, verdict]
  | ok delivered => rw [delivered, verdict]
  | terminal delivered final => simp [delivered, verdict, final]
  | exhausted delivered retryable => simp [delivered, verdict, retryable]
  | beyond delivered retryable unnamed => simp [delivered, verdict, retryable, unnamed]
  | short delivered retryable named =>
    simp [delivered, verdict, retryable, Nat.not_le_of_lt named]

/-- How a run ends is decided by how many attempts there were and what the last one delivered. -/
theorem Tries.outcome_eq (h : Tries p deadline script more made now log finish outcome) :
    outcome = verdict p (made + log.starts.length) (log.starts.length = more + 1)
      (log.last? script deadline made) := by
  induction h with
  | late => rfl
  | last before stops => simpa [Log.last?, eq_comm] using stops.outcome_eq
  | again before delivered retryable named ends rest ih =>
    rw [Log.last?_cons (rest.starts_ne_nil ends), List.length_cons, ih, Nat.add_right_comm,
      Nat.add_assoc]
    simp only [Nat.add_right_cancel_iff]

theorem Tries.outcome_ne_stuck (h : Tries p deadline script more made now log finish outcome) :
    outcome ≠ .stuck := by
  rw [h.outcome_eq]
  exact verdict_ne_stuck

/-- A run that has attempts left after a retryable error, and whose clock goes on, ends only because
the next wait would reach the deadline. -/
theorem Tries.reaches (h : Tries p deadline script more made now log finish outcome)
    (hlast : log.last? script deadline made = some (t, .error e)) (hretryable : e.retryable = true)
    (hleft : log.starts.length < more + 1)
    (hnamed : t + p.wait (made + log.starts.length) < clockEnd) :
    deadline.instant ≤ t + p.wait (made + log.starts.length) := by
  induction h with
  | late => simp [Log.last?] at hlast
  | @last more made now finish outcome before stops =>
    have hdelivered : script.delivered? deadline (made + 1) now = some (t, .error e) := hlast
    cases stops with
    | cut delivered => simp [delivered] at hdelivered
    | ok delivered => simp [delivered] at hdelivered
    | terminal delivered final => simp_all
    | exhausted => simp at hleft
    | beyond delivered _ unnamed =>
      rw [delivered] at hdelivered
      cases hdelivered
      exact absurd hnamed (Nat.not_lt.mpr unnamed)
    | short delivered _ _ reaches =>
      rw [delivered] at hdelivered
      cases hdelivered
      exact reaches
  | @again more made now t' finish e' later outcome _ _ _ _ ends rest ih =>
    have hcount : made + (later.starts.length + 1) = made + 1 + later.starts.length := by omega
    rw [Log.last?_cons (rest.starts_ne_nil ends)] at hlast
    rw [List.length_cons, hcount] at hnamed ⊢
    exact ih hlast (Nat.lt_of_succ_lt_succ hleft) hnamed

/-! ## Runs -/

/-- The third attempt ends at the deadline with a retryable error, and is in time. -/
example :
    let busy : Rpc.Error := ⟨.unavailable, "busy"⟩
    let script : Script Unit := fun n ↦ ⟨some 50, if n ≤ 3 then .error busy else .ok ()⟩
    ((⟨3, 100⟩ : RetryPolicy).run ⟨450⟩ script.attempt Log.retried).run 0 {} =
      (450, ⟨[0, 150, 400], [(1, busy), (2, busy)]⟩, .done (.error (.exhausted 3 busy))) := by
  cbv

/-- Over the longest base in whole seconds the clock cannot name the end of the first wait. -/
example :
    let script : Script Unit := fun _ ↦ ⟨some 50, .error ⟨.unavailable, "busy"⟩⟩
    ((⟨3, Word.max64 * 1000⟩ : RetryPolicy).run ⟨450⟩ script.attempt Log.retried).run 0 {} =
      (50, ⟨[0], []⟩, .panicked) := by
  cbv

end RpcGateway.Calls
