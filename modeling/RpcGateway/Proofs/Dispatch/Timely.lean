import RpcGateway.Proofs.Activity.Timing
import RpcGateway.Proofs.Dispatch.Dispatches

/-!
# Calls on time

No attempt of a call begins at or past its deadline, and a call that begins by its deadline ends by
then. Neither depends on what the backends say and how long they take, on the breaker, or on what
others do to the registry.
-/

namespace RpcGateway.Calls

open Activity Json

/-! ## Attempts -/

namespace RetryPolicy

variable {σ α : Type} {p : RetryPolicy} {deadline : Deadline} {op : Activity σ (Except Rpc.Error α)}
  {onRetry : Nat → Rpc.Error → Time → σ → σ} {now : Time}

theorem alwaysFrom_afterWait {kind : Deed σ → Prop} {delay n : Nat} {word : Time → σ → σ}
    {next : Activity σ (Except RetryError α)} (hsame : ∀ instant s, kind ⟨instant, s, s⟩)
    (hword : ∀ s, kind ⟨now, s, word now s⟩) (hnext : ∀ woken, next.AlwaysFrom woken kind) :
    (afterWait deadline delay n word next).AlwaysFrom now kind := by
  refine .act (hsame now) fun s ↦ ?_
  split
  · exact Always.alwaysFrom (t := .panic) trivial now
  · exact .done _
  · exact .act hword fun s ↦ .wait hsame fun _ _ woken _ ↦ hnext woken

/-- A wait that is begun ends before the deadline. -/
theorem endsBy_afterWait {delay n : Nat} {word : Time → σ → σ}
    {next : Activity σ (Except RetryError α)} (hnow : now ≤ deadline.instant)
    (hnext : ∀ woken ≤ deadline.instant, next.EndsBy deadline.instant woken) :
    (afterWait deadline delay n word next).EndsBy deadline.instant now := by
  refine .act fun s ↦ ?_
  split
  · exact hnow
  · exact hnow
  · rename_i hends
    have hwoken := Nat.le_of_lt (Deadline.add_lt_instant hends)
    exact fun s ↦ hnext _ (Nat.max_le.mpr ⟨hnow, hwoken⟩)

/-- What holds of an operation that begins before the deadline holds of each of its attempts. -/
theorem alwaysFrom_attempts {kind : Deed σ → Prop}
    (hop : ∀ start < deadline.instant, op.AlwaysFrom start kind)
    (hsame : ∀ instant s, kind ⟨instant, s, s⟩)
    (hretry : ∀ n e instant s, kind ⟨instant, s, onRetry n e instant s⟩) (more made : Nat) :
    (p.attempts deadline op onRetry more made).AlwaysFrom now kind := by
  induction more using Nat.strongRecOn generalizing made now with
  | ind more ih =>
    unfold attempts
    refine .act (hsame now) fun s ↦ ?_
    by_cases hexpired : deadline.isExpired now = true
    · rw [if_pos hexpired]
      exact .done _
    rw [if_neg hexpired]
    have hbefore : now < deadline.instant := Nat.lt_of_not_le fun h ↦ hexpired (decide_eq_true h)
    refine ((hop now hbefore).within deadline.instant).bind fun got mid ↦ ?_
    cases got with
    | none => exact .done _
    | some result =>
      cases result with
      | ok a => exact .done _
      | error e =>
        dsimp only
        split
        · exact .done _
        cases more with
        | zero => exact .done _
        | succ more =>
          exact alwaysFrom_afterWait hsame (hretry _ _ mid) fun woken ↦
            ih more (Nat.lt_succ_self more) (made + 1)

/-- Attempts that begin by the deadline end by it, whatever is attempted. -/
theorem endsBy_attempts (hnow : now ≤ deadline.instant) (more made : Nat) :
    (p.attempts deadline op onRetry more made).EndsBy deadline.instant now := by
  induction more using Nat.strongRecOn generalizing made now with
  | ind more ih =>
    unfold attempts
    refine .act fun s ↦ ?_
    by_cases hexpired : deadline.isExpired now = true
    · rw [if_pos hexpired]
      exact hnow
    rw [if_neg hexpired]
    refine (endsBy_within op hnow).bind fun got mid hmid ↦ ?_
    cases got with
    | none => exact hmid
    | some result =>
      cases result with
      | ok a => exact hmid
      | error e =>
        dsimp only
        split
        · exact hmid
        cases more with
        | zero => exact hmid
        | succ more =>
          exact endsBy_afterWait hmid fun woken hwoken ↦
            ih more (Nat.lt_succ_self more) hwoken (made + 1)

end RetryPolicy

/-! ## Calls -/

/-- An attempt begins: a request is sent. -/
def Begins (d : Deed Registry) : Prop := d.after.calls ≠ d.before.calls

namespace Registry

variable {policy : RetryPolicy} {service : String} {deadline : Deadline} {request : Rpc.Request}
  {now : Time}

/-- An attempt sends its request when it begins, and nothing later. -/
theorem alwaysFrom_attempt {start : Time} {limit : Time} (h : start < limit) :
    (attempt service request).AlwaysFrom start fun d ↦ Begins d → d.instant < limit := by
  refine .act (fun _ _ ↦ h) fun r ↦ ?_
  split
  · exact ((always_quiet_reply _).mono fun d hquiet hbegins ↦
      absurd hquiet.calls hbegins).alwaysFrom start
  · exact .done _

theorem calls_acquire (service : String) (now : Time) (r : Registry) :
    (acquire service now r).2.calls = r.calls :=
  (onBreaker_acquire service now r).calls

theorem calls_retryAfterSecs (service : String) (now : Time) (r : Registry) :
    (retryAfterSecs service now r).2.calls = r.calls :=
  (onBreaker_retryAfterSecs service now r).calls

/-- However late it is when a call goes on, it makes no attempt at or past its deadline. -/
theorem alwaysFrom_call : (call policy service deadline request).AlwaysFrom now fun d ↦
    Begins d → d.instant < deadline.instant := by
  have hsame {limit : Time} (instant : Time) (r r' : Registry) (h : r'.calls = r.calls)
      (hbegins : Begins ⟨instant, r, r'⟩) : instant < limit := absurd h hbegins
  refine .act (fun r ↦ hsame now r r rfl) fun r ↦ ?_
  split
  · exact .done _
  refine .act (fun r ↦ hsame now r _ (calls_acquire service now r)) fun r ↦ ?_
  dsimp only [Activity.bind]
  split
  · rename_i p _
    refine AlwaysFrom.bind (AlwaysFrom.guarded ?_ ?_ ?_) fun result mid ↦ ?_
    · exact RetryPolicy.alwaysFrom_attempts (fun start h ↦ alwaysFrom_attempt h)
        (fun instant r ↦ hsame instant r r rfl)
        (fun n e instant r ↦ hsame instant r (countRetry service n e instant r) rfl) _ _
    · exact fun instant r ↦ hsame instant r r rfl
    · exact fun instant r r' h ↦ h
    · exact .act (fun r ↦ hsame mid r _ rfl) fun r ↦ .done _
  · exact .act (fun r ↦ hsame now r _ (calls_retryAfterSecs service now r)) fun r ↦ .done _

/-- A call that begins by its deadline ends by it. -/
theorem endsBy_call (hnow : now ≤ deadline.instant) :
    (call policy service deadline request).EndsBy deadline.instant now := by
  refine .act fun r ↦ ?_
  split
  · exact hnow
  refine .act fun r ↦ ?_
  dsimp only [Activity.bind]
  split
  · refine EndsBy.bind ?_ fun result mid hmid r ↦ hmid
    exact (RetryPolicy.endsBy_attempts hnow _ _).guarded
  · exact fun r ↦ hnow

end Registry

/-- If no call has a later deadline, no attempt begins at that instant or later. -/
theorem Dispatches.lt_of_begins {policy : RetryPolicy} {ds : List (Deed Registry)}
    {cs : List Dispatch} {limit : Time} (h : Dispatches policy ds cs)
    (hlimit : ∀ c ∈ cs, c.deadline.instant ≤ limit) : ∀ d ∈ ds, Begins d → d.instant < limit := by
  induction h with
  | nil => nofun
  | idle hidle _ ih =>
    refine List.forall_mem_cons.mpr ⟨fun hbegins ↦ ?_, ih hlimit⟩
    exact absurd (congrArg Registry.calls hidle) hbegins
  | call _ goes _ ih =>
    rw [List.forall_mem_cons] at hlimit
    refine List.forall_mem_append.mpr ⟨fun d hd hbegins ↦ ?_, ih hlimit.2⟩
    exact Nat.lt_of_lt_of_le (Registry.alwaysFrom_call goes d hd hbegins) hlimit.1

end RpcGateway.Calls
