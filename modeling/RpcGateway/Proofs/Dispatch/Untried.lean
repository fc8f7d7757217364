import RpcGateway.Proofs.Breaker.Readings
import RpcGateway.Proofs.Dispatch.Outcomes

/-!
# Calls that send nothing

A call that sends nothing to its backend has not been let in, or its deadline had passed when it
came. In the first case no failure is counted: what a breaker shows later is what it would show
without the call. In the second case the call has failed like any other call that the breaker has
let in, and is counted as one failure.
-/

namespace RpcGateway.Calls.Registry

open Json

variable {r : Registry} {service name : String} {request : Rpc.Request} {deadline : Deadline}
  {policy : RetryPolicy} {p : Permit} {now t : Time} {ds : List (Deed Registry)}
  {d : Deed Registry} {more made : Nat}

/-! ## Changes that do not show -/

/-- A change after which every read of a breaker shows what it would have shown before. -/
def Unseen (d : Deed Registry) : Prop :=
  ∀ name t, d.instant ≤ t →
    (d.after.breaker? name).map (·.reading t) = (d.before.breaker? name).map (·.reading t)

theorem Unseen.same (now : Time) (r : Registry) : Unseen ⟨now, r, r⟩ := fun _ _ _ ↦ rfl

theorem Unseen.of_breaker {r' : Registry} {change : Breaker → Breaker}
    (hothers : SparesOthers service ⟨now, r, r'⟩)
    (hself : r'.breaker? service = (r.breaker? service).map change)
    (hsame : ∀ b t, r.breaker? service = some b → now ≤ t → (change b).reading t = b.reading t) :
    Unseen ⟨now, r, r'⟩ := by
  intro name t hle
  by_cases hname : name = service
  · subst hname
    rw [hself]
    cases hb : r.breaker? name with
    | none => rfl
    | some b => exact congrArg some (hsame b t hb hle)
  · have hspared := hothers name hname
    unfold breaker?
    rw [hspared]

theorem unseen_acquire (hrefused : (acquire service now r).1 = none) :
    Unseen ⟨now, r, (acquire service now r).2⟩ := by
  apply Unseen.of_breaker (onBreaker_acquire service now r).others (breaker?_acquire_self ..)
  intro b t hb hle
  rw [acquire_fst hb] at hrefused
  rw [Breaker.acquire_of_refused hrefused, b.reading_refresh hle]

theorem unseen_retryAfterSecs (service : String) (now : Time) (r : Registry) :
    Unseen ⟨now, r, (retryAfterSecs service now r).2⟩ := by
  apply Unseen.of_breaker (onBreaker_retryAfterSecs service now r).others
    (breaker?_retryAfterSecs_self ..)
  intro b t _ hle
  exact b.reading_refresh hle

/-! ## Calls whose deadline has passed -/

/-- Attempts that send nothing have not begun, since the deadline had passed. -/
theorem late_of_sends_nothing {result : Except RetryError Value}
    (h : RetryPolicy.Rounds policy deadline (attempt service request) (countRetry service) more made
      now ds result) (hnone : sentBy ds = []) :
    deadline.isExpired now = true ∧ result = .error (.deadlineExceeded made) ∧
      ∃ r, ds = [⟨now, r, r⟩] := by
  have hsent {mid : Time} {first : List (Deed Registry)} {got : Option (Except Rpc.Error Value)}
      (htried : (deadline.bound (attempt service request)).Does now first mid got)
      (hsubset : first ⊆ ds) : False := by
    have hfirst := (sends_of_bound_attempt htried).sentBy_eq fun d hquiet ↦ hquiet.calls
    rw [sentBy_eq_nil_of_subset hsubset hnone] at hfirst
    cases hfirst
  cases h with
  | late passed => exact ⟨passed, rfl, _, rfl⟩
  | last _ tried => exact (hsent tried (by simp)).elim
  | short _ tried => exact (hsent tried (by simp)).elim
  | again _ tried => exact (hsent tried (by simp)).elim

/-- A call that is let in after its deadline ends at once, and is reported as a failure. -/
theorem run_late {b b' : Breaker} (hb : r.breaker? service = some b)
    (hadmitted : b.acquire now = (some p, b')) (hpassed : deadline.instant ≤ now) :
    (call policy service deadline request).run now r =
      (now, complete service p false now (acquire service now r).2,
        .done (.error .deadlineExceeded)) := by
  have hasked : (acquire service now r).1 = some p := by rw [acquire_fst hb, hadmitted]
  have hexpired : deadline.isExpired now = true := decide_eq_true hpassed
  have hknown := service?_ne_none hb
  have hends : (admitted policy service deadline request p).run now (acquire service now r).2 =
      (now, complete service p false now (acquire service now r).2,
        .done (.error .deadlineExceeded)) := by
    unfold admitted RetryPolicy.run RetryPolicy.attempts
    simp [Activity.guarded, Activity.bind, Activity.run, Activity.keep, hexpired, Except.isOk,
      Except.toBool, Except.mapError, faultOf]
  simpa [call, Activity.run, Activity.keep, Activity.modifyGet, Activity.bind, hknown, hasked]
    using hends

/-! ## Calls that send nothing -/

/-- A call that sends nothing is of an unknown service or is refused, and then no change that it
makes shows in any breaker; or it is let in after its deadline, and then it fails as such a call and
its only report is that failure. Where nobody comes between, a call that is let in after its
deadline does end so, and is one more failure in a row of its service and of no other. -/
theorem blames_none_but_the_late (policy : RetryPolicy) (service : String) (deadline : Deadline)
    (request : Rpc.Request) :
    let call := call policy service deadline request
    (∀ now ds finish result, call.Does now ds finish result → sentBy ds = [] →
        ((result = .error (.unknownService service) ∨
            ∃ secs, result = .error (.circuitOpen service secs)) ∧ ∀ d ∈ ds, Unseen d) ∨
          (deadline.instant ≤ now ∧ result = .error .deadlineExceeded ∧
            ∃ look ask check report p, ds = [look, ask, check, report] ∧
              look.after = look.before ∧ acquire service now ask.before = (some p, ask.after) ∧
              check.after = check.before ∧
              report.after = complete service p false report.instant report.before)) ∧
      ∀ now r b p b', deadline.instant ≤ now → r.breaker? service = some b →
        b.acquire now = (some p, b') →
        ∃ r' b'', call.run now r = (now, r', .done (.error .deadlineExceeded)) ∧
          r'.calls = r.calls ∧ r'.breaker? service = some b'' ∧
          (b.refresh now).Blames now b'' ∧
          ∀ name, name ≠ service → r'.breaker? name = r.breaker? name := by
  intro call
  constructor
  · intro now ds finish result hdoes hnone
    cases course_of_does hdoes with
    | unknown missing =>
      apply Or.inl
      exact ⟨.inl rfl, List.forall_mem_singleton.mpr (.same now _)⟩
    | refused known asked =>
      apply Or.inl
      refine ⟨.inr ⟨_, rfl⟩, ?_⟩
      simp only [List.forall_mem_cons]
      exact ⟨.same now _, unseen_acquire asked, unseen_retryAfterSecs service now _, nofun⟩
    | ended known asked rounds =>
      have hduring := sentBy_eq_nil_of_subset (List.subset_cons_of_subset _
        (List.subset_cons_of_subset _ (List.subset_append_left _ _))) hnone
      obtain ⟨hexpired, rfl, r, rfl⟩ := late_of_sends_nothing rounds hduring
      apply Or.inr
      exact ⟨of_decide_eq_true hexpired, rfl, _, _, _, _, _, rfl, rfl, Prod.ext asked rfl, rfl, rfl⟩
  · intro now r b p b' hpassed hb hadmitted
    have hasked := breaker?_acquire_self service now r
    rw [hb, Option.map_some, hadmitted] at hasked
    have hreport := onBreaker_updateBreaker service now (acquire service now r).2 fun b ↦
      b.complete p now false
    refine ⟨_, b'.complete p now false, run_late hb hadmitted hpassed, ?_, ?_,
      Breaker.blames_of_acquire hadmitted, fun name hname ↦ ?_⟩
    · exact hreport.calls.trans (onBreaker_acquire service now r).calls
    · unfold complete
      rw [breaker?_updateBreaker_self, hasked]
      rfl
    · have hspared := (hreport.others name hname).trans
        ((onBreaker_acquire service now r).others name hname)
      exact congrArg (Option.map Service.breaker) hspared

/-- A call of an unknown service, and one that comes after its deadline and opens the breaker. -/
theorem blames_late_call_of_two :
    let request : Rpc.Request := { operation := "OrderInfo", requestId := "1" }
    let breaker : Breaker := Breaker.new ⟨1, 1000, 1, 0⟩ 0
    let r : Registry := { services := [{ name := "orders", breaker }] }
    let call (service : String) := call (RetryPolicy.ofConfig {}) service ⟨0⟩ request
    (∃ ds result, (call "payments").Does 0 ds 0 result ∧ sentBy ds = [] ∧ ∀ d ∈ ds, Unseen d) ∧
      r.breaker? "orders" = some breaker ∧
      ∃ p b' r' b'', breaker.acquire 0 = (some p, b') ∧
        (call "orders").run 0 r = (0, r', .done (.error .deadlineExceeded)) ∧ r'.calls = [] ∧
        r'.breaker? "orders" = some b'' ∧ breaker.Blames 0 b'' := by
  intro request breaker r call
  obtain ⟨hunknown, -⟩ := blames_none_but_the_late (RetryPolicy.ofConfig {}) "payments" ⟨0⟩ request
  obtain ⟨-, hlate⟩ := blames_none_but_the_late (RetryPolicy.ofConfig {}) "orders" ⟨0⟩ request
  have hdoes : (call "payments").Does 0 [⟨0, {}, {}⟩] 0 (.error (.unknownService "payments")) :=
    .act (.done _ _)
  refine ⟨⟨_, _, hdoes, rfl, ?_⟩, by cbv, ?_⟩
  · obtain ⟨-, hunseen⟩ | ⟨-, hresult, -⟩ := hunknown 0 _ 0 _ hdoes rfl
    · exact hunseen
    · cases hresult
  · obtain ⟨r', b'', hrun, hcalls, hb'', hblames, -⟩ :=
      hlate 0 r breaker ⟨0, false⟩ _ (Nat.le_refl 0) (by cbv) rfl
    exact ⟨_, _, r', b'', rfl, hrun, hcalls, hb'', hblames⟩

/-- That no attempt was made does not clear a service of a call that it was let in too late. -/
theorem late_call_shows :
    ¬ ∀ (policy : RetryPolicy) (service : String) (deadline : Deadline) (request : Rpc.Request)
      (now finish : Time) (r r' : Registry) (result : Except Fault Value),
      (call policy service deadline request).run now r = (finish, r', .done result) →
        r'.calls = r.calls → ∀ name t, finish ≤ t →
          (r'.breaker? name).map (·.reading t) = (r.breaker? name).map (·.reading t) := by
  intro h
  let request : Rpc.Request := { operation := "OrderInfo", requestId := "1" }
  let breaker : Breaker := Breaker.new ⟨1, 1000, 1, 0⟩ 0
  let breaker' : Breaker :=
    { breaker with
      state := .open, generation := 1, openedAt := some 0, published := ⟨.open, 1, .open⟩ }
  let r : Registry := { services := [{ name := "orders", breaker }] }
  let r' : Registry := { services := [{ name := "orders", breaker := breaker' }] }
  have hrun : (call (RetryPolicy.ofConfig {}) "orders" ⟨0⟩ request).run 0 r =
      (0, r', .done (.error .deadlineExceeded)) := by cbv
  have hsame := h _ _ _ _ _ _ _ _ _ hrun rfl "orders" 0 (Nat.le_refl 0)
  exact absurd hsame (by decide)

end RpcGateway.Calls.Registry
