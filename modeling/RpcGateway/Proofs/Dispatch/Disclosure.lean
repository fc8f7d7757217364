import RpcGateway.Calls.Dispatch
import RpcGateway.Proofs.Activity.Company

/-!
# What callers may know of failures

Under some codes a caller is told what the backend has said, under all others only the code counts.
Two errors are alike if they differ at most in a message that nobody is told, and so are two
services if all that they reply is alike. Calls of services that are alike go in step: they make the
same attempts at the same instants, leave the same breakers and counts, and come to the same answer
or to faults that are alike.
-/

namespace RpcGateway

/-- Two results that are the same unless both are errors, which are alike then. -/
inductive SameButErrors {ε α : Type} (E : ε → ε → Prop) : Except ε α → Except ε α → Prop where
  | ok (a : α) : SameButErrors E (.ok a) (.ok a)
  | error {e e' : ε} (alike : E e e') : SameButErrors E (.error e) (.error e')

/-- Both succeed or both fail. -/
theorem SameButErrors.isOk_eq {ε α : Type} {E : ε → ε → Prop} {x y : Except ε α}
    (h : SameButErrors E x y) : x.isOk = y.isOk := by
  cases h with
  | ok => rfl
  | error => rfl

theorem SameButErrors.mapError {ε ε' α : Type} {E : ε → ε → Prop} {E' : ε' → ε' → Prop}
    {x y : Except ε α} {f : ε → ε'} (h : SameButErrors E x y)
    (hmap : ∀ e e', E e e' → E' (f e) (f e')) :
    SameButErrors E' (x.mapError f) (y.mapError f) := by
  cases h with
  | ok a => exact .ok a
  | error alike => exact .error (hmap _ _ alike)

namespace Rpc

/-- The codes that come with what the backend has said. -/
def Code.told : List Code :=
  [.invalidArgument, .outOfRange, .notFound, .alreadyExists, .failedPrecondition, .permissionDenied,
    .unauthenticated]

/-- Two errors of one code, and of one message if callers are told it. -/
structure Error.Alike (e e' : Error) : Prop where
  code : e.code = e'.code
  message : e.code ∈ Code.told → e.message = e'.message

/-- Errors that are alike are retried alike. -/
theorem Error.Alike.retryable_eq {e e' : Error} (h : e.Alike e') : e.retryable = e'.retryable :=
  congrArg Code.retryable h.code

end Rpc

namespace Fault

/-- Two faults that differ at most in messages that callers are not told. -/
inductive Alike : Fault → Fault → Prop where
  | refl (f : Fault) : Alike f f
  | backend {e e' : Rpc.Error} (alike : e.Alike e') : Alike (.backend e) (.backend e')
  | retriesExhausted (attempts : Nat) (last last' : Rpc.Error) :
      Alike (.retriesExhausted attempts last) (.retriesExhausted attempts last')

end Fault

namespace Calls

open Activity Json

/-- Answers that differ in nothing but the texts of failures. -/
inductive Answer.Alike : Answer → Answer → Prop where
  | ok (payload : Value) : Alike (.ok payload) (.ok payload)
  | error {e e' : Rpc.Error} (alike : e.Alike e') : Alike (.error e) (.error e')
  | panic : Alike .panic .panic
  | hang : Alike .hang .hang

/-- Replies that take as long and have answers that are alike. -/
structure Reply.Alike (r r' : Reply) : Prop where
  delay : r.delayMs = r'.delayMs
  answer : r.answer.Alike r'.answer

/-- Two backends whose replies are alike, to every request at any time. -/
structure Backend.Alike (b b' : Backend) : Prop where
  calls : b.calls = b'.calls
  reply : ∀ request n, (b.reply request n).Alike (b'.reply request n)

structure Service.Alike (s s' : Service) : Prop where
  name : s.name = s'.name
  breaker : s.breaker = s'.breaker
  routes : s.routes = s'.routes
  backend : s.backend.Alike s'.backend

/-- Registries of services that are alike, with the same calls on record. -/
structure Registry.Alike (r r' : Registry) : Prop where
  services : List.Forall₂ Service.Alike r.services r'.services
  calls : r.calls = r'.calls
  retries : r.retries = r'.retries
  rejections : r.rejections = r'.rejections

inductive RetryError.Alike : RetryError → RetryError → Prop where
  | terminal {e e' : Rpc.Error} (alike : e.Alike e') : Alike (.terminal e) (.terminal e')
  | exhausted {e e' : Rpc.Error} (attempts : Nat) (alike : e.Alike e') :
      Alike (.exhausted attempts e) (.exhausted attempts e')
  | deadlineExceeded (attempts : Nat) :
      Alike (.deadlineExceeded attempts) (.deadlineExceeded attempts)

/-- Two results of attempts or calls. -/
abbrev SameReply : Except Rpc.Error Value → Except Rpc.Error Value → Prop :=
  SameButErrors Rpc.Error.Alike

variable {σ τ : Type} {R : σ → τ → Prop} {r r' : Registry} {s s' : Service} {service : String}
  {request : Rpc.Request} {deadline : Deadline} {policy : RetryPolicy}

/-! ## Backends -/

/-- Backends that are alike reply alike. -/
theorem Backend.Alike.nextReply {b b' : Backend} (h : b.Alike b') (request : Rpc.Request) :
    (b.nextReply request).Alike (b'.nextReply request) := by
  unfold Backend.nextReply callCount
  rw [h.calls]
  exact h.reply request _

theorem Backend.Alike.noted {b b' : Backend} (h : b.Alike b') (operation : String) :
    (b.noted operation).Alike (b'.noted operation) := by
  refine ⟨?_, h.reply⟩
  unfold Backend.noted callCount
  rw [h.calls]

/-- Replies that are alike are had in step. -/
theorem inStep_reply {r r' : Reply} (h : r.Alike r') :
    InStep R SameReply (r.attempt : Activity σ _) (r'.attempt : Activity τ _) := by
  obtain ⟨delay, answer⟩ := r
  obtain ⟨delay', answer'⟩ := r'
  obtain ⟨rfl, hanswer⟩ : delay = delay' ∧ answer.Alike answer' := ⟨h.delay, h.answer⟩
  cases delay with
  | none =>
    cases hanswer with
    | ok payload => exact .done (.ok payload)
    | error alike => exact .done (.error alike)
    | panic => exact .panic
    | hang => exact .hang
  | some ms =>
    refine (InStep.sleep ms).bind fun _ _ _ ↦ ?_
    cases hanswer with
    | ok payload => exact .done (.ok payload)
    | error alike => exact .done (.error alike)
    | panic => exact .panic
    | hang => exact .hang

/-! ## Retries -/

/-- Both wait for as long, or neither waits. -/
theorem inStep_afterWait (deadline : Deadline) (delay made : Nat) {word : Time → σ → σ}
    {word' : Time → τ → τ} {next : Activity σ (Except RetryError Value)}
    {next' : Activity τ (Except RetryError Value)} (hword : Preserves R word word')
    (hnext : InStep R (SameButErrors RetryError.Alike) next next') :
    InStep R (SameButErrors RetryError.Alike) (RetryPolicy.afterWait deadline delay made word next)
      (RetryPolicy.afterWait deadline delay made word' next') := by
  refine .act preserves_keep fun now _ _ _ ↦ ?_
  split
  · exact .panic
  · exact .done (.error (.deadlineExceeded made))
  · exact .act hword fun _ _ _ _ ↦ (InStep.sleepUntil _).bind fun _ _ _ ↦ hnext

/-- Attempts that go in step are retried in step: whether and when there is another one depends on
the code of an error alone. -/
theorem inStep_attempts (policy : RetryPolicy) (deadline : Deadline)
    {op : Activity σ (Except Rpc.Error Value)} {op' : Activity τ (Except Rpc.Error Value)}
    {onRetry : Nat → Rpc.Error → Time → σ → σ} {onRetry' : Nat → Rpc.Error → Time → τ → τ}
    (hop : InStep R SameReply op op')
    (hretry : ∀ n e e', Preserves R (onRetry n e) (onRetry' n e')) (more made : Nat) :
    InStep R (SameButErrors RetryError.Alike) (policy.attempts deadline op onRetry more made)
      (policy.attempts deadline op' onRetry' more made) := by
  induction more using Nat.strongRecOn generalizing made with
  | _ more ih =>
    unfold RetryPolicy.attempts
    refine .act preserves_keep fun now _ _ _ ↦ ?_
    split
    · exact .done (.error (.deadlineExceeded made))
    refine (hop.within deadline.instant).bind ?_
    rintro _ _ (hreply | _)
    · cases hreply with
      | ok a => exact .done (.ok a)
      | error alike =>
        dsimp only
        rw [← alike.retryable_eq]
        split
        · exact .done (.error (.terminal alike))
        cases more with
        | zero => exact .done (.error (.exhausted _ alike))
        | succ more =>
          exact inStep_afterWait deadline _ _ (hretry _ _ _)
            (ih more (Nat.lt_succ_self more) (made + 1))
    · exact .done (.error (.deadlineExceeded _))

/-! ## Registries -/

namespace Registry

/-- A name is found in both or in neither. -/
theorem Alike.service? (h : r.Alike r') (name : String) :
    Option.Rel Service.Alike (r.service? name) (r'.service? name) :=
  rel_find? (fun _ _ hs ↦ congrArg (decide <| · = name) hs.name) h.services

theorem Alike.update (h : r.Alike r') (name : String) (change change' : Service → Service)
    (hchange : ∀ s s', s.Alike s' → (change s).Alike (change' s')) :
    (r.update name change).Alike (r'.update name change') := by
  refine ⟨List.rel_map ?_ h.services, h.calls, h.retries, h.rejections⟩
  intro s s' hs
  dsimp only
  rw [hs.name]
  split
  · exact hchange s s' hs
  · exact hs

theorem Alike.updateBreaker (h : r.Alike r') (name : String) (change : Breaker → Breaker) :
    (r.updateBreaker name change).Alike (r'.updateBreaker name change) :=
  h.update name _ _ fun _ _ hs ↦ ⟨hs.name, congrArg change hs.breaker, hs.routes, hs.backend⟩

/-- An attempt is made in step. -/
theorem inStep_attempt (service : String) (request : Rpc.Request) :
    InStep Registry.Alike SameReply (attempt service request) (attempt service request) := by
  refine .act ?_ ?_
  · intro now r r' h
    have hnoted := h.update service
      (fun s ↦ { s with backend := s.backend.noted request.operation })
      (fun s ↦ { s with backend := s.backend.noted request.operation })
      fun _ _ hs ↦ ⟨hs.name, hs.breaker, hs.routes, hs.backend.noted request.operation⟩
    exact ⟨hnoted.services, congrArg (List.cons (service, request)) h.calls, h.retries,
      h.rejections⟩
  · intro now r r' h
    have hservice := h.service? service
    generalize r.service? service = s, r'.service? service = s' at hservice
    cases hservice with
    | none => exact .done (.error ⟨rfl, fun _ ↦ rfl⟩)
    | some hs => exact inStep_reply (hs.backend.nextReply request)

/-- A permit is had from both or from neither. -/
theorem Alike.acquire (h : r.Alike r') (service : String) (now : Time) :
    (acquire service now r).1 = (acquire service now r').1 ∧
      (acquire service now r).2.Alike (acquire service now r').2 := by
  have hservice := h.service? service
  unfold Registry.acquire
  generalize r.service? service = s, r'.service? service = s' at hservice
  cases hservice with
  | none => exact ⟨rfl, h⟩
  | @some s s' hs =>
    dsimp only
    rw [← hs.breaker]
    have hupdated := h.updateBreaker service fun _ ↦ (s.breaker.acquire now).2
    cases (s.breaker.acquire now).1 with
    | some p => exact ⟨rfl, hupdated⟩
    | none =>
      refine ⟨rfl, hupdated.services, hupdated.calls, hupdated.retries, ?_⟩
      exact congrArg (Tally.add · service 1) h.rejections

/-- Both tell the same time to wait. -/
theorem Alike.retryAfterSecs (h : r.Alike r') (service : String) (now : Time) :
    (retryAfterSecs service now r).1 = (retryAfterSecs service now r').1 ∧
      (retryAfterSecs service now r).2.Alike (retryAfterSecs service now r').2 := by
  have hrefreshed := h.updateBreaker service fun b ↦ b.refresh now
  have hservice := hrefreshed.service? service
  unfold Registry.retryAfterSecs
  dsimp only
  generalize (r.updateBreaker service fun b ↦ b.refresh now).service? service = s,
    (r'.updateBreaker service fun b ↦ b.refresh now).service? service = s' at hservice
  cases hservice with
  | none => exact ⟨rfl, hrefreshed⟩
  | some hs => exact ⟨congrArg (fun b ↦ Breaker.retryAfter b now / 1000) hs.breaker, hrefreshed⟩

/-- Ends of attempts that are alike are told as faults that are alike. -/
theorem faultOf_alike {e e' : RetryError} (h : e.Alike e') : (faultOf e).Alike (faultOf e') := by
  cases h with
  | terminal alike => exact .backend alike
  | exhausted n alike =>
    by_cases hn : n ≤ 1
    · simp only [faultOf, if_pos hn]
      exact .backend alike
    · simp only [faultOf, if_neg hn]
      exact .retriesExhausted n _ _
  | deadlineExceeded => exact .refl _

theorem inStep_admitted (policy : RetryPolicy) (service : String) (deadline : Deadline)
    (request : Rpc.Request) (p : Permit) :
    InStep Registry.Alike (SameButErrors Fault.Alike) (admitted policy service deadline request p)
      (admitted policy service deadline request p) := by
  have hretry (n : Nat) (e e' : Rpc.Error) :
      Preserves Registry.Alike (countRetry service n e) (countRetry service n e') := fun _ _ _ h ↦
    ⟨h.services, h.calls, congrArg (Tally.add · service 1) h.retries, h.rejections⟩
  have hattempts := inStep_attempts policy deadline (inStep_attempt service request) hretry
    (policy.maxAttempts - 1) 0
  have hrelease : Preserves Registry.Alike (release service p) (release service p) :=
    fun _ _ _ h ↦ h.updateBreaker service _
  refine (hattempts.guarded hrelease).bind fun result result' hresult ↦ ?_
  rw [← hresult.isOk_eq]
  exact .act (fun _ _ _ h ↦ h.updateBreaker service _) fun _ _ _ _ ↦
    .done (hresult.mapError fun _ _ ↦ faultOf_alike)

/-- Calls of services that are alike go in step. -/
theorem inStep_call (policy : RetryPolicy) (service : String) (deadline : Deadline)
    (request : Rpc.Request) :
    InStep Registry.Alike (SameButErrors Fault.Alike) (call policy service deadline request)
      (call policy service deadline request) := by
  refine .act preserves_keep fun now r r' h ↦ ?_
  have hservice := h.service? service
  generalize r.service? service = s, r'.service? service = s' at hservice
  cases hservice with
  | none => exact .done (.error (.refl _))
  | some hs =>
    refine (InStep.modifyGet (Q := Eq) fun now r r' h ↦ h.acquire service now).bind ?_
    rintro permit _ rfl
    cases permit with
    | some p => exact inStep_admitted policy service deadline request p
    | none =>
      refine (InStep.modifyGet (Q := Eq) fun now r r' h ↦ h.retryAfterSecs service now).map ?_
      rintro secs _ rfl
      exact .error (.refl _)

end Registry

end Calls

end RpcGateway
