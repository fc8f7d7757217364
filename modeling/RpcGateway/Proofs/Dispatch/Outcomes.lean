import Mathlib
import RpcGateway.Calls.Dispatch
import RpcGateway.Proofs.Retry.Rounds

/-!
# What a call of a service does

A call looks its service up, asks the breaker, makes its attempts and reports one outcome. Its
history shows each of these as one change of the registry, whatever other calls do in between: the
changes of the attempts leave all breakers alone and send one and the same request, no change
concerns another service, and only the last one tells the breaker how the call came out.
-/

namespace RpcGateway.Calls.Registry

open Json

variable {r : Registry} {service name : String} {request : Rpc.Request} {deadline : Deadline}
  {policy : RetryPolicy} {p : Permit} {now finish : Time} {ds ds' : List (Deed Registry)}
  {d : Deed Registry} {m n more made : Nat}

/-! ## Services in a registry -/

/-- A change of a service is found under its name, as long as it keeps that. -/
theorem service?_update_self (r : Registry) {change : Service → Service}
    (hname : ∀ s, (change s).name = s.name) :
    (r.update name change).service? name = (r.service? name).map change := by
  unfold service? update
  dsimp only
  induction r.services with
  | nil => rfl
  | cons s services ih =>
    rw [List.map_cons, List.find?_cons, List.find?_cons, ih]
    by_cases hs : s.name = name
    · simp [hname, hs]
    · simp [hs]

/-- A change of one service is not found under the name of another. -/
theorem service?_update_of_ne (r : Registry) {change : Service → Service} {other : String}
    (hname : ∀ s, (change s).name = s.name) (hne : other ≠ name) :
    (r.update name change).service? other = r.service? other := by
  unfold service? update
  dsimp only
  induction r.services with
  | nil => rfl
  | cons s services ih =>
    rw [List.map_cons, List.find?_cons, List.find?_cons, ih]
    by_cases hs : s.name = name
    · rw [if_pos hs]
      simp [hname, hs, hne.symm]
    · rw [if_neg hs]

/-- What a change leaves of a service as it is can be read off every service as before. -/
theorem map_service?_update {α : Type} (r : Registry) (change : Service → Service)
    (f : Service → α) (service name : String) (hname : ∀ s, (change s).name = s.name)
    (hsame : ∀ s, f (change s) = f s) :
    ((r.update service change).service? name).map f = (r.service? name).map f := by
  by_cases hne : name = service
  · subst hne
    rw [service?_update_self r hname, Option.map_map]
    congr 1
    funext s
    exact hsame s
  · rw [service?_update_of_ne r hname hne]

theorem service?_updateBreaker_of_ne (r : Registry) {change : Breaker → Breaker} {other : String}
    (hne : other ≠ name) : (r.updateBreaker name change).service? other = r.service? other :=
  r.service?_update_of_ne (fun _ ↦ rfl) hne

def breaker? (r : Registry) (name : String) : Option Breaker :=
  (r.service? name).map Service.breaker

def backend? (r : Registry) (name : String) : Option Backend :=
  (r.service? name).map Service.backend

/-- What becomes of a breaker does not show in any backend. -/
theorem backend?_updateBreaker (r : Registry) (change : Breaker → Breaker) (service name : String) :
    (r.updateBreaker service change).backend? name = r.backend? name :=
  r.map_service?_update (fun s ↦ { s with breaker := change s.breaker }) Service.backend service
    name (fun _ ↦ rfl) fun _ ↦ rfl

/-- A change of a breaker is found where the breaker is. -/
theorem breaker?_updateBreaker_self (r : Registry) (change : Breaker → Breaker)
    (service : String) :
    (r.updateBreaker service change).breaker? service = (r.breaker? service).map change := by
  have hupdate : (r.updateBreaker service change).service? service = _ :=
    r.service?_update_self fun _ ↦ rfl
  unfold breaker?
  rw [hupdate, Option.map_map, Option.map_map]
  rfl

/-- A change that concerns no other service. -/
def SparesOthers (service : String) (d : Deed Registry) : Prop :=
  ∀ name, name ≠ service → d.after.service? name = d.before.service? name

/-- A change that concerns the breaker of one service at most, and sends nothing. -/
structure OnBreaker (service : String) (d : Deed Registry) : Prop where
  calls : d.after.calls = d.before.calls
  backends : ∀ name, d.after.backend? name = d.before.backend? name
  others : SparesOthers service d

theorem OnBreaker.same (service : String) (now : Time) (r : Registry) :
    OnBreaker service ⟨now, r, r⟩ :=
  ⟨rfl, fun _ ↦ rfl, fun _ _ ↦ rfl⟩

/-- Whatever is done to the breaker of a service, nobody else notices. -/
theorem onBreaker_updateBreaker (service : String) (now : Time) (r : Registry)
    (change : Breaker → Breaker) : OnBreaker service ⟨now, r, r.updateBreaker service change⟩ :=
  ⟨rfl, r.backend?_updateBreaker change service, fun _ hne ↦ r.service?_updateBreaker_of_ne hne⟩

/-! ## What the breaker is asked -/

/-- A call is let in just if the breaker of its service lets it in. -/
theorem acquire_fst {b : Breaker} (hb : r.breaker? service = some b) :
    (acquire service now r).1 = (b.acquire now).1 := by
  obtain ⟨s, hs, rfl⟩ := Option.map_eq_some_iff.mp hb
  unfold acquire
  rw [hs]
  dsimp only
  cases (s.breaker.acquire now).1 with
  | none => rfl
  | some p => rfl

/-- After it has been asked, the breaker is as its answer leaves it. -/
theorem breaker?_acquire_self (service : String) (now : Time) (r : Registry) :
    (acquire service now r).2.breaker? service =
      (r.breaker? service).map fun b ↦ (b.acquire now).2 := by
  unfold acquire
  cases hs : r.service? service with
  | none => simp [breaker?, hs]
  | some s =>
    have hupdate := r.breaker?_updateBreaker_self (fun _ ↦ (s.breaker.acquire now).2) service
    have hb : r.breaker? service = some s.breaker := congrArg (Option.map Service.breaker) hs
    rw [hb] at hupdate ⊢
    dsimp only
    cases (s.breaker.acquire now).1 with
    | none => exact hupdate
    | some p => exact hupdate

/-- To ask a breaker concerns that breaker only, although a rejection is counted. -/
theorem onBreaker_acquire (service : String) (now : Time) (r : Registry) :
    OnBreaker service ⟨now, r, (acquire service now r).2⟩ := by
  unfold acquire
  cases r.service? service with
  | none => exact .same service now r
  | some s =>
    dsimp only
    have hupdate := onBreaker_updateBreaker service now r fun _ ↦ (s.breaker.acquire now).2
    cases (s.breaker.acquire now).1 with
    | none => exact ⟨hupdate.calls, hupdate.backends, hupdate.others⟩
    | some p => exact hupdate

theorem onBreaker_retryAfterSecs (service : String) (now : Time) (r : Registry) :
    OnBreaker service ⟨now, r, (retryAfterSecs service now r).2⟩ := by
  have hupdate := onBreaker_updateBreaker service now r fun b ↦ b.refresh now
  unfold retryAfterSecs
  dsimp only
  split
  · exact hupdate
  · exact hupdate

theorem breaker?_retryAfterSecs_self (service : String) (now : Time) (r : Registry) :
    (retryAfterSecs service now r).2.breaker? service =
      (r.breaker? service).map fun b ↦ b.refresh now := by
  have hupdate := r.breaker?_updateBreaker_self (fun b ↦ b.refresh now) service
  unfold retryAfterSecs
  dsimp only
  split
  · exact hupdate
  · exact hupdate

/-- A caller that is rejected is told whole seconds, rounded down. -/
theorem retryAfterSecs_fst {b : Breaker} (hb : r.breaker? service = some b) :
    (retryAfterSecs service now r).1 = (b.refresh now).retryAfter now / 1000 := by
  have hupdate := r.breaker?_updateBreaker_self (fun b ↦ b.refresh now) service
  rw [hb] at hupdate
  obtain ⟨s, hs, hbreaker⟩ := Option.map_eq_some_iff.mp hupdate
  unfold retryAfterSecs
  dsimp only
  rw [hs]
  exact congrArg (fun b ↦ b.retryAfter now / 1000) hbreaker

/-! ## Requests sent -/

/-- The registry when a request has been sent to the backend of a service. -/
def sent (service : String) (request : Rpc.Request) (r : Registry) : Registry :=
  { r.update service fun s ↦ { s with backend := s.backend.noted request.operation } with
    calls := (service, request) :: r.calls }

theorem service?_sent_of_ne (r : Registry) (hne : name ≠ service) :
    (sent service request r).service? name = r.service? name :=
  r.service?_update_of_ne (fun _ ↦ rfl) hne

/-- To send a request changes no breaker. -/
theorem breaker?_sent (r : Registry) :
    (sent service request r).breaker? name = r.breaker? name :=
  r.map_service?_update (fun s ↦ { s with backend := s.backend.noted request.operation })
    Service.breaker service name (fun _ ↦ rfl) fun _ ↦ rfl

/-- What has been sent to backends, in order. -/
def sentBy (ds : List (Deed Registry)) : List (String × Rpc.Request) :=
  ds.flatMap fun d ↦ d.after.calls.take (d.after.calls.length - d.before.calls.length)

/-- Where nothing has been sent, none of the changes has sent anything. -/
theorem sentBy_eq_nil_of_subset (h : ds ⊆ ds') (hnone : sentBy ds' = []) : sentBy ds = [] := by
  rw [sentBy, List.flatMap_eq_nil_iff] at hnone ⊢
  exact fun d hd ↦ hnone d (h hd)

/-- A change that concerns neither services nor what has been sent. -/
structure Quiet (d : Deed Registry) : Prop where
  services : d.after.services = d.before.services
  calls : d.after.calls = d.before.calls

theorem Quiet.same (now : Time) (r : Registry) : Quiet ⟨now, r, r⟩ := ⟨rfl, rfl⟩

theorem Quiet.service?_eq (h : Quiet d) (name : String) :
    d.after.service? name = d.before.service? name := by
  rw [service?, h.services, service?]

theorem Quiet.onBreaker (h : Quiet d) (service : String) : OnBreaker service d := by
  refine ⟨h.calls, fun name ↦ ?_, fun name _ ↦ h.service?_eq name⟩
  rw [backend?, h.service?_eq, backend?]

/-- Changes that send a request so many times and are of another kind otherwise. -/
inductive Sends (service : String) (request : Rpc.Request) (kind : Deed Registry → Prop) :
    Nat → List (Deed Registry) → Prop where
  | nil : Sends service request kind 0 []
  | other {n : Nat} {d : Deed Registry} {ds : List (Deed Registry)} (other : kind d)
      (rest : Sends service request kind n ds) : Sends service request kind n (d :: ds)
  | sent {n : Nat} {d : Deed Registry} {ds : List (Deed Registry)}
      (sent : d.after = sent service request d.before) (rest : Sends service request kind n ds) :
      Sends service request kind (n + 1) (d :: ds)

variable {kind kind' : Deed Registry → Prop}

/-- What comes after adds its own requests to those sent before. -/
theorem Sends.append (h : Sends service request kind m ds)
    (h' : Sends service request kind n ds') : Sends service request kind (m + n) (ds ++ ds') := by
  induction h with
  | nil => rwa [Nat.zero_add]
  | other hother _ ih => exact .other hother ih
  | sent hsent _ ih =>
    rw [Nat.add_right_comm]
    exact .sent hsent ih

theorem Sends.of_forall (h : ∀ d ∈ ds, kind d) : Sends service request kind 0 ds := by
  induction ds with
  | nil => exact .nil
  | cons d ds ih =>
    rw [List.forall_mem_cons] at h
    exact .other h.1 (ih h.2)

theorem Sends.mono (h : Sends service request kind n ds) (himp : ∀ d, kind d → kind' d) :
    Sends service request kind' n ds := by
  induction h with
  | nil => exact .nil
  | other hother _ ih => exact .other (himp _ hother) ih
  | sent hsent _ ih => exact .sent hsent ih

/-- Each change sends the request or is of the other kind. -/
theorem Sends.sent_or_other (h : Sends service request kind n ds) (hd : d ∈ ds) :
    d.after = Registry.sent service request d.before ∨ kind d := by
  induction h with
  | nil => cases hd
  | other hother _ ih =>
    obtain _ | ⟨_, hd⟩ := hd
    · exact .inr hother
    · exact ih hd
  | sent hsent _ ih =>
    obtain _ | ⟨_, hd⟩ := hd
    · exact .inl hsent
    · exact ih hd

/-- If the other kind sends nothing, what has been sent is the request, so many times. -/
theorem Sends.sentBy_eq (h : Sends service request kind n ds)
    (hcalls : ∀ d, kind d → d.after.calls = d.before.calls) :
    sentBy ds = List.replicate n (service, request) := by
  unfold sentBy
  induction h with
  | nil => rfl
  | @other n d ds hother _ ih =>
    rw [List.flatMap_cons, ih, hcalls d hother, Nat.sub_self, List.take_zero, List.nil_append]
  | @sent n d ds hsent _ ih =>
    rw [List.flatMap_cons, ih, List.replicate_succ, hsent]
    simp [Registry.sent]

/-- As long as it only sends requests, a call leaves all breakers alone. -/
theorem Sends.breaker?_eq (h : Sends service request Quiet n ds) (hd : d ∈ ds) (name : String) :
    d.after.breaker? name = d.before.breaker? name := by
  obtain hsent | hquiet := h.sent_or_other hd
  · rw [hsent, breaker?_sent]
  · rw [breaker?, hquiet.service?_eq, breaker?]

/-! ## Attempts -/

/-- A backend takes its time and answers, and changes nothing by it. -/
theorem always_quiet_reply (reply : Reply) : reply.attempt.Always Quiet := by
  obtain ⟨delayMs, answer⟩ := reply
  have hanswer : (Reply.attempt ⟨none, answer⟩).Always Quiet := by
    cases answer with
    | ok v => trivial
    | error e => trivial
    | panic => trivial
    | hang => exact ⟨Quiet.same, trivial⟩
  cases delayMs with
  | none => exact hanswer
  | some ms =>
    refine Activity.Always.bind (t := Activity.sleep ms) ?_ fun _ ↦ hanswer
    exact fun now r ↦ ⟨Quiet.same now r, Quiet.same, trivial⟩

/-- An attempt that comes to an end, be it dropped at the deadline, has sent its request once. -/
theorem sends_of_bound_attempt {result : Option (Except Rpc.Error Value)}
    (h : (deadline.bound (attempt service request)).Does now ds finish result) :
    Sends service request Quiet 1 ds := by
  cases h with
  | @act _ _ _ _ r ds _ rest =>
    refine .sent rfl (.of_forall ?_)
    refine Activity.Always.of_does (Activity.Always.withinAfter ?_ _ _) rest
    dsimp only
    split
    · exact always_quiet_reply _
    · trivial

/-- Rounds of attempts send the request at most once each. -/
theorem sends_of_rounds {result : Except RetryError Value}
    (h : RetryPolicy.Rounds policy deadline (attempt service request) (countRetry service) more made
      now ds result) : ∃ n ≤ more + 1, Sends service request Quiet n ds := by
  induction h with
  | late => exact ⟨0, Nat.zero_le _, .other (.same _ _) .nil⟩
  | last _ tried =>
    exact ⟨1, Nat.le_add_left _ _, .other (.same _ _) (sends_of_bound_attempt tried)⟩
  | short _ tried =>
    refine ⟨1, Nat.le_add_left _ _, .other (.same _ _) ?_⟩
    exact (sends_of_bound_attempt tried).append (.other (.same _ _) .nil)
  | again _ tried _ _ _ _ ih =>
    obtain ⟨n, hn, hnext⟩ := ih
    refine ⟨1 + n, by omega, .other (.same _ _) ?_⟩
    exact (sends_of_bound_attempt tried).append (.other (.same _ _) (.other ⟨rfl, rfl⟩ hnext))

/-! ## Calls -/

/-- The ways in which a call can go; others may change the registry in between. -/
inductive Course (policy : RetryPolicy) (service : String) (deadline : Deadline)
    (request : Rpc.Request) (now : Time) : List (Deed Registry) → Except Fault Value → Prop where
  | unknown {r : Registry} (missing : r.service? service = none) :
      Course policy service deadline request now [⟨now, r, r⟩] (.error (.unknownService service))
  | refused {r r' r'' : Registry} (known : r.service? service ≠ none)
      (asked : (acquire service now r').1 = none) :
      Course policy service deadline request now
        [⟨now, r, r⟩, ⟨now, r', (acquire service now r').2⟩,
          ⟨now, r'', (retryAfterSecs service now r'').2⟩]
        (.error (.circuitOpen service (retryAfterSecs service now r'').1))
  | ended {r r' r'' : Registry} {p : Permit} {during : List (Deed Registry)} {finish : Time}
      {result : Except RetryError Value} (known : r.service? service ≠ none)
      (asked : (acquire service now r').1 = some p)
      (rounds : RetryPolicy.Rounds policy deadline (attempt service request) (countRetry service)
        (policy.maxAttempts - 1) 0 now during result) :
      Course policy service deadline request now
        (⟨now, r, r⟩ :: ⟨now, r', (acquire service now r').2⟩ ::
          (during ++ [⟨finish, r'', complete service p result.isOk finish r''⟩]))
        (result.mapError faultOf)

/-- A call that comes to an end goes in one of the ways. -/
theorem course_of_does {result : Except Fault Value}
    (h : (call policy service deadline request).Does now ds finish result) :
    Course policy service deadline request now ds result := by
  cases h with
  | @act _ _ _ _ r _ _ rest =>
  dsimp only at rest
  by_cases hmissing : (r.service? service).isNone = true
  · rw [if_pos hmissing] at rest
    cases rest
    exact .unknown (Option.isNone_iff_eq_none.mp hmissing)
  rw [if_neg hmissing] at rest
  have hknown : r.service? service ≠ none := fun hnone ↦ hmissing (hnone ▸ rfl)
  cases rest with
  | @act _ _ _ _ r' _ _ rest =>
  cases hasked : (acquire service now r').1 with
  | none =>
    simp only [Activity.bind, hasked] at rest
    cases rest with
    | act told =>
    cases told
    exact .refused hknown hasked
  | some p =>
    simp only [Activity.bind, hasked] at rest
    obtain ⟨during, mid, got, reports, hattempts, hreports, rfl⟩ :=
      Activity.exists_of_does_bind rest
    cases hreports with
    | act told =>
    cases told
    exact .ended hknown hasked (RetryPolicy.rounds_of_does (Activity.does_of_guarded hattempts))

/-- All changes of a call are of a kind if each change is of which it consists, also when the permit
is given back with another change. -/
theorem always_call_of_changes (hsent : ∀ now r, kind ⟨now, r, sent service request r⟩)
    (hquiet : ∀ d, Quiet d → kind d)
    (hacquire : ∀ now r, kind ⟨now, r, (acquire service now r).2⟩)
    (hrefresh : ∀ now r, kind ⟨now, r, (retryAfterSecs service now r).2⟩)
    (hback : ∀ now r r' change, kind ⟨now, r, r'⟩ →
      kind ⟨now, r, r'.updateBreaker service change⟩) :
    (call policy service deadline request).Always kind := by
  have hsame (now : Time) (r : Registry) : kind ⟨now, r, r⟩ := hquiet _ (.same now r)
  intro now r
  refine ⟨hsame now r, ?_⟩
  dsimp only
  split
  · trivial
  refine fun now r ↦ ⟨hacquire now r, ?_⟩
  dsimp only [Activity.bind]
  split
  · refine Activity.Always.bind (Activity.Always.guarded ?_ hsame ?_) fun result ↦ ?_
    · refine RetryPolicy.always_attempts ?_ hsame fun n e now r ↦ hquiet _ ⟨rfl, rfl⟩
      refine fun now r ↦ ⟨hsent now r, ?_⟩
      dsimp only
      split
      · exact (always_quiet_reply _).mono hquiet
      · trivial
    · exact fun now r r' h ↦ hback now r r' _ h
    · exact fun now r ↦ ⟨hback now r r _ (hsame now r), trivial⟩
  · exact fun now r ↦ ⟨hrefresh now r, trivial⟩

/-- All changes of a call are of a kind if those are that send its request or concern its breaker.
-/
theorem always_call (hsent : ∀ now r, kind ⟨now, r, sent service request r⟩)
    (hbreaker : ∀ d, OnBreaker service d → kind d)
    (hback : ∀ now r r' change, kind ⟨now, r, r'⟩ →
      kind ⟨now, r, r'.updateBreaker service change⟩) :
    (call policy service deadline request).Always kind := by
  refine always_call_of_changes hsent (fun d h ↦ hbreaker d (h.onBreaker service)) ?_ ?_ hback
  · exact fun now r ↦ hbreaker _ (onBreaker_acquire service now r)
  · exact fun now r ↦ hbreaker _ (onBreaker_retryAfterSecs service now r)

/-- A call changes no other service, wherever it is dropped. -/
theorem always_sparesOthers (policy : RetryPolicy) (service : String) (deadline : Deadline)
    (request : Rpc.Request) :
    (call policy service deadline request).Always (SparesOthers service) := by
  apply always_call
  · exact fun now r name hne ↦ service?_sent_of_ne r hne
  · exact fun d h ↦ h.others
  · intro now r r' change h name hne
    exact (r'.service?_updateBreaker_of_ne hne).trans (h name hne)

/-! ## What a course comes to -/

/-- Retries are told as used up only after two attempts or more. -/
theorem eq_exhausted_of_mapError {result : Except RetryError Value} {e : Rpc.Error}
    (h : result.mapError faultOf = .error (.retriesExhausted n e)) :
    result = .error (.exhausted n e) ∧ 2 ≤ n := by
  match result, h with
  | .error (.exhausted m e'), h =>
    simp only [Except.mapError, faultOf, Except.error.injEq] at h
    split at h
    · cases h
    · rename_i hm
      cases h
      exact ⟨rfl, Nat.lt_of_not_le hm⟩

/-- An error of the backend is told as such if it could not be retried, or if there was one attempt
only. -/
theorem eq_terminal_or_exhausted_of_mapError {result : Except RetryError Value} {e : Rpc.Error}
    (h : result.mapError faultOf = .error (.backend e)) :
    result = .error (.terminal e) ∨ ∃ n ≤ 1, result = .error (.exhausted n e) := by
  match result, h with
  | .error (.terminal e'), h =>
    cases h
    exact .inl rfl
  | .error (.exhausted m e'), h =>
    simp only [Except.mapError, faultOf, Except.error.injEq] at h
    split at h
    · rename_i hm
      cases h
      exact .inr ⟨m, hm, rfl⟩
    · cases h

variable {result : Except Fault Value}

/-- A call that the breaker does not let through sends nothing. -/
theorem sends_of_refused (service : String) (request : Rpc.Request) (now : Time)
    (r r' r'' : Registry) :
    Sends service request (OnBreaker service) 0
      [⟨now, r, r⟩, ⟨now, r', (acquire service now r').2⟩,
        ⟨now, r'', (retryAfterSecs service now r'').2⟩] := by
  refine .other (.same _ _ _) (.other ?_ (.other ?_ .nil))
  · exact onBreaker_acquire service now r'
  · exact onBreaker_retryAfterSecs service now r''

/-- A call sends its request so many times, and asks and tells the breaker otherwise. -/
theorem Course.sends (h : Course policy service deadline request now ds result) :
    ∃ n ≤ policy.maxAttempts - 1 + 1, Sends service request (OnBreaker service) n ds := by
  cases h with
  | unknown => exact ⟨0, Nat.zero_le _, .other (.same _ _ _) .nil⟩
  | refused => exact ⟨0, Nat.zero_le _, sends_of_refused service request now _ _ _⟩
  | ended _ _ rounds =>
    obtain ⟨n, hn, hsends⟩ := sends_of_rounds rounds
    refine ⟨n, hn, .other (.same _ _ _) (.other (onBreaker_acquire service now _) ?_)⟩
    have hreport := onBreaker_updateBreaker service
    exact (hsends.mono fun d hquiet ↦ hquiet.onBreaker service).append (.other (hreport _ _ _) .nil)

/-- A call is said to have used its attempts up only when it has made all of them. -/
theorem Course.retriesExhausted {e : Rpc.Error}
    (h : Course policy service deadline request now ds result)
    (hresult : result = .error (.retriesExhausted n e)) :
    n = policy.maxAttempts - 1 + 1 ∧ 2 ≤ n := by
  cases h with
  | unknown => cases hresult
  | refused => cases hresult
  | ended _ _ rounds =>
    obtain ⟨hexhausted, htwo⟩ := eq_exhausted_of_mapError hresult
    exact ⟨(rounds.exhausted hexhausted).trans (Nat.zero_add _), htwo⟩

/-- An error that could be retried is passed on only where there is one attempt. -/
theorem Course.backend {e : Rpc.Error} (h : Course policy service deadline request now ds result)
    (hresult : result = .error (.backend e)) (hretryable : e.retryable = true) :
    policy.maxAttempts - 1 = 0 := by
  cases h with
  | unknown => cases hresult
  | refused => cases hresult
  | ended _ _ rounds =>
    obtain hterminal | ⟨n, hn, hexhausted⟩ := eq_terminal_or_exhausted_of_mapError hresult
    · rw [rounds.terminal hterminal] at hretryable
      cases hretryable
    · have hall := rounds.exhausted hexhausted
      omega

/-- A call of an unknown service ends at once, and leaves the registry as it was. -/
theorem run_unknown (hmissing : r.service? service = none) :
    (call policy service deadline request).run now r =
      (now, r, .done (.error (.unknownService service))) := by
  simp [call, Activity.run, Activity.keep, hmissing]

/-- A call that the breaker does not let through ends at once. -/
theorem run_rejected (hknown : r.service? service ≠ none)
    (hrejected : (acquire service now r).1 = none) :
    (call policy service deadline request).run now r =
      (now, (retryAfterSecs service now (acquire service now r).2).2,
        .done (.error (.circuitOpen service
          (retryAfterSecs service now (acquire service now r).2).1))) := by
  simp [call, rejected, Activity.run, Activity.keep, Activity.modifyGet, Activity.bind,
    Activity.map, hknown, hrejected]

theorem service?_ne_none {b : Breaker} (hb : r.breaker? service = some b) :
    r.service? service ≠ none := by
  intro hnone
  simp [breaker?, hnone] at hb

theorem run_refused {b : Breaker} (hb : r.breaker? service = some b)
    (hrefuses : (b.acquire now).1 = none) :
    ∃ secs r', (call policy service deadline request).run now r =
        (now, r', .done (.error (.circuitOpen service secs))) ∧
      r'.calls = r.calls ∧ ∀ name, r'.backend? name = r.backend? name := by
  have hasked := onBreaker_acquire service now r
  have htold := onBreaker_retryAfterSecs service now (acquire service now r).2
  exact ⟨_, _, run_rejected (service?_ne_none hb) ((acquire_fst hb).trans hrefuses),
    htold.calls.trans hasked.calls, fun name ↦ (htold.backends name).trans (hasked.backends name)⟩

/-- No call concerns a service other than its own, even if it is dropped. A call of an unknown
service changes nothing at all; one that the breaker does not let through sends nothing. A call that
the breaker lets through and that comes to its end has sent its request to its service no more often
than it may, and nothing else; the breaker has been asked once and told once how the call came out,
and the attempts in between have left all breakers alone. Only a call that may make several attempts
is said to have used them up, and only a call that may make one comes out as a backend error that
could be retried. -/
theorem breaker_told_once_per_call (c : Config.Retries) (service : String) (deadline : Deadline)
    (request : Rpc.Request) :
    let call := call (RetryPolicy.ofConfig c) service deadline request
    let budget := max 1 c.maxRetries.toNat
    call.Always (SparesOthers service) ∧
      (∀ now r, r.service? service = none →
        call.run now r = (now, r, .done (.error (.unknownService service)))) ∧
      (∀ now r b, r.breaker? service = some b → (b.acquire now).1 = none →
        ∃ secs r', call.run now r = (now, r', .done (.error (.circuitOpen service secs))) ∧
          r'.calls = r.calls ∧ ∀ name, r'.backend? name = r.backend? name) ∧
      ∀ now ds finish result, call.Does now ds finish result →
        (∀ d ∈ ds, d.after = sent service request d.before ∨ OnBreaker service d) ∧
        (∃ n ≤ budget, sentBy ds = List.replicate n (service, request)) ∧
        (∀ n e, result = .error (.retriesExhausted n e) → n = c.maxRetries.toNat ∧ 2 ≤ n) ∧
        (∀ e, result = .error (.backend e) → e.retryable = true → budget = 1) ∧
        ∃ look later, ds = look :: later ∧ look.after = look.before ∧
          (look.before.service? service = none →
            later = [] ∧ result = .error (.unknownService service)) ∧
          (look.before.service? service ≠ none → ∃ ask rest, later = ask :: rest ∧
            ask.after = (acquire service ask.instant ask.before).2 ∧
            ((acquire service ask.instant ask.before).1 = none →
              sentBy ds = [] ∧ ∃ secs, result = .error (.circuitOpen service secs)) ∧
            ∀ p, (acquire service ask.instant ask.before).1 = some p →
              ∃ during report, rest = during ++ [report] ∧
                (∀ d ∈ during, ∀ name, d.after.breaker? name = d.before.breaker? name) ∧
                report.after =
                  complete service p result.isOk report.instant report.before) := by
  intro call budget
  refine ⟨always_sparesOthers _ service deadline request, fun now r hmissing ↦ run_unknown hmissing,
    fun now r b hb hrefuses ↦ run_refused hb hrefuses, fun now ds finish result hdoes ↦ ?_⟩
  have hcourse := course_of_does hdoes
  have hbudget : (RetryPolicy.ofConfig c).maxAttempts - 1 + 1 = budget := by
    simp only [RetryPolicy.ofConfig]
    omega
  obtain ⟨n, hn, hsends⟩ := hcourse.sends
  have hsentBy := hsends.sentBy_eq fun d h ↦ h.calls
  refine ⟨fun d hd ↦ hsends.sent_or_other hd, ⟨n, hbudget ▸ hn, hsentBy⟩, fun n e hresult ↦ ?_,
    fun e hresult hretryable ↦ ?_, ?_⟩
  · obtain ⟨hall, htwo⟩ := hcourse.retriesExhausted hresult
    omega
  · have hone := hcourse.backend hresult hretryable
    omega
  cases hcourse with
  | @unknown r missing =>
    exact ⟨_, _, rfl, rfl, fun _ ↦ ⟨rfl, rfl⟩, fun hknown ↦ absurd missing hknown⟩
  | @refused r r' r'' known asked =>
    refine ⟨_, _, rfl, rfl, fun hmissing ↦ absurd hmissing known, fun _ ↦ ⟨_, _, rfl, rfl, ?_, ?_⟩⟩
    · intro _
      have hnothing := sends_of_refused service request now r r' r''
      exact ⟨hnothing.sentBy_eq fun d h ↦ h.calls, _, rfl⟩
    · intro p hadmits
      rw [asked] at hadmits
      cases hadmits
  | @ended r r' r'' p during finish outcome known asked rounds =>
    refine ⟨_, _, rfl, rfl, fun hmissing ↦ absurd hmissing known, fun _ ↦ ⟨_, _, rfl, rfl, ?_, ?_⟩⟩
    · intro hrefuses
      rw [asked] at hrefuses
      cases hrefuses
    · intro p' hadmits
      rw [asked] at hadmits
      cases hadmits
      obtain ⟨m, -, hduring⟩ := sends_of_rounds rounds
      refine ⟨during, _, rfl, fun d hd name ↦ hduring.breaker?_eq hd name, ?_⟩
      cases outcome <;> rfl

/-- A call that succeeds at its second attempt counts as one success; beside its service there is
one whose breaker is open, and a third one is unknown. -/
theorem breaker_told_once_of_two_attempts :
    let busy : Rpc.Error := ⟨.unavailable, "busy"⟩
    let replies : List Reply := [{ answer := .error busy }, { answer := .ok .null }]
    let request : Rpc.Request := { operation := "OrderInfo", requestId := "1" }
    let orders : Service :=
      { name := "orders", breaker := Breaker.new {} 0, backend := .ofReplies [("*", replies)] }
    let orders' : Service :=
      { orders with
        breaker := { orders.breaker with counts := ⟨1, 1, 0, 1, 0⟩ }
        backend := { orders.backend with calls := [("OrderInfo", 2)] } }
    let users : Service :=
      { name := "users", breaker := { Breaker.new {} 0 with state := .open, openedAt := some 0 } }
    let r : Registry := { services := [orders, users] }
    let r' : Registry :=
      { services := [orders', users]
        calls := [("orders", request), ("orders", request)]
        retries := [("orders", 1)] }
    let call (service : String) := call (RetryPolicy.ofConfig {}) service ⟨9000⟩ request
    (call "payments").run 0 r = (0, r, .done (.error (.unknownService "payments"))) ∧
      (∃ secs r', (call "users").run 0 r = (0, r', .done (.error (.circuitOpen "users" secs))) ∧
        r'.calls = []) ∧
      (call "orders").run 0 r = (1000, r', .done (.ok .null)) ∧
        ∃ ds, (call "orders").Does 0 ds 1000 (.ok .null) ∧
          ∃ n ≤ 3, sentBy ds = List.replicate n ("orders", request) := by
  intro busy replies request orders orders' users r r' call
  obtain ⟨-, hunknown, -⟩ := breaker_told_once_per_call {} "payments" ⟨9000⟩ request
  obtain ⟨-, -, hrefused, -⟩ := breaker_told_once_per_call {} "users" ⟨9000⟩ request
  obtain ⟨-, -, -, hends⟩ := breaker_told_once_per_call {} "orders" ⟨9000⟩ request
  have hrun : (call "orders").run 0 r = (1000, r', .done (.ok .null)) := by cbv
  refine ⟨hunknown 0 r (by cbv), ?_, hrun, ?_⟩
  · obtain ⟨secs, r', hrun, hcalls, -⟩ := hrefused 0 r users.breaker (by cbv) (by cbv)
    exact ⟨secs, r', hrun, hcalls⟩
  · obtain ⟨ds, hdoes, -⟩ := Activity.does_of_run hrun
    obtain ⟨-, hsent, -⟩ := hends 0 ds 1000 (.ok .null) hdoes
    exact ⟨ds, hdoes, hsent⟩

end RpcGateway.Calls.Registry
