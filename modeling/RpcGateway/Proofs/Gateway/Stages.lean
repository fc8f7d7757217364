import RpcGateway.Proofs.Gateway.Behaviour

/-!
# The outer stages

The stages around authentication call no service. They answer with an error instead of what they
wrap, or rewrite its response but for the status; only a browser's question gets an answer of
another kind. So what is said of the calls and of the response holds of the whole if it holds of
what is within, as long as it allows for this.
-/
namespace RpcGateway

open Http Calls

/-! ## Statuses -/

/-- No code of a backend comes out as a success. -/
theorem Fault.le_backendStatus (c : Rpc.Code) : 400 ≤ backendStatus c := by
  cases c <;> decide

/-- Every fault is answered with an error status. -/
theorem Fault.le_status (f : Fault) : 400 ≤ f.status := by
  cases f with
  | backend e => exact le_backendStatus e.code
  | _ => simp [status]

namespace Http

/-- An identifier in the header leaves the status as it is. -/
@[simp]
theorem Response.status_withRequestId (r : Response) (id : String) :
    (r.withRequestId id).status = r.status := by
  unfold withRequestId
  split
  · rfl
  · rfl

/-- The status of an error is that of its fault, with or without an identifier. -/
@[simp]
theorem Response.status_ofFault (f : Fault) (id : Option String) :
    (ofFault f id).status = f.status := by
  unfold ofFault
  cases id with
  | none =>
    dsimp only
    split
    · rfl
    · rfl
  | some id =>
    dsimp only
    split
    · exact status_withRequestId _ id
    · exact status_withRequestId _ id

@[simp]
theorem ContentCoding.status_apply (request : Headers) (r : Response) :
    (apply request r).status = r.status := by
  unfold apply
  split
  · rfl
  · dsimp only
    cases preferred request with
    | identity => rfl
    | gzip => rfl

end Http

namespace Gateway

@[simp]
theorem status_withAllowed (allow : List String) (r : Response) :
    (withAllowed allow r).status = r.status := by
  unfold withAllowed
  split
  · rfl
  · rfl

@[simp]
theorem status_withLength (r : Response) : (withLength r).status = r.status := by
  unfold withLength
  split
  · rfl
  · rfl

/-- Completing a response leaves its status as it is. -/
theorem status_completed (r : Request) (allow : List String) (response : Response) :
    (completed r allow response).status = response.status := by
  unfold completed
  split
  · rfl
  · dsimp only
    split
    · simp
    · simp

/-! ## Stages -/

/-- A browser's question, which the gateway answers by itself. -/
def IsPreflight (g : Gateway) (r : Request) : Prop :=
  g.config.cors.enabled = true ∧ r.method = "OPTIONS"

/-- Whether what is said of a response allows for what outer stages do: they answer with an error
instead, and rewrite all but the status. -/
structure Lenient (post : List Dispatch → Option Response → Prop) : Prop where
  unseen : ∀ {cs response}, post cs (some response) → post cs none
  fault : ∀ {cs response}, post cs none → 400 ≤ response.status → post cs (some response)
  recast : ∀ {cs response response'}, post cs (some response) →
    response'.status = response.status → post cs (some response')

variable {next : Stage} {policy : RetryPolicy} {post : List Dispatch → Option Response → Prop}
  (hpost : Lenient post)

include hpost in
/-- An error in place of what is within is allowed for. -/
theorem behaves_error {response : Response} (hnone : post [] none)
    (herror : 400 ≤ response.status) : Behaves policy (.done response) post :=
  .done hnone (hpost.fault hnone herror)

include hpost in
theorem behaves_fault (f : Fault) (id : Option String) (hnone : post [] none) :
    Behaves policy (.done (.ofFault f id)) post := by
  apply behaves_error hpost hnone
  rw [Response.status_ofFault]
  exact f.le_status

include hpost in
/-- A stage that rewrites the response but for its status makes no difference. -/
theorem behaves_recast {f : Response → Response} (h : Behaves policy next post)
    (hstatus : ∀ response, (f response).status = response.status) :
    Behaves policy (next.map f) post := by
  apply h.map
  · exact fun cs hunseen ↦ hunseen
  · exact fun cs response h ↦ ⟨hpost.unseen h, hpost.recast h (hstatus response)⟩

include hpost in
/-- What breaks down is answered with an error, whatever it has called by then. -/
theorem behaves_caught (h : Behaves policy next post) : Behaves policy (caught next) post := by
  apply h.recovering
  intro cs hunseen
  apply hpost.fault hunseen
  rw [brokenDown, Response.status_ofFault]
  exact (Fault.internal _).le_status

/-- A request that is not let in is not asked about any further, and one that takes too long is
given up wherever it has come to. -/
theorem Behaves.throttled {g : Gateway} {ctx : Context} (h : Behaves policy next post)
    (hunseen : ∀ cs response, post cs (some response) → post cs none)
    (hoverloaded : post [] (some (.ofFault .overloaded (some ctx.requestId))))
    (hexceeded : ∀ cs, post cs none →
      post cs (some (.ofFault .deadlineExceeded (some ctx.requestId)))) :
    Behaves policy (g.throttled ctx next) post := by
  refine .act ?_ fun now s ↦ ?_
  · intro now s
    dsimp only [takePermit]
    split
    · rfl
    · rfl
  dsimp only [Activity.bind]
  split
  · exact .done h.nil hoverloaded
  refine .act (fun _ _ ↦ rfl) fun now s ↦ ?_
  have hends (limit : Time) : Behaves policy ((next.within limit).ending givePermit)
      fun cs response ↦ post cs response.join := h.within.ending fun _ _ ↦ rfl
  apply (hends _).map
  · exact fun cs hpost ↦ hpost
  · intro cs response hresponse
    cases response with
    | some response => exact ⟨hunseen cs response hresponse, hresponse⟩
    | none => exact ⟨hresponse, hexceeded cs hresponse⟩

include hpost in
/-- The cap on requests in flight answers with errors of its own, or with what is within. -/
theorem behaves_throttled (g : Gateway) (ctx : Context) (h : Behaves policy next post) :
    Behaves policy (g.throttled ctx next) post := by
  have hfault {cs : List Dispatch} (f : Fault) (hnone : post cs none) :
      post cs (some (.ofFault f (some ctx.requestId))) := by
    apply hpost.fault hnone
    rw [Response.status_ofFault]
    exact f.le_status
  apply h.throttled
  · exact fun _ _ ↦ hpost.unseen
  · exact hfault _ h.nil
  · exact fun _ ↦ hfault _

include hpost in
/-- Whatever identifier and deadline a request is given, its identity is not known yet, and its
session key is that of its cookie. -/
theorem behaves_identified (g : Gateway) (r : Request) {next : Context → Stage}
    (hnone : post [] none)
    (h : ∀ ctx : Context, ctx.identity = none →
      ctx.sessionKey = Cookie.value? r.headers Cookie.sessionName →
        Behaves policy (next ctx) post) : Behaves policy (g.identified r next) post := by
  refine .act ?_ fun now s ↦ ?_
  · intro now s
    dsimp only [takeId]
    split
    · rfl
    · rfl
  refine .act (fun _ _ ↦ rfl) fun now s ↦ ?_
  dsimp only
  split
  · exact .panic hnone
  · apply behaves_recast hpost
    · exact h _ rfl rfl
    · exact fun response ↦ response.status_withRequestId _

include hpost in
theorem behaves_compressed (r : Request) (h : Behaves policy next post) :
    Behaves policy (compressed r next) post :=
  behaves_recast hpost h (ContentCoding.status_apply r.headers)

include hpost in
/-- A question of a browser is answered here; all other responses are only marked. -/
theorem behaves_crossOrigin (g : Gateway) (r : Request)
    (hpreflight : ∀ response, g.IsPreflight r → post [] response)
    (h : Behaves policy next post) : Behaves policy (g.crossOrigin r next) post := by
  unfold crossOrigin
  cases hcors : g.config.cors.enabled with
  | false => exact h
  | true =>
    simp only [Bool.not_true, Bool.false_eq_true, ↓reduceIte]
    split
    · rename_i hmethod
      exact .done (hpreflight _ ⟨hcors, hmethod⟩) (hpreflight _ ⟨hcors, hmethod⟩)
    · exact behaves_recast hpost h fun _ ↦ rfl

include hpost in
theorem behaves_denied (g : Gateway) (hnone : post [] none) : Behaves policy g.denied post :=
  .act (fun _ _ ↦ rfl) fun _ _ ↦ behaves_fault hpost _ _ hnone

include hpost in
/-- The rate limiter works on its own store, and whoever it stops is answered with an error. -/
theorem behaves_rateLimited (g : Gateway) (r : Request) (h : Behaves policy next post) :
    Behaves policy (g.rateLimited r next) post := by
  unfold rateLimited
  cases g.config.rateLimit.enabled with
  | false => exact h
  | true =>
    simp only [Bool.not_true, Bool.false_eq_true, ↓reduceIte]
    have hverdict (allowed : Bool) :
        Behaves policy (if allowed = true then next else g.denied) post := by
      cases allowed with
      | true => exact h
      | false => exact behaves_denied hpost g h.nil
    have hcounted (t : Activity Access.CounterStore Access.Verdict) :
        Behaves policy (t.onPart State.store setStore) fun cs _ ↦ cs = [] := by
      apply Behaves.of_unnoticed
      · apply Activity.always_onPart
        exact fun _ _ _ ↦ rfl
      · exact fun _ ↦ rfl
    apply (hcounted _).bind
    · rintro cs rfl
      exact h.nil
    · rintro cs verdict rfl
      simp only [List.nil_append]
      cases verdict with
      | counted n => exact hverdict _
      | _ => exact .act (fun _ _ ↦ rfl) fun _ _ ↦ hverdict _

include hpost in
/-- A body that claims to be too long is answered with an error. -/
theorem behaves_bounded (g : Gateway) (r : Request) {next : Nat → Stage}
    (h : ∀ limit, Behaves policy (next limit) post) : Behaves policy (g.bounded r next) post := by
  unfold bounded
  dsimp only
  split
  · exact h _
  · split
    · exact behaves_error hpost (h 0).nil (by decide)
    · exact h _

include hpost in
/-- What holds of the stages from authentication on holds of the whole way. -/
theorem behaves_around (g : Gateway) (r : Request) (hnone : post [] none)
    (hpreflight : ∀ response, g.IsPreflight r → post [] response)
    (h : ∀ (limit : Nat) (ctx : Context), ctx.identity = none →
      ctx.sessionKey = Cookie.value? r.headers Cookie.sessionName →
        Behaves policy (g.authenticated r ctx fun ctx ↦
          g.metered r <| tunnelled r <| g.handle r limit ctx) post) :
    Behaves policy (g.serve r) post := by
  apply behaves_recast hpost _ (status_completed r (g.allowedFor r))
  apply behaves_bounded hpost g r
  intro limit
  apply behaves_rateLimited hpost g r
  apply behaves_crossOrigin hpost g r hpreflight
  apply behaves_compressed hpost r
  apply behaves_identified hpost g r hnone
  intro ctx hnobody hkey
  apply behaves_throttled hpost g ctx
  apply behaves_caught hpost
  exact h limit ctx hnobody hkey

end Gateway

end RpcGateway
