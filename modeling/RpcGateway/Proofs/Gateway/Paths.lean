import RpcGateway.Proofs.Gateway.Comparison
import RpcGateway.Proofs.Gateway.Identities
import RpcGateway.Proofs.Gateway.Marking

/-!
# What paths tell to strangers

A request without credentials is refused before anything looks for its path among the routes, if the
path is not public. So a stranger who tries two such paths, even on two gateways with other routes
and services, gets the same answer at the same instant, but for an identifier that the gateway has
made up itself; and no service is called.
-/

namespace RpcGateway

open Activity Http Calls Access

/-- Calls that have not begun leave everything as it is. -/
theorem Calls.Dispatches.idle_of_nil {policy : RetryPolicy} {ds : List (Deed Registry)}
    (h : Dispatches policy ds []) : ∀ d ∈ ds, d.Idle := by
  generalize hcs : ([] : List Dispatch) = cs at h
  induction h with
  | nil => nofun
  | idle idle _ ih => exact List.forall_mem_cons.mpr ⟨idle, ih hcs⟩
  | call => cases hcs

/-- Headers without a token of a bearer, or without the key of a session. -/
def Access.LacksCredentials (h : Headers) : Prop :=
  (∀ token, ¬ Bears h token) ∨ Cookie.value? h Cookie.sessionName = none

theorem Access.exists_fault_of_lacksCredentials {h : Headers} (hlacks : LacksCredentials h) :
    ∃ f, credentials h (Cookie.value? h Cookie.sessionName) = .error f := by
  unfold credentials
  split
  · exact ⟨_, rfl⟩
  · rename_i token htoken
    cases hlacks with
    | inl hnone => exact absurd (bearerToken_eq_ok_iff.mp htoken) (hnone token)
    | inr hkey =>
      rw [hkey]
      exact ⟨_, rfl⟩

namespace Gateway

/-- States between which a request that is refused sees no difference. -/
structure SameEntry (s s' : State) : Prop where
  store : s.store = s'.store
  inFlight : s.inFlight = s'.inFlight

/-- Two identifiers that are one, or each a fresh one of its gateway. -/
def SameOrFresh (g g' : Gateway) (id id' : String) : Prop :=
  id = id' ∨ ∃ n n', id = g.ids.fresh n ∧ id' = g'.ids.fresh n'

theorem impartial_sameEntry (g g' : Gateway) :
    Impartial g g' SameEntry (SameOrFresh g g') where
  store_eq h := h.store
  inFlight_eq h := h.inFlight
  setStore _ h := ⟨rfl, h.inFlight⟩
  setInFlight _ h := ⟨h.store, rfl⟩
  countStoreError _ _ _ h := ⟨h.store, h.inFlight⟩
  freshId h := ⟨.inr ⟨_, _, rfl, rfl⟩, h.store, h.inFlight⟩
  countDenied h := ⟨h.store, h.inFlight⟩
  sameId _ := .inl rfl

/-- Two responses of one status and one body, unless these bodies tell of one error under two
identifiers. -/
structure Twins (id id' : String) (a a' : Response) : Prop where
  status : a.status = a'.status
  body : a.body = a'.body ∨ ∃ code message,
    a.body = (Response.errorBody code message (some id)).render ∧
      a'.body = (Response.errorBody code message (some id')).render

theorem twins_ofFault (f : Fault) (id id' : String) :
    Twins id id' (.ofFault f (some id)) (.ofFault f (some id')) := by
  refine ⟨?_, .inr ⟨f.code, f.publicMessage, ?_, ?_⟩⟩
  · rw [Response.status_ofFault, Response.status_ofFault]
  · exact Response.body_ofFault f _
  · exact Response.body_ofFault f _

/-- Two responses of one status and one body, unless each has a fresh identifier of its gateway,
which stands in the body and in the header. -/
structure SameButFreshId (g g' : Gateway) (a a' : Response) : Prop where
  status : a.status = a'.status
  body : a.body = a'.body ∨ ∃ code message n n',
    a.body = (Response.errorBody code message (some (g.ids.fresh n))).render ∧
      a'.body = (Response.errorBody code message (some (g'.ids.fresh n'))).render ∧
        a.Carries (g.ids.fresh n) ∧ a'.Carries (g'.ids.fresh n')

namespace SameButFreshId

variable {g g' : Gateway} {a a' : Response}

theorem refl (a : Response) : SameButFreshId g g' a a := ⟨rfl, .inl rfl⟩

theorem of_twins {id id' : String} (hid : SameOrFresh g g' id id') (h : Twins id id' a a') :
    SameButFreshId g g' (a.withRequestId id) (a'.withRequestId id') := by
  refine ⟨?_, ?_⟩
  · rw [Response.status_withRequestId, Response.status_withRequestId]
    exact h.status
  rw [Response.body_withRequestId, Response.body_withRequestId]
  obtain hbody | ⟨code, message, hbody, hbody'⟩ := h.body
  · exact .inl hbody
  obtain rfl | ⟨n, n', rfl, rfl⟩ := hid
  · exact .inl (hbody.trans hbody'.symm)
  · exact .inr ⟨code, message, n, n', hbody, hbody',
      Response.carries_withRequestId a (g.ids.wellFormed_fresh n),
      Response.carries_withRequestId a' (g'.ids.wellFormed_fresh n')⟩

theorem rateLimited {id id' : String} (hid : SameOrFresh g g' id id') :
    SameButFreshId g g' (.ofFault .rateLimited (some id)) (.ofFault .rateLimited (some id')) := by
  obtain rfl | ⟨n, n', rfl, rfl⟩ := hid
  · exact refl _
  · refine ⟨(twins_ofFault _ _ _).status, .inr ⟨_, _, n, n', Response.body_ofFault _ _,
      Response.body_ofFault _ _, ?_, ?_⟩⟩
    · exact Response.carries_ofFault _ (g.ids.wellFormed_fresh n)
    · exact Response.carries_ofFault _ (g'.ids.wellFormed_fresh n')

theorem coded (h : SameButFreshId g g' a a') (request : Headers) :
    SameButFreshId g g' (ContentCoding.apply request a) (ContentCoding.apply request a') := by
  refine ⟨?_, ?_⟩
  · rw [ContentCoding.status_apply, ContentCoding.status_apply]
    exact h.status
  rw [ContentCoding.body_apply, ContentCoding.body_apply]
  obtain hsame | ⟨code, message, n, n', hbody, hbody', hid, hid'⟩ := h.body
  · exact .inl hsame
  · exact .inr ⟨code, message, n, n', hbody, hbody', hid.apply request, hid'.apply request⟩

theorem marked (h : SameButFreshId g g' a a') (c : Config.Cors) (request : Headers) :
    SameButFreshId g g' { a with headers := Cors.mark c request a.headers }
      { a' with headers := Cors.mark c request a'.headers } := by
  refine ⟨h.status, ?_⟩
  obtain hsame | ⟨code, message, n, n', hbody, hbody', hid, hid'⟩ := h.body
  · exact .inl hsame
  · exact .inr ⟨code, message, n, n', hbody, hbody', hid.mark c request, hid'.mark c request⟩

/-- Which methods a path has shows in a header field only. -/
theorem completed (h : SameButFreshId g g' a a') (r : Request) (path : String)
    (allow allow' : List String) :
    SameButFreshId g g' (Gateway.completed r allow a)
      (Gateway.completed { r with path } allow' a') := by
  refine ⟨?_, ?_⟩
  · rw [status_completed, status_completed]
    exact h.status
  have hdropped : DropsBody r a ↔ DropsBody { r with path } a' := by
    unfold DropsBody opensTunnel
    rw [h.status]
  rw [body_completed, body_completed]
  by_cases hdrops : DropsBody r a
  · exact .inl (by rw [if_pos hdrops, if_pos (hdropped.mp hdrops)])
  rw [if_neg hdrops, if_neg (mt hdropped.mpr hdrops)]
  obtain hsame | ⟨code, message, n, n', hbody, hbody', hid, hid'⟩ := h.body
  · exact .inl hsame
  · exact .inr ⟨code, message, n, n', hbody, hbody', carries_completed hid, carries_completed hid'⟩

end SameButFreshId

/-! ## Strangers -/

variable {g g' : Gateway} {r : Request} {path : String} {ctx : Context}

/-- Without credentials it does not matter what is behind authentication. -/
theorem authenticatedBy_of_error {f : Fault} (call : Caller) (ctx : Context)
    (next : Context → Stage)
    (hauth : g.config.auth.enabled = true)
    (husers : isPublic g.config.auth.publicRoutes r.path = false)
    (hcredentials : credentials r.headers ctx.sessionKey = .error f) :
    authenticatedBy call g r ctx next = .done (.ofFault f (some ctx.requestId)) := by
  unfold authenticatedBy
  simp [hauth, husers, hcredentials]

theorem inStep_serve_of_lacksCredentials (hfront : SameFront g g')
    (hauth : g.config.auth.enabled = true) (hauth' : g'.config.auth.enabled = true)
    (husers : isPublic g.config.auth.publicRoutes r.path = false)
    (husers' : isPublic g'.config.auth.publicRoutes path = false)
    (hlacks : LacksCredentials r.headers) :
    InStep SameEntry (SameButFreshId g g') (g.serve r) (g'.serve { r with path }) := by
  refine InStep.map (Q := SameButFreshId g g') ?_ fun a a' h ↦ h.completed r path _ _
  refine inStep_bounded hfront path .refl fun limit ↦ ?_
  refine inStep_rateLimited (impartial_sameEntry g g') hfront path (fun _ _ ↦ .rateLimited) ?_
  refine inStep_crossOrigin hfront path .refl (fun _ _ h ↦ h.marked _ _) ?_
  refine inStep_compressed path (fun _ _ h ↦ h.coded _) ?_
  refine inStep_identified (impartial_sameEntry g g') hfront path (P := Twins)
    (fun _ _ _ _ hid h ↦ .of_twins hid h) fun id id' ctx _ hkey ↦ ?_
  refine inStep_throttled (impartial_sameEntry g g') hfront (twins_ofFault _ _ _)
    (twins_ofFault _ _ _) ?_
  refine inStep_caught (fun _ ↦ ⟨rfl, .inl rfl⟩) ?_
  obtain ⟨f, hf⟩ := exists_fault_of_lacksCredentials hlacks
  rw [← hkey] at hf
  rw [authenticatedBy_of_error _ { ctx with requestId := id } _ hauth husers hf,
    authenticatedBy_of_error (r := { r with path }) _ { ctx with requestId := id' } _ hauth' husers'
      hf]
  exact .done (twins_ofFault f id id')

/-- A stranger's request has no service called. -/
theorem behaves_serve_of_lacksCredentials (hauth : g.config.auth.enabled = true)
    (husers : isPublic g.config.auth.publicRoutes r.path = false)
    (hlacks : LacksCredentials r.headers) :
    Behaves g.policy (g.serve r) fun cs _ ↦ cs = [] := by
  have hpost : Lenient fun cs _ ↦ cs = [] := ⟨id, fun h _ ↦ h, fun h _ ↦ h⟩
  apply behaves_around hpost g r rfl (fun _ _ ↦ rfl)
  intro limit ctx _ hkey
  obtain ⟨f, hf⟩ := exists_fault_of_lacksCredentials hlacks
  rw [← hkey] at hf
  rw [authenticated, authenticatedBy_of_error _ ctx _ hauth husers hf]
  exact .done rfl rfl

/-- A stranger who asks two gateways for two paths that are not public, routed or not, gets the same
from both: if they start from the same counters and the same number of requests in flight, the two
requests come out at the same instant, with one status and one body up to the identifiers that the
gateways have made. Others may act in between: whenever one request is answered, the other can be
answered after meeting the same, and then its answer is the same. Neither request changes anything
of the services. -/
theorem strangers_learn_nothing_of_paths (g g' : Gateway) (r : Request) (path : String)
    (hfront : SameFront g g') (hauth : g.config.auth.enabled = true)
    (hauth' : g'.config.auth.enabled = true)
    (husers : isPublic g.config.auth.publicRoutes r.path = false)
    (husers' : isPublic g'.config.auth.publicRoutes path = false)
    (hlacks : LacksCredentials r.headers) :
    let first := g.serve r
    let second := g'.serve { r with path }
    (∀ now s s', SameEntry s s' →
      (first.run now s).1 = (second.run now s').1 ∧
        Outcome.Rel (SameButFreshId g g') (first.run now s).2.2 (second.run now s').2.2) ∧
      (∀ now ds answer, first.Proceeds now ds (some answer) →
        (∃ ds' answer', second.Proceeds now ds' (some answer') ∧ Abreast SameEntry ds ds') ∧
          ∀ now' ds' answer', second.Proceeds now' ds' (some answer') → Abreast SameEntry ds ds' →
            SameButFreshId g g' answer answer') ∧
      ∀ now ds answer, first.Proceeds now ds answer ∨ second.Proceeds now ds answer →
        ∀ d ∈ ds, d.after.registry = d.before.registry := by
  intro first second
  have hstep : InStep SameEntry (SameButFreshId g g') first second :=
    inStep_serve_of_lacksCredentials hfront hauth hauth' husers husers' hlacks
  refine ⟨?_, ?_, ?_⟩
  · intro now s s' hs
    obtain ⟨hinstant, -, houtcome⟩ := hstep.run now hs
    exact ⟨hinstant, houtcome⟩
  · intro now ds answer hfirst
    refine ⟨hstep.exists_abreast (fun s ↦ ⟨s, rfl, rfl⟩) hfirst, ?_⟩
    exact fun now' ds' answer' hsecond habreast ↦ hstep.of_proceeds hfirst hsecond habreast
  · intro now ds answer hproceeds
    -- Both histories are those of strangers, so that none of their calls has begun.
    have hidle {policy : RetryPolicy} {t : Stage} (ht : Behaves policy t fun cs _ ↦ cs = [])
        (h : t.Proceeds now ds answer) : ∀ d ∈ ds, d.after.registry = d.before.registry := by
      obtain ⟨cs, hcalls, rfl⟩ := ht h
      exact List.forall_mem_map.mp hcalls.idle_of_nil
    obtain hfirst | hsecond := hproceeds
    · exact hidle (behaves_serve_of_lacksCredentials hauth husers hlacks) hfirst
    · exact hidle (behaves_serve_of_lacksCredentials (r := { r with path }) hauth' husers' hlacks)
        hsecond

/-- A route, and a path that no gateway knows: both are refused for want of a token. -/
theorem strangers_learn_nothing_of_orders :
    let g' : Gateway := { ordersOnly with routes := ⟨[]⟩ }
    let outcome := ((ordersOnly.serve { orderRequest with headers := [] }).run 0 {}).2.2
    let outcome' := ((g'.serve
      { orderRequest with path := "/nowhere", headers := [] }).run 0 adminKnown).2.2
    outcome.result?.map Response.status = some 401 ∧
      Outcome.Rel (SameButFreshId ordersOnly g') outcome outcome' := by
  refine ⟨by decide +kernel, ?_⟩
  have hall := strangers_learn_nothing_of_paths ordersOnly { ordersOnly with routes := ⟨[]⟩ }
    { orderRequest with headers := [] } "/nowhere" ⟨rfl, rfl, rfl, rfl, rfl⟩ rfl rfl (by decide)
    (by decide) (.inr (by decide))
  exact (hall.1 0 {} adminKnown ⟨rfl, rfl⟩).2

end Gateway

end RpcGateway
