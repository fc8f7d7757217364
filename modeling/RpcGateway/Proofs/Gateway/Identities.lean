import RpcGateway.Gateway.LoneStage
import RpcGateway.Proofs.Access.BearerTokens
import RpcGateway.Proofs.Gateway.Stages

/-!
# Who is asking

Unless its path is public, a request reaches its route only under the identity that the service for
authentication has named for its credentials, in a call before that of the route. A request to a
public path reaches its route under no identity, whatever credentials it has. Any request that is
not let through is answered with an error.
-/

namespace RpcGateway

open Http Json Calls Access

/-! ## Credentials -/

namespace Access

/-- The user that an answer names. -/
structure Names (payload : Value) (identity : Rpc.Identity) : Prop where
  subject : payload.get? "user_id" = some (.string identity.subject)
  nonempty : identity.subject ≠ ""
  role : identity.role = ((payload.get? "role").bind Value.string?).getD ""

theorem string?_eq_some_iff {v : Value} {s : String} : v.string? = some s ↔ v = .string s := by
  cases v <;> simp [Value.string?]

theorem identityOf_eq_ok_iff {payload : Value} {identity : Rpc.Identity} :
    Authenticator.identityOf payload = .ok identity ↔ Names payload identity := by
  unfold Authenticator.identityOf
  constructor
  · intro h
    split at h
    · rename_i id hid
      split at h
      · cases h
      · rename_i hnonempty
        cases h
        obtain ⟨v, hv, hstring⟩ := Option.bind_eq_some_iff.mp hid
        exact ⟨string?_eq_some_iff.mp hstring ▸ hv, hnonempty, rfl⟩
    · cases h
  · intro h
    have hid : (payload.get? "user_id").bind Value.string? = some identity.subject := by
      rw [h.subject]
      rfl
    simp only [hid, if_neg h.nonempty, ← h.role]

end Access

/-! ## The calls of a request -/

namespace Gateway

variable {g : Gateway} {r : Request} {ctx : Context} {limit : Nat} {next : Stage}
  {policy : RetryPolicy} {post : List Dispatch → Option Response → Prop}

theorem always_unnoticed_showMetrics (g : Gateway) : g.showMetrics.Always Unnoticed := by
  unfold showMetrics
  split
  · exact fun now s ↦ ⟨rfl, trivial⟩
  · trivial

theorem behaves_tunnelled {post : List Dispatch → Prop}
    (h : Behaves policy next fun cs _ ↦ post cs) :
    Behaves policy (tunnelled r next) fun cs _ ↦ post cs :=
  h.map (fun _ hpost ↦ hpost) fun _ _ hpost ↦ ⟨hpost, hpost⟩

theorem behaves_metered (g : Gateway) (r : Request) (h : Behaves policy next post) :
    Behaves policy (g.metered r next) post :=
  .act (fun _ _ ↦ rfl) fun _ _ ↦ .ending (fun _ _ ↦ rfl) h

/-- To resolve credentials is one call, and a look at its answer. -/
theorem behaves_resolve (a : Authenticator) (c : Credentials) (id : String) (deadline : Deadline) :
    Behaves policy (Forward.onRegistry (a.resolve (Registry.call policy) c id deadline))
      fun cs result ↦
      (cs = [] ∧ result = none) ∨
        ∃ got, cs = [⟨a.service, deadline, a.request c id, got⟩] ∧
          (result = none ∨ ∃ answer, got = some answer ∧
            result = some (answer.bind Authenticator.identityOf)) := by
  have hmap : Forward.onRegistry (a.resolve (Registry.call policy) c id deadline) =
      (Forward.onRegistry (Registry.call policy a.service deadline (a.request c id))).map
        fun answer ↦ answer.bind Authenticator.identityOf := by
    unfold Forward.onRegistry Authenticator.resolve Activity.map
    rw [Activity.onPart_bind]
    congr 1
    funext answer
    cases answer <;> rfl
  rw [hmap]
  have hcalled : Behaves policy
      (Forward.onRegistry (Registry.call policy a.service deadline (a.request c id)))
      fun cs result ↦ (cs = [] ∧ result = none) ∨
        cs = [⟨a.service, deadline, a.request c id, result⟩] :=
    .call (.inl ⟨rfl, rfl⟩) fun _ ↦ .inr rfl
  apply hcalled.map
  · rintro cs (⟨hnil, -⟩ | hcall)
    · exact .inl ⟨hnil, rfl⟩
    · exact .inr ⟨none, hcall, .inl rfl⟩
  · rintro cs answer (⟨-, hnone⟩ | hcall)
    · cases hnone
    · exact ⟨.inr ⟨_, hcall, .inl rfl⟩, .inr ⟨_, hcall, .inr ⟨answer, rfl, rfl⟩⟩⟩

/-- The call by which the user of some credentials is asked for, and what has come of it. -/
def asking (g : Gateway) (ctx : Context) (c : Credentials) (got : Option (Except Fault Value)) :
    Dispatch :=
  ⟨g.config.auth.service, ctx.deadline,
    (Authenticator.ofConfig g.config.auth).request c ctx.requestId, got⟩

/-- What is behind authentication is reached at once if the path is public, and elsewhere after a
call that has named a user. -/
theorem Behaves.authenticated {next : Context → Stage} (hnone : post [] none)
    (hthrough : (!g.config.auth.enabled || isPublic g.config.auth.publicRoutes r.path) = true →
      Behaves g.policy (next ctx) post)
    (hrefused : ∀ f, post [] (some (.ofFault f (some ctx.requestId))))
    (hasked : ∀ c got, credentials r.headers ctx.sessionKey = .ok c →
      post [g.asking ctx c got] none)
    (hfailed : ∀ c got f, credentials r.headers ctx.sessionKey = .ok c →
      post [g.asking ctx c got] (some (.ofFault f (some ctx.requestId))))
    (hnamed : ∀ c payload identity, credentials r.headers ctx.sessionKey = .ok c →
      Names payload identity → Behaves g.policy (next { ctx with identity := some identity })
        fun cs response ↦ post (g.asking ctx c (some (.ok payload)) :: cs) response) :
    Behaves g.policy (g.authenticated r ctx next) post := by
  unfold Gateway.authenticated authenticatedBy
  split
  · rename_i hpublic
    exact hthrough hpublic
  split
  · exact .done hnone (hrefused _)
  rename_i c hcredentials
  -- The call has been made also if nobody looks at its answer any more.
  apply (behaves_resolve (Authenticator.ofConfig g.config.auth) c ctx.requestId ctx.deadline).bind
  · rintro cs (⟨rfl, -⟩ | ⟨got, rfl, -⟩)
    · exact hnone
    · exact hasked c got hcredentials
  · rintro cs answer (⟨-, hnothing⟩ | ⟨got, rfl, hnothing | ⟨answer', rfl, hanswer⟩⟩)
    · cases hnothing
    · cases hnothing
    cases answer with
    | error f => exact .done (hasked c _ hcredentials) (hfailed c _ f hcredentials)
    | ok identity =>
      cases answer' with
      | error f => cases hanswer
      | ok payload =>
        have hnames : Names payload identity :=
          identityOf_eq_ok_iff.mp (Option.some.inj hanswer).symm
        exact hnamed c payload identity hcredentials hnames

/-- A gateway with one route, for users only. -/
def ordersOnly : Gateway where
  config := { rateLimit := { enabled := false } }
  routes := ⟨[("/api/orders".toList.map .literal, [("GET", .forward "orders" "OrderInfo")])]⟩
  policy := ⟨1, 0⟩
  services := []
  recording := false
  ids := .counted

def orderRequest : Request where
  method := "GET"
  path := "/api/orders"
  headers := [("authorization", Utf8.encode "Bearer t"), ("cookie", Utf8.encode "session_key=k")]

/-- Services of which one knows an admin. -/
def adminKnown : State :=
  let replying (answer : Value) : Backend := .ofReplies [("*", [{ answer := .ok answer }])]
  let admin : Value := .object [("user_id", .string "u1"), ("role", .string "admin")]
  let users : Service := { name := "users", breaker := .new {} 0, backend := replying admin }
  let orders : Service := { name := "orders", breaker := .new {} 0, backend := replying .null }
  { registry := { services := [users, orders] } }

end Gateway

end RpcGateway
