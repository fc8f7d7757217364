import RpcGateway.Proofs.Dispatch.Disclosure
import RpcGateway.Proofs.Gateway.Comparison
import RpcGateway.Proofs.Gateway.Identities

/-!
# What backends say in confidence

What a backend says of a failure reaches the client only under the codes of failures that the client
has caused. Two gateways whose backends differ in nothing but what they say under other codes are
the same to their clients: whatever requests come in, and whenever clients go away, each request
comes out at the same instant with the same response, header fields and metrics included.
-/

namespace RpcGateway

open Activity Http Calls Json Access Measurement

/-! ## Responses to faults -/

theorem Fault.callerCaused_iff {c : Rpc.Code} : callerCaused c = true ↔ c ∈ Rpc.Code.told := by
  cases c <;> decide

/-- What a backend has said is shown to the caller only under the codes that are told. -/
theorem Fault.publicMessage_backend {e e' : Rpc.Error} (h : e.Alike e') :
    (backend e).publicMessage = (backend e').publicMessage := by
  unfold publicMessage
  simp only [← h.retryable_eq, ← h.code]
  by_cases htold : e.code ∈ Rpc.Code.told
  · rw [h.message htold]
  · rw [← callerCaused_iff, Bool.not_eq_true] at htold
    simp [htold]

/-- Faults that are alike are answered with one response. -/
theorem Http.Response.ofFault_eq_of_alike {f f' : Fault} (h : f.Alike f') (id : Option String) :
    ofFault f id = ofFault f' id := by
  cases h with
  | refl => rfl
  | @backend e e' alike =>
    have hstatus : (Fault.backend e).status = (Fault.backend e').status :=
      congrArg Fault.backendStatus alike.code
    have hcode : (Fault.backend e).code = (Fault.backend e').code :=
      congrArg Fault.backendCode alike.code
    unfold ofFault
    rw [hstatus, hcode, Fault.publicMessage_backend alike]
    rfl
  | retriesExhausted => rfl

/-- The metrics show breakers and counts, and no errors. -/
theorem Measurement.Metrics.text_eq_of_alike {r r' : Registry} (h : r.Alike r') (m : Metrics) :
    m.text r = m.text r' := by
  have hbreakers : (r.services.map fun s ↦
        (writtenService s.name, toString s.breaker.published.gauge.gauge)) =
      r'.services.map fun s ↦
        (writtenService s.name, toString s.breaker.published.gauge.gauge) := by
    have hservices := h.services
    generalize r.services = ss, r'.services = ss' at hservices
    induction hservices with
    | nil => rfl
    | cons hs _ ih => rw [List.map_cons, List.map_cons, ih, hs.name, hs.breaker]
  unfold text
  rw [h.rejections, h.retries, hbreakers]

namespace Gateway

/-! ## Services that are alike -/

/-- Two states whose services are alike, and all else the same. -/
structure State.Alike (s s' : State) : Prop where
  registry : s.registry.Alike s'.registry
  store : s.store = s'.store
  inFlight : s.inFlight = s'.inFlight
  metrics : s.metrics = s'.metrics
  nextId : s.nextId = s'.nextId

variable {s s' : State} {next next' : Stage}

theorem State.Alike.setMetrics (h : s.Alike s') (m : Metrics) :
    State.Alike { s with metrics := m } { s' with metrics := m } :=
  ⟨h.registry, h.store, h.inFlight, rfl, h.nextId⟩

theorem impartial_alike (g : Gateway) : Impartial g g State.Alike Eq where
  store_eq h := h.store
  inFlight_eq h := h.inFlight
  setStore _ h := ⟨h.registry, rfl, h.inFlight, h.metrics, h.nextId⟩
  setInFlight _ h := ⟨h.registry, h.store, rfl, h.metrics, h.nextId⟩
  countStoreError _ s s' h := by
    unfold countStoreError
    rw [h.metrics]
    exact h.setMetrics _
  freshId h := by
    refine ⟨congrArg g.ids.fresh h.nextId, h.registry, h.store, h.inFlight, h.metrics, ?_⟩
    exact congrArg (· + 1) h.nextId
  countDenied h := by
    rw [h.metrics]
    exact h.setMetrics _
  sameId _ := rfl

/-! ## Requests in step -/

/-- Two ways to call the services that are asked for, between states in which clients see no
difference: what a call comes to differs at most in what clients are not told. -/
structure Discreet (g : Gateway) (alike : Registry → Registry → Prop) (R : State → State → Prop)
    (asked : String → Prop) (call call' : Caller) : Prop where
  impartial : Impartial g g R Eq
  registry : ∀ {s s'}, R s s' → alike s.registry s'.registry
  setRegistry : ∀ {r r' s s'}, alike r r' → R s s' →
    R (Forward.setRegistry r s) (Forward.setRegistry r' s')
  metrics_eq : ∀ {s s'}, R s s' → s.metrics = s'.metrics
  setMetrics : ∀ {s s'} m, R s s' → R { s with metrics := m } { s' with metrics := m }
  text_eq : ∀ {r r'}, alike r r' → ∀ m : Metrics, m.text r = m.text r'
  answers : ∀ service, asked service → ∀ deadline request,
    InStep alike (SameButErrors Fault.Alike) (call service deadline request)
      (call' service deadline request)

namespace Discreet

variable {g : Gateway} {alike : Registry → Registry → Prop} {R : State → State → Prop}
  {asked : String → Prop} {call call' : Caller} {r : Request} {ctx : Context} {limit : Nat}
  {service : String}

theorem onRegistry (h : g.Discreet alike R asked call call') {α β : Type} {Q : α → β → Prop}
    {t : Activity Registry α} {u : Activity Registry β} (ht : InStep alike Q t u) :
    InStep R Q (Forward.onRegistry t) (Forward.onRegistry u) :=
  ht.onPart (fun _ _ hs ↦ h.registry hs) fun _ _ _ _ hr hs ↦ h.setRegistry hr hs

theorem withBody (h : g.Discreet alike R asked call call') (hservice : asked service)
    (secureCookies : Bool) (operation : String) (ctx : Context) (params : List (String × String))
    (body : Bytes) :
    InStep R Eq (Forward.withBody call secureCookies service operation ctx params body)
      (Forward.withBody call' secureCookies service operation ctx params body) := by
  unfold Forward.withBody
  split
  · exact .done rfl
  refine (h.onRegistry (h.answers service hservice _ _)).map ?_
  intro answer answer' hanswer
  cases hanswer with
  | ok reply => rfl
  | error alike => exact Response.ofFault_eq_of_alike alike _

/-- A service that is asked for is forwarded to in step. -/
theorem run (h : g.Discreet alike R asked call call') (hservice : asked service)
    (secureCookies : Bool) (operation : String) (limit : Nat) (ctx : Context)
    (captures : PathPattern.Captures) (body : Body) :
    InStep R Eq (Forward.run call secureCookies service operation limit ctx captures body)
      (Forward.run call' secureCookies service operation limit ctx captures body) := by
  unfold Forward.run
  split
  · exact .done rfl
  split
  · exact .hang
  refine (InStep.sleep _).bind fun _ _ _ ↦ ?_
  split
  · exact .done rfl
  · exact h.withBody hservice secureCookies operation ctx _ _

/-- The metrics that are shown are the same. -/
theorem showMetrics (h : g.Discreet alike R asked call call') :
    InStep R Eq g.showMetrics g.showMetrics := by
  unfold Gateway.showMetrics
  split
  · refine (InStep.modifyGet (Q := Eq) fun now s s' hs ↦ ?_).map ?_
    · dsimp only
      rw [← h.metrics_eq hs]
      exact ⟨h.text_eq (h.registry hs) _, h.setMetrics _ hs⟩
    · rintro text _ rfl
      rfl
  · exact .done rfl

/-- A handler goes in step if it forwards to a service that is asked for. -/
theorem handle (h : g.Discreet alike R asked call call')
    (hrouted : ∀ service operation captures,
      g.destination r = .handler (.forward service operation) captures → asked service) :
    InStep R Eq (handleBy call g r limit ctx) (handleBy call' g r limit ctx) := by
  unfold handleBy
  split
  · exact .done rfl
  · exact .done rfl
  · exact .done rfl
  · exact h.showMetrics
  · rename_i service operation captures hroute
    exact h.run (hrouted service operation captures hroute) _ _ _ _ _ _

theorem metered (h : g.Discreet alike R asked call call') (r : Request)
    (hnext : InStep R Eq next next') : InStep R Eq (g.metered r next) (g.metered r next') := by
  refine .act ?_ fun begun _ _ _ ↦ .ending ?_ hnext
  · intro now s s' hs
    dsimp only
    rw [h.metrics_eq hs]
    exact h.setMetrics _ hs
  · intro now s s' hs
    dsimp only
    rw [h.metrics_eq hs]
    exact h.setMetrics _ hs

theorem resolve (h : g.Discreet alike R asked call call') (a : Authenticator)
    (hservice : asked a.service) (c : Credentials) (id : String) (deadline : Deadline) :
    InStep alike (SameButErrors Fault.Alike) (a.resolve call c id deadline)
      (a.resolve call' c id deadline) := by
  refine (h.answers a.service hservice deadline _).map ?_
  intro answer answer' hanswer
  cases hanswer with
  | error alike => exact .error alike
  | ok payload =>
    dsimp only
    cases Authenticator.identityOf payload with
    | ok identity => exact .ok identity
    | error f => exact .error (.refl f)

/-- Authentication goes in step if the service that knows users is asked for wherever it is needed.
-/
theorem authenticated (h : g.Discreet alike R asked call call')
    (hauth : g.config.auth.enabled = true → asked g.config.auth.service)
    {next next' : Context → Stage} (hnext : ∀ ctx, InStep R Eq (next ctx) (next' ctx)) :
    InStep R Eq (authenticatedBy call g r ctx next) (authenticatedBy call' g r ctx next') := by
  unfold authenticatedBy
  split
  · exact hnext ctx
  rename_i hneeded
  split
  · exact .done rfl
  have henabled : g.config.auth.enabled = true := by
    cases henabled : g.config.auth.enabled with
    | true => rfl
    | false => simp [henabled] at hneeded
  refine (h.onRegistry (h.resolve (.ofConfig g.config.auth) (hauth henabled) _ _ _)).bind ?_
  intro answer answer' hanswer
  cases hanswer with
  | ok identity => exact hnext _
  | error alike => exact .done (Response.ofFault_eq_of_alike alike _)

/-- The whole way of a request goes in step. -/
theorem serve (h : g.Discreet alike R asked call call')
    (hrouted : ∀ service operation captures,
      g.destination r = .handler (.forward service operation) captures → asked service)
    (hauth : g.config.auth.enabled = true → asked g.config.auth.service) :
    InStep R Eq (serveBy call g r) (serveBy call' g r) := by
  refine inStep_around h.impartial fun limit ctx ↦ h.authenticated hauth fun ctx ↦ ?_
  exact h.metered r (inStep_tunnelled (h.handle hrouted))

end Discreet

/-- All services may be asked for if they are alike. -/
theorem discreet_alike (g : Gateway) :
    g.Discreet Registry.Alike State.Alike (fun _ ↦ True) (Registry.call g.policy)
      (Registry.call g.policy) where
  impartial := impartial_alike g
  registry hs := hs.registry
  setRegistry hr hs := ⟨hr, hs.store, hs.inFlight, hs.metrics, hs.nextId⟩
  metrics_eq hs := hs.metrics
  setMetrics m hs := hs.setMetrics m
  text_eq := Metrics.text_eq_of_alike
  answers service _ deadline request := Registry.inStep_call g.policy service deadline request

/-- A request goes in step with itself if the services are alike. -/
theorem inStep_serve (g : Gateway) (r : Request) :
    InStep State.Alike Eq (g.serve r) (g.serve r) :=
  (discreet_alike g).serve (fun _ _ _ _ ↦ trivial) fun _ ↦ trivial

/-! ## Traffic -/

/-- What happens at a gateway: a request comes, under a name for whoever waits for it, time passes,
or whoever waits goes away. -/
inductive Event where
  | comes (name : String) (r : Request)
  | passes (ms : Nat)
  | leaves (name : String)

/-- The requests that are under way after an event, if the services are called as given. -/
def afterEventBy (call : Caller) (g : Gateway) (p : Pool State Response) :
    Event → Pool State Response
  | .comes name r => p.start name (serveBy call g r)
  | .passes ms => p.advance ms
  | .leaves name => p.abort name

/-- The requests that are under way after an event. -/
def afterEvent (g : Gateway) : Pool State Response → Event → Pool State Response :=
  afterEventBy (Registry.call g.policy) g

/-- If all requests go in step, so does all traffic. -/
theorem inStep_events {g : Gateway} {R : State → State → Prop} {call call' : Caller}
    (hserve : ∀ r, InStep R Eq (serveBy call g r) (serveBy call' g r)) (events : List Event)
    {p p' : Pool State Response} (h : p.InStep R Eq p') :
    (events.foldl (afterEventBy call g) p).InStep R Eq
      (events.foldl (afterEventBy call' g) p') := by
  induction events generalizing p p' with
  | nil => exact h
  | cons e events ih =>
    refine ih ?_
    cases e with
    | comes name r => exact h.start name (hserve r)
    | passes ms => exact h.advance ms
    | leaves name => exact h.abort name

/-- Clients cannot tell two states of a gateway apart in which the services differ in nothing but
what they say of failures that clients have not caused. A request that is left alone comes out at
the same instant with the same response, from its route or from authentication, and leaves states
that cannot be told apart either. If others act in between, the response still depends on what the
request has met, and on nothing that it is not told. So it is for any number of requests that come
and go: each of them has the same response at any time. -/
theorem texts_of_backends_stay_hidden (g : Gateway) {s s' : State} (h : s.Alike s') :
    (∀ r now, ((g.serve r).run now s).1 = ((g.serve r).run now s').1 ∧
        ((g.serve r).run now s).2.1.Alike ((g.serve r).run now s').2.1 ∧
          ((g.serve r).run now s).2.2 = ((g.serve r).run now s').2.2) ∧
      (∀ r now now' ds ds' answer answer', (g.serve r).Proceeds now ds (some answer) →
        (g.serve r).Proceeds now' ds' (some answer') → Abreast State.Alike ds ds' →
          answer = answer') ∧
      ∀ (now : Time) (events : List Event) (name : String),
        (events.foldl g.afterEvent { now, state := s }).result name =
          (events.foldl g.afterEvent { now, state := s' }).result name := by
  refine ⟨?_, ?_, ?_⟩
  · intro r now
    obtain ⟨hinstant, hstate, houtcome⟩ := (inStep_serve g r).run now h
    exact ⟨hinstant, hstate, Outcome.rel_eq_iff.mp houtcome⟩
  · intro r now now' ds ds' answer answer' hfirst hsecond habreast
    exact (inStep_serve g r).of_proceeds hfirst hsecond habreast
  · intro now events name
    have hstart : Pool.InStep State.Alike Eq ({ now, state := s } : Pool State Response)
        { now, state := s' } := ⟨rfl, h, rfl, .nil⟩
    exact Outcome.rel_eq_iff.mp ((inStep_events (inStep_serve g) events hstart).result name)

/-- Services of which one knows an admin, and the other cannot be reached, for a reason of its own.
-/
def ordersDown (reason : String) : State :=
  let admin : Value := .object [("user_id", .string "u1"), ("role", .string "admin")]
  let users : Service :=
    { name := "users", breaker := .new {} 0, backend := ⟨fun _ _ ↦ { answer := .ok admin }, []⟩ }
  let failing : Backend := ⟨fun _ _ ↦ { answer := .error ⟨.unavailable, reason⟩ }, []⟩
  let orders : Service := { name := "orders", breaker := .new {} 0, backend := failing }
  { registry := { services := [users, orders] } }

/-- An order cannot be had, and nobody is told why. -/
theorem reason_of_orders_stays_hidden :
    let outcome (reason : String) :=
      ((ordersOnly.serve orderRequest).run 0 (ordersDown reason)).2.2
    (outcome "db-1 is full").result?.map Response.status = some 503 ∧
      outcome "db-1 is full" = outcome "db-2 refuses the password" := by
  intro outcome
  have halike (reason reason' : String) : (ordersDown reason).Alike (ordersDown reason') := by
    refine ⟨⟨?_, rfl, rfl, rfl⟩, rfl, rfl, rfl, rfl⟩
    refine .cons ⟨rfl, rfl, rfl, rfl, fun _ _ ↦ ⟨rfl, .ok _⟩⟩ (.cons ⟨rfl, rfl, rfl, rfl, ?_⟩ .nil)
    have hhidden : Rpc.Code.unavailable ∉ Rpc.Code.told := by decide
    exact fun _ _ ↦ ⟨rfl, .error ⟨rfl, fun htold ↦ absurd htold hhidden⟩⟩
  refine ⟨by decide +kernel, ?_⟩
  exact ((texts_of_backends_stay_hidden ordersOnly (halike _ _)).1 orderRequest 0).2.2

end Gateway

end RpcGateway
