import RpcGateway.Proofs.Gateway.Secrecy
import RpcGateway.Proofs.Routing.Destinations

/-!
# Services that are asked for

The registry looks a service up by name whenever it is called, and a name that is not there has an
answer of its own. A gateway over an accepted configuration calls the services of its routes and the
one that knows users, all of them configured, and nothing that it does takes a service away or puts
another in its place. So no lookup fails, and it does not matter what would be answered if one did.
-/

namespace RpcGateway

open Activity Http Calls Json Access Measurement

/-! ## Results of a kind -/

namespace Activity

variable {σ α β : Type} {t : Activity σ α} {post : α → Prop}

/-- Whatever the activity comes to, if it does, is of a kind. -/
def ComesTo (post : α → Prop) : Activity σ α → Prop
  | done a => post a
  | panic => True
  | act _ next => ∀ now s, (next now s).ComesTo post
  | wait _ _ _ next => next.ComesTo post

theorem comesTo_bind {post : β → Prop} {f : α → Activity σ β} (hf : ∀ a, (f a).ComesTo post) :
    (t.bind f).ComesTo post := by
  induction t with
  | done a => exact hf a
  | panic => trivial
  | act change next ih => exact fun now s ↦ ih now s
  | wait wake age drop next ih => exact ih

/-- What is only done with other results is not done. -/
theorem ComesTo.bind_eq {f : α → Activity σ α} (h : t.ComesTo post)
    (hf : ∀ a, post a → f a = .done a) : t.bind f = t := by
  induction t with
  | done a => exact hf a h
  | panic => rfl
  | act change next ih =>
    unfold Activity.bind
    exact congrArg (act change) (funext fun now ↦ funext fun s ↦ ih now s (h now s))
  | wait wake age drop next ih =>
    unfold Activity.bind
    exact congrArg (wait wake age drop) (ih h)

end Activity

/-! ## What the registry offers -/

namespace Calls

/-- The services of a registry, with their routes. -/
def Registry.offered (r : Registry) : List (String × List Config.Route) :=
  r.services.map fun s ↦ (s.name, s.routes)

/-- The services of a configuration, with their routes. -/
def offeredBy (c : Config) : List (String × List Config.Route) :=
  c.services.map fun s ↦ (s.name, s.routes)

namespace Registry

variable {policy : RetryPolicy} {service : String} {deadline : Deadline} {request : Rpc.Request}
  {r : Registry}

theorem offered_update {change : Service → Service}
    (h : ∀ s, ((change s).name, (change s).routes) = (s.name, s.routes)) :
    (r.update service change).offered = r.offered := by
  unfold offered update
  rw [List.map_map]
  refine List.map_congr_left fun s _ ↦ ?_
  dsimp only [Function.comp]
  split
  · exact h s
  · rfl

theorem offered_updateBreaker (change : Breaker → Breaker) :
    (r.updateBreaker service change).offered = r.offered := offered_update fun _ ↦ rfl

theorem offered_acquire (now : Time) : (acquire service now r).2.offered = r.offered := by
  unfold acquire
  split
  · rfl
  · rename_i s _
    let change (_ : Breaker) : Breaker := (s.breaker.acquire now).2
    have hupdate : (r.updateBreaker service change).offered = r.offered :=
      offered_updateBreaker change
    dsimp only
    cases (s.breaker.acquire now).1 with
    | some p => exact hupdate
    | none => exact hupdate

theorem offered_retryAfterSecs (now : Time) :
    (retryAfterSecs service now r).2.offered = r.offered := by
  have hrefreshed : (r.updateBreaker service fun b ↦ b.refresh now).offered = r.offered :=
    offered_updateBreaker _
  unfold retryAfterSecs
  dsimp only
  split
  · exact hrefreshed
  · exact hrefreshed

/-- No call changes what is offered. -/
theorem always_offered :
    (call policy service deadline request).Always fun d ↦ d.after.offered = d.before.offered := by
  apply always_call_of_changes
  · exact fun _ _ ↦ offered_update fun _ ↦ rfl
  · exact fun d h ↦ congrArg (List.map _) h.services
  · exact fun now _ ↦ offered_acquire now
  · exact fun now _ ↦ offered_retryAfterSecs now
  · exact fun _ _ _ change h ↦ (offered_updateBreaker change).trans h

theorem isSome_service? (h : service ∈ r.offered.map Prod.fst) : (r.service? service).isSome := by
  unfold offered at h
  rw [List.map_map, List.mem_map] at h
  obtain ⟨s, hs, rfl⟩ := h
  rw [service?, List.find?_isSome]
  exact ⟨s, hs, decide_eq_true rfl⟩

/-- Something else in place of the answer that a service is not known. -/
def answerOr (missing : String → Activity Registry (Except Fault Value)) :
    Except Fault Value → Activity Registry (Except Fault Value)
  | .error (.unknownService name) => missing name
  | answer => .done answer

def callOr (missing : String → Activity Registry (Except Fault Value)) (policy : RetryPolicy)
    (service : String) (deadline : Deadline) (request : Rpc.Request) :
    Activity Registry (Except Fault Value) :=
  (call policy service deadline request).bind (answerOr missing)

/-- What a call comes to once its service has been found. -/
def callFound (policy : RetryPolicy) (service : String) (deadline : Deadline)
    (request : Rpc.Request) : Activity Registry (Except Fault Value) :=
  (Activity.modifyGet (acquire service)).bind fun
    | some p => admitted policy service deadline request p
    | none => rejected service

theorem call_eq : call policy service deadline request = .act keep fun _ r ↦
    if (r.service? service).isNone then .done (.error (.unknownService service))
    else callFound policy service deadline request := rfl

/-- A service that has been found is not unknown later. -/
theorem comesTo_callFound : (callFound policy service deadline request).ComesTo fun answer ↦
    ∀ name, answer ≠ .error (.unknownService name) := by
  refine comesTo_bind fun permit ↦ ?_
  cases permit with
  | none => exact comesTo_bind fun secs name h ↦ by cases h
  | some p =>
    refine comesTo_bind fun result now r name h ↦ ?_
    cases result with
    | ok reply => cases h
    | error e =>
      cases e with
      | exhausted n e =>
        simp only [Except.mapError, faultOf] at h
        split at h <;> cases h
      | _ => cases h

/-- Where a service is offered, it does not matter what is answered for one that is not known. -/
theorem inStep_callOr {offers : List (String × List Config.Route)}
    (h : service ∈ offers.map Prod.fst)
    (missing : String → Activity Registry (Except Fault Value)) :
    InStep (fun r r' ↦ r = r' ∧ r.offered = offers) Eq (call policy service deadline request)
      (callOr missing policy service deadline request) := by
  have hkept : (call policy service deadline request).Always fun d ↦
      d.before.offered = offers → d.after.offered = offers :=
    always_offered.mono fun _ hd hbefore ↦ hd.trans hbefore
  have hfound : (callFound policy service deadline request).bind (answerOr missing) =
      callFound policy service deadline request := by
    refine comesTo_callFound.bind_eq fun a ha ↦ ?_
    unfold answerOr
    split
    · exact absurd rfl (ha _)
    · rfl
  rw [call_eq] at hkept
  rw [callOr, call_eq]
  refine .act preserves_keep ?_
  rintro now r _ ⟨rfl, hr⟩
  have hknown : ¬ (r.service? service).isNone = true := by
    rw [Option.isNone_eq_false_iff.mpr (isSome_service? (hr ▸ h))]
    exact Bool.false_ne_true
  have hrest := (hkept now r).2
  simp only [if_neg hknown, hfound] at hrest ⊢
  exact .of_always hrest

end Registry

end Calls

namespace Gateway

/-! ## Requests in step -/

/-- One state, in which the registry offers certain services. -/
def Holding (offers : List (String × List Config.Route)) (s s' : State) : Prop :=
  s = s' ∧ s.registry.offered = offers

variable {g : Gateway} {offers : List (String × List Config.Route)}

theorem impartial_holding (g : Gateway) : Impartial g g (Holding offers) Eq where
  store_eq h := congrArg State.store h.1
  inFlight_eq h := congrArg State.inFlight h.1
  setStore c h := by
    obtain ⟨rfl, hs⟩ := h
    exact ⟨rfl, hs⟩
  setInFlight n h := by
    obtain ⟨rfl, hs⟩ := h
    exact ⟨rfl, hs⟩
  countStoreError now s s' h := by
    obtain ⟨rfl, hs⟩ := h
    exact ⟨rfl, hs⟩
  freshId h := by
    obtain ⟨rfl, hs⟩ := h
    exact ⟨rfl, rfl, hs⟩
  countDenied h := by
    obtain ⟨rfl, hs⟩ := h
    exact ⟨rfl, hs⟩
  sameId _ := rfl

/-- To services on offer it makes no difference how others are called. -/
theorem discreet_callOr (g : Gateway) (offers : List (String × List Config.Route))
    (missing : String → Activity Registry (Except Fault Value)) :
    g.Discreet (fun r r' ↦ r = r' ∧ r.offered = offers) (Holding offers)
      (· ∈ offers.map Prod.fst) (Registry.call g.policy) (Registry.callOr missing g.policy) where
  impartial := impartial_holding g
  registry hs := ⟨congrArg State.registry hs.1, hs.2⟩
  setRegistry hr hs := ⟨congrArg₂ Forward.setRegistry hr.1 hs.1, hr.2⟩
  metrics_eq hs := congrArg State.metrics hs.1
  setMetrics m hs := ⟨congrArg (fun s : State ↦ { s with metrics := m }) hs.1, hs.2⟩
  text_eq hr m := congrArg m.text hr.1
  answers service hservice deadline request := by
    refine (Registry.inStep_callOr hservice missing).mono ?_
    rintro answer _ rfl
    cases answer with
    | ok payload => exact .ok payload
    | error f => exact .error (.refl f)

/-! ## Traffic -/

/-- A service that is forwarded to is one that the configuration offers. -/
theorem mem_offeredBy_of_destination {c : Config} {start : Time} {recording : Bool}
    {ids : RequestId.Source} (haccepted : c.accepted = true)
    (hbuilt : build? c (Registry.ofConfig c start).services recording ids = some g)
    {service operation : String} {captures : PathPattern.Captures}
    (hdestination : g.destination r = .handler (.forward service operation) captures) :
    service ∈ (offeredBy c).map Prod.fst := by
  obtain ⟨path, method, p, hmem, -⟩ := exists_mounting_of_destination
    (mountable_of_accepted haccepted start) hbuilt hdestination
  rw [Registry.services_ofConfig start (Config.services_of_accepted haccepted).2] at hmem
  obtain ⟨t, ht, route, -, hmounted⟩ := RouteTable.mem_mountings_iff.mp hmem
  obtain ⟨s, hs, rfl⟩ := List.mem_map.mp ht
  obtain ⟨-, -, -, hhandler⟩ := RouteTable.mem_routeMountings_iff.mp hmounted
  cases hhandler
  exact List.mem_map.mpr ⟨_, List.mem_map_of_mem hs, rfl⟩

/-- Over an accepted configuration the registry has each service once, with the routes that it is
configured with, and whatever requests come and go, it stays so. Nobody ever has to be told that a
service is not known: if something else were put in the place of that answer, whatever it is, all
requests would come out the same, and leave the same state. -/
theorem services_asked_for_are_there {c : Config} {start : Time} {recording : Bool}
    {ids : RequestId.Source} (haccepted : c.accepted = true)
    (hbuilt : build? c (Registry.ofConfig c start).services recording ids = some g) :
    (Registry.ofConfig c start).offered = offeredBy c ∧ ((offeredBy c).map Prod.fst).Nodup ∧
      ∀ (missing : String → Activity Registry (Except Fault Value)) (state : State),
        state.registry.offered = offeredBy c → ∀ (now : Time) (events : List Event),
          let traffic := events.foldl g.afterEvent { now, state }
          let other :=
            events.foldl (afterEventBy (Registry.callOr missing g.policy) g) { now, state }
          traffic.state.registry.offered = offeredBy c ∧ traffic.state = other.state ∧
            ∀ name, traffic.result name = other.result name := by
  obtain ⟨-, hnames⟩ := Config.services_of_accepted haccepted
  refine ⟨?_, ?_, fun missing state hstate now events ↦ ?_⟩
  · rw [Registry.offered, Registry.services_ofConfig start hnames, List.map_map]
    rfl
  · rw [offeredBy, List.map_map]
    exact hnames
  · obtain ⟨-, rfl⟩ := parts_of_build? hbuilt
    have hauth (henabled : g.config.auth.enabled = true) :
        g.config.auth.service ∈ (offeredBy g.config).map Prod.fst := by
      rw [offeredBy, List.map_map]
      exact Config.mem_of_accepted haccepted henabled
    have hstart : Pool.InStep (Holding (offeredBy g.config)) Eq
        ({ now, state } : Pool State Response) { now, state } := ⟨rfl, ⟨rfl, hstate⟩, rfl, .nil⟩
    have htraffic := inStep_events (fun r ↦ (discreet_callOr g _ missing).serve
      (fun _ _ _ ↦ mem_offeredBy_of_destination haccepted hbuilt) hauth) events hstart
    refine ⟨?_, htraffic.state.1, fun name ↦ Outcome.rel_eq_iff.mp (htraffic.result name)⟩
    exact htraffic.state.2

/-- The services that are configured by default, for clients without limits. -/
def defaultServices : Config where
  rateLimit := { enabled := false }

/-- One of them knows an admin. -/
def defaultAdminKnown : State :=
  let admin : Value := .object [("user_id", .string "u1"), ("role", .string "admin")]
  { registry := (Registry.ofConfig defaultServices 0).update "users" fun s ↦
      { s with backend := .ofReplies [("*", [{ answer := .ok admin }])] } }

/-- An order is had from them, also if the gateway breaks down over services that it does not know.
-/
theorem default_services_are_there :
    let events : List Event := [.comes "c1" { orderRequest with path := "/api/orders/42" }]
    ∃ g, build? defaultServices (Registry.ofConfig defaultServices 0).services true .counted =
        some g ∧
      let other := events.foldl (afterEventBy (Registry.callOr (fun _ ↦ .panic) g.policy) g)
        { state := defaultAdminKnown }
      other.state.registry.calls.map Prod.fst = ["orders", "users"] ∧
        (other.result "c1").result?.map Response.status = some 200 := by
  intro events
  have haccepted : defaultServices.accepted = true := by decide +kernel
  have hserved :
      (build? defaultServices (Registry.ofConfig defaultServices 0).services true .counted).map
        (fun g ↦
          let traffic := events.foldl g.afterEvent { state := defaultAdminKnown }
          (traffic.state.registry.calls.map Prod.fst,
            (traffic.result "c1").result?.map Response.status)) =
        some (["orders", "users"], some 200) := by
    decide +kernel
  obtain ⟨g, hg, hboth⟩ := Option.map_eq_some_iff.mp hserved
  obtain ⟨hcalls, hstatus⟩ := Prod.mk.inj hboth
  have hoffered : defaultAdminKnown.registry.offered = offeredBy defaultServices := by
    decide +kernel
  obtain ⟨-, -, htraffic⟩ := services_asked_for_are_there haccepted hg
  obtain ⟨-, hstate, hresult⟩ := htraffic (fun _ ↦ .panic) defaultAdminKnown hoffered 0 events
  refine ⟨g, hg, ?_, ?_⟩
  · rw [← hstate]
    exact hcalls
  · rw [← hresult]
    exact hstatus

end Gateway

end RpcGateway
