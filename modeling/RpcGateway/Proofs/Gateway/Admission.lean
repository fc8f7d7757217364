import RpcGateway.Proofs.Activity.Schedules
import RpcGateway.Proofs.Gateway.Courses
import RpcGateway.Proofs.Gateway.Secrecy

/-!
# The way to a slot and past it

In front of the cap on requests in flight a request changes nothing but the counts of the clients
and what belongs to identifiers. Behind it, it is left with what has been let in: a first step that
sets the limit on its time, and then what the stages within do, under that limit, with the slot
given back at the end. These are the two parts in which whatever is said of all requests has to be
shown. Whatever is said of all crowds of requests holds of the traffic at a gateway.
-/

namespace RpcGateway.Gateway

open Activity Http Calls Access

variable {g : Gateway} {r : Request} {ctx : Context} {limit : Nat}

/-- A change in front of the cap. -/
structure Front (d : Deed State) : Prop where
  registry : d.after.registry = d.before.registry
  inFlight : d.after.inFlight = d.before.inFlight
  nextId : d.before.nextId ≤ d.after.nextId
  metrics : ∃ n, d.after.metrics = { d.before.metrics with storeErrors := n }

/-- What becomes of an answer within the cap on its way out. -/
def responding (g : Gateway) (r : Request) (ctx : Context) (a : Response) : Response :=
  g.sealed r (g.outward r (a.withRequestId ctx.requestId))

/-- A request that has come to the cap. -/
def arriving (g : Gateway) (r : Request) (limit : Nat) (ctx : Context) : Stage :=
  (g.answering r limit ctx).map (g.responding r ctx)

/-- What a request does within the cap. -/
def inside (g : Gateway) (r : Request) (limit : Nat) (ctx : Context) : Stage :=
  caught <| g.authenticated r ctx fun ctx ↦ g.metered r <| tunnelled r <| g.handle r limit ctx

/-- What is done within the cap and under the limit on its time, and then the way out. -/
def released (g : Gateway) (r : Request) (ctx : Context) (u : Activity State (Option Response)) :
    Stage :=
  (u.ending givePermit).map fun a ↦
    g.responding r ctx (a.getD (.ofFault .deadlineExceeded (some ctx.requestId)))

/-- What is left of a request that has been given a slot. -/
def letIn (g : Gateway) (r : Request) (limit : Nat) (ctx : Context) : Stage :=
  .act keep fun now _ ↦ g.released r ctx ((g.inside r limit ctx).within
    (now + g.config.server.responseTimeoutSecs.toNat * 1000))

/-- The response to a request for which there is no slot. -/
def refusal (g : Gateway) (r : Request) (ctx : Context) : Response :=
  g.responding r ctx (.ofFault .overloaded (some ctx.requestId))

/-- At the cap a request is let in or answered at once. -/
theorem arriving_eq (g : Gateway) (r : Request) (limit : Nat) (ctx : Context) :
    g.arriving r limit ctx =
      .act (fun now s ↦ (takePermit g.config.server.maxConcurrentRequests.toNat now s).2)
        fun _ s ↦ if s.inFlight < g.config.server.maxConcurrentRequests.toNat
          then g.letIn r limit ctx else .done (g.refusal r ctx) := by
  refine congrArg (Activity.act _) (funext fun now ↦ funext fun s ↦ ?_)
  dsimp only [Activity.modifyGet, Activity.bind, takePermit]
  by_cases hroom : s.inFlight < g.config.server.maxConcurrentRequests.toNat
  · simp only [if_pos hroom, Activity.bind]
    refine congrArg (Activity.act _) (funext fun now ↦ funext fun _ ↦ ?_)
    refine (Activity.map_map _ _ _).trans (congrArg (Activity.map · _) (funext fun a ↦ ?_))
    cases a with
    | none => rfl
    | some a => rfl
  · simp only [if_neg hroom]
    rfl

/-! ## Traffic -/

theorem orderly_afterEvent {p : Pool State Response} (h : p.Orderly) (g : Gateway) (e : Event) :
    (g.afterEvent p e).Orderly := by
  cases e with
  | comes name r => exact h.beginning name _
  | passes ms => exact h.advanceTo _
  | leaves name => exact h.abort name

theorem reaches_afterEvent {p : Pool State Response} (h : p.Orderly) (g : Gateway) (e : Event) :
    p.crowd.Reaches g.serve (g.afterEvent p e).crowd := by
  cases e with
  | comes name r => exact p.reaches_start name r
  | passes ms => exact p.reaches_advanceTo _
  | leaves name => exact Pool.reaches_abort h name

/-- The traffic at a gateway comes to what a crowd of its requests comes to. -/
theorem traffic_reached_by_crowd (g : Gateway) (events : List Event) (now : Time) (s : State) :
    ({ now, state := s } : Crowd State Response).Reaches g.serve
      (events.foldl g.afterEvent { now, state := s }).crowd := by
  have hrun {p : Pool State Response} (h : p.Orderly) :
      p.crowd.Reaches g.serve (events.foldl g.afterEvent p).crowd := by
    induction events generalizing p with
    | nil => exact .refl _
    | cons e events ih =>
      exact (reaches_afterEvent h g e).trans (ih (orderly_afterEvent h g e))
  exact hrun (p := { now, state := s }) ⟨.nil, List.forall_mem_nil _⟩

/-! ## Steps on the way -/

/-- Without cross-origin rules a response is only compressed on its way out. -/
theorem outward_of_disabled (hcors : g.config.cors.enabled = false) :
    g.outward r = ContentCoding.apply r.headers := by
  funext a
  simp [outward, hcors]

/-- A request that no stage in front stops is first given its identifier. -/
theorem serve_eq_of_unlimited (hrate : g.config.rateLimit.enabled = false)
    (hcors : g.config.cors.enabled = false) (hlength : claimedLength? r.headers = none) :
    g.serve r = (g.identified r (g.answering r g.config.security.maxBodySize.toNat)).map
      (g.sealed r ∘ g.outward r) := by
  simp only [serve, serveBy, stagesBy, bounded, hlength, rateLimited, hrate, crossOrigin, hcors,
    Bool.not_false, ↓reduceIte, compressed, outward_of_disabled hcors]
  rw [← Activity.map_map]
  rfl

/-- What a request does that goes on when it has come to the cap. -/
theorem resume_of_arriving {c : Crowd State Response} {place : Nat}
    (h : c.members[place]? = some (g.arriving r limit ctx)) :
    c.resume place =
      if c.state.inFlight < g.config.server.maxConcurrentRequests.toNat then
        { c with
          state := { c.state with inFlight := c.state.inFlight + 1 }
          members := c.members.set place (g.letIn r limit ctx) }
      else { c with members := c.members.set place (.done (g.refusal r ctx)) } := by
  rw [arriving_eq] at h
  simp only [Crowd.resume, h, goOn, takePermit]
  split
  · rfl
  · rfl

/-- Two steps from where a request is given its identifier and its deadline it has come to the cap.
-/
theorem resume_twice_of_identified {c : Crowd State Response} {place : Nat} {id : String}
    {s : State} {deadline : Deadline}
    (h : c.members[place]? =
      some ((g.identified r (g.answering r limit)).map (g.sealed r ∘ g.outward r)))
    (htaken : g.takeId r.headers c.now c.state = (id, s))
    (hdeadline : Deadline.after? c.now (g.config.timeouts.requestSecs.toNat * 1000) =
      some deadline) :
    (c.resume place).resume place =
      { c with
        state := s
        members := c.members.set place (g.arriving r limit
          { requestId := id, deadline
            sessionKey := Cookie.value? r.headers Cookie.sessionName }) } := by
  have hlt : place < c.members.length := (List.getElem?_eq_some_iff.mp h).1
  simp only [Crowd.resume, h, identified, Activity.modifyGet, Activity.bind, Activity.map, goOn,
    htaken, List.getElem?_set_self hlt, hdeadline, List.set_set, keep, bind_assoc]
  rfl

/-! ## All requests -/

theorem front_takeId (g : Gateway) (h : Headers) (now : Time) (s : State) :
    Front ⟨now, s, (g.takeId h now s).2⟩ := by
  unfold takeId
  split
  · exact ⟨rfl, rfl, Nat.le_refl _, _, rfl⟩
  · exact ⟨rfl, rfl, Nat.le_succ _, _, rfl⟩

theorem front_refl (now : Time) (s : State) : Front ⟨now, s, s⟩ :=
  ⟨rfl, rfl, Nat.le_refl _, _, rfl⟩

/-- What holds of what is answered in front of the cap and of what comes to the cap holds of all
requests, if changes in front of the cap do not matter. -/
theorem serve_induction {P : Stage → Prop} (hdone : ∀ a, P (.done a)) (hpanic : P .panic)
    (hbind : ∀ {β : Type} {t : Activity State β} {f : β → Stage}, t.Always Front →
      (∀ b, P (f b)) → P (t.bind f))
    (hdenied : P (g.denied.map (g.sealed r)))
    (harriving : ∀ limit ctx, P (g.arriving r limit ctx)) : P (g.serve r) := by
  have hact {change : Time → State → State} {next : Time → State → Stage}
      (hfront : ∀ now s, Front ⟨now, s, change now s⟩) (hnext : ∀ now s, P (next now s)) :
      P (.act change next) := by
    have hchanged : (Activity.modifyGet fun now s ↦ ((now, s), change now s)).Always Front :=
      fun now s ↦ ⟨hfront now s, trivial⟩
    exact hbind (f := fun x ↦ next x.1 x.2) hchanged fun x ↦ hnext x.1 x.2
  have hidentified (limit : Nat) :
      P ((g.identified r (g.answering r limit)).map (g.sealed r ∘ g.outward r)) := by
    refine hact (g.front_takeId r.headers) fun now s ↦ hact front_refl fun now' _ ↦ ?_
    dsimp only
    split
    · exact hpanic
    · rename_i deadline _
      let ctx : Context :=
        { requestId := (g.takeId r.headers now s).1, deadline
          sessionKey := Cookie.value? r.headers Cookie.sessionName }
      rw [← Activity.map, Activity.map_map]
      exact harriving limit ctx
  have hcrossed (limit : Nat) : P ((g.crossOrigin r (compressed r
      (g.identified r (g.answering r limit)))).map (g.sealed r)) := by
    have hout := hidentified limit
    unfold crossOrigin
    cases hcors : g.config.cors.enabled with
    | false =>
      simp only [Bool.not_false, ↓reduceIte, compressed]
      rw [Activity.map_map, ← outward_of_disabled hcors]
      exact hout
    | true =>
      have hsame : g.outward r = (fun a : Response ↦
          { a with headers := Cors.mark g.config.cors r.headers a.headers }) ∘
            ContentCoding.apply r.headers := by
        funext a
        simp [outward, hcors]
      simp only [Bool.not_true, Bool.false_eq_true, ↓reduceIte, compressed]
      split
      · exact hdone _
      · rw [Activity.map_map, Activity.map_map, Function.comp_assoc, ← hsame]
        exact hout
  have hlimited (limit : Nat) : P ((g.rateLimited r <| g.crossOrigin r <| compressed r <|
      g.identified r <| g.answering r limit).map (g.sealed r)) := by
    have hstore (t : Activity CounterStore Verdict) :
        (t.onPart State.store setStore).Always Front :=
      always_onPart (fun _ _ _ ↦ ⟨rfl, rfl, Nat.le_refl _, _, rfl⟩) t
    have hnoted (now : Time) (s : State) : Front ⟨now, s, countStoreError now s⟩ :=
      ⟨rfl, rfl, Nat.le_refl _, _, rfl⟩
    have hgoes (allowed : Bool) : P ((if allowed = true then g.crossOrigin r <| compressed r <|
        g.identified r <| g.answering r limit else g.denied).map (g.sealed r)) := by
      cases allowed with
      | true => exact hcrossed limit
      | false => exact hdenied
    unfold rateLimited
    split
    · exact hcrossed limit
    · rw [Activity.map_bind]
      refine hbind (hstore _) fun verdict ↦ ?_
      cases verdict with
      | counted n => exact hgoes _
      | failed => exact hact hnoted fun _ _ ↦ hgoes _
      | timedOut => exact hact hnoted fun _ _ ↦ hgoes _
  unfold serve serveBy stagesBy bounded
  dsimp only
  split
  · exact hlimited _
  · split
    · exact hdone _
    · exact hlimited _

/-! ## Within the cap -/

/-- A change of nothing but the services. -/
def RegistryOnly (d : Deed State) : Prop := ∃ r, d.after = { d.before with registry := r }

theorem registryOnly_refl (now : Time) (s : State) : RegistryOnly ⟨now, s, s⟩ := ⟨s.registry, rfl⟩

theorem always_onRegistry {α : Type} (t : Activity Registry α) :
    (Forward.onRegistry t).Always RegistryOnly :=
  always_onPart (fun _ r _ ↦ ⟨r, rfl⟩) t

theorem always_forward (policy : RetryPolicy) (secureCookies : Bool) (service operation : String)
    (limit : Nat) (ctx : Context) (captures : PathPattern.Captures) (body : Body) :
    (Forward.run (Registry.call policy) secureCookies service operation limit ctx captures
      body).Always RegistryOnly := by
  unfold Forward.run
  split
  · trivial
  split
  · exact ⟨registryOnly_refl, trivial⟩
  refine fun now s ↦ ⟨registryOnly_refl now s, registryOnly_refl, ?_⟩
  dsimp only [Activity.bind]
  split
  · trivial
  unfold Forward.withBody
  split
  · trivial
  · exact (always_onRegistry _).map

/-- The metrics are counted anew, but what the limiter counts. -/
structure Calm (d : Deed State) : Prop where
  inFlight : d.after.inFlight = d.before.inFlight
  nextId : d.after.nextId = d.before.nextId
  rateLimited : d.after.metrics.rateLimited = d.before.metrics.rateLimited

theorem RegistryOnly.calm {d : Deed State} (h : RegistryOnly d) : Calm d := by
  obtain ⟨r, hr⟩ := h
  exact ⟨by rw [hr], by rw [hr], by rw [hr]⟩

theorem always_calm_handle (g : Gateway) (r : Request) (limit : Nat) (ctx : Context) :
    (g.handle r limit ctx).Always Calm := by
  unfold handle handleBy
  split
  · trivial
  · trivial
  · trivial
  · unfold showMetrics
    split
    · exact fun now s ↦ ⟨⟨rfl, rfl, rfl⟩, trivial⟩
    · trivial
  · exact (always_forward _ _ _ _ _ _ _ _).mono fun _ ↦ RegistryOnly.calm

/-- Within the cap no slot is taken or given back, and the limiter does not count. -/
theorem always_calm_inside (g : Gateway) (r : Request) (limit : Nat) (ctx : Context) :
    (g.inside r limit ctx).Always Calm := by
  have hmetered (ctx : Context) :
      (g.metered r <| tunnelled r <| g.handle r limit ctx).Always Calm := by
    refine fun now s ↦ ⟨⟨rfl, rfl, rfl⟩, ?_⟩
    refine (always_calm_handle g r limit ctx).map.ending (fun _ _ ↦ ⟨rfl, rfl, rfl⟩) ?_
    exact fun _ _ _ h ↦ ⟨h.inFlight, h.nextId, h.rateLimited⟩
  unfold inside authenticated authenticatedBy
  apply Always.recovering
  split
  · exact hmetered ctx
  · split
    · trivial
    · refine ((always_onRegistry _).mono fun _ ↦ RegistryOnly.calm).bind fun answer ↦ ?_
      cases answer with
      | ok identity => exact hmetered _
      | error f => trivial

end RpcGateway.Gateway
