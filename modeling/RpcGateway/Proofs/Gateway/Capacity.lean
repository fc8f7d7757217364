import RpcGateway.Proofs.Activity.Leases
import RpcGateway.Proofs.Gateway.Admission
import RpcGateway.Proofs.Gateway.Identities

/-!
# The cap on requests in flight

A request takes a slot when it comes to the cap, if there is one left, and gives it back at its end:
with its response, after a breakdown, when its time is up or when its client goes away. So the
number of slots taken is the number of requests that are past the cap and have not ended, in any
order in which requests come, go on and end. A request that finds no slot is answered at once.
-/

namespace RpcGateway.Gateway

open Activity Http Calls

variable {g : Gateway} {r : Request} {ctx : Context} {limit max : Nat}

/-- What a change of a request is like, by whether it has a slot before the change and after it. -/
inductive Slots (max : Nat) : Option Unit → Option Unit → Deed State → Prop where
  | outside {d : Deed State} (registry : d.after.registry = d.before.registry)
      (inFlight : d.after.inFlight = d.before.inFlight) : Slots max none none d
  | enters {d : Deed State} (room : d.before.inFlight < max)
      (registry : d.after.registry = d.before.registry)
      (taken : d.after.inFlight = d.before.inFlight + 1) : Slots max none (some ()) d
  | inside {d : Deed State} (inFlight : d.after.inFlight = d.before.inFlight) :
      Slots max (some ()) (some ()) d
  | leaves {d : Deed State} (back : d.after.inFlight = d.before.inFlight - 1) :
      Slots max (some ()) none d

/-- With one slot taken, each change shows whether a slot has been taken or given back by it. -/
theorem clear_slots (max : Nat) : Lease.Clear (Slots max) := by
  refine ⟨{ inFlight := 1 }, ?_⟩
  rintro o o' p d hbefore h h'
  have hone : d.before.inFlight = 1 := congrArg State.inFlight hbefore
  cases h with
  | outside registry inFlight =>
    cases h' with
    | outside => rfl
    | leaves back => omega
  | enters room registry taken =>
    cases h' with
    | enters => rfl
    | inside inFlight => omega
  | inside inFlight =>
    cases h' with
    | enters room registry taken => omega
    | inside => rfl
  | leaves back =>
    cases h' with
    | outside registry inFlight => omega
    | leaves => rfl

/-- What a request is when it has been let in. -/
def LetIn (g : Gateway) (t : Stage) : Prop := ∃ r limit ctx, t = g.letIn r limit ctx

/-- A request past the cap: what is left of one that has been let in, until it ends. -/
def InFlight (g : Gateway) (t : Stage) : Prop := (∃ u, g.LetIn u ∧ u.Leaves t) ∧ ¬ t.Ended

theorem inFlight_letIn (g : Gateway) (r : Request) (limit : Nat) (ctx : Context) :
    g.InFlight (g.letIn r limit ctx) := ⟨⟨_, ⟨r, limit, ctx, rfl⟩, .refl _⟩, fun hended ↦ hended⟩

theorem LetIn.holds {t : Stage} (h : g.LetIn t) : t.Holds (Slots max) () := by
  obtain ⟨r, limit, ctx, rfl⟩ := h
  refine fun now s ↦ .inl ⟨.inside rfl, Holds.map ?_⟩
  refine Holds.ending ((always_calm_inside g r limit ctx).within _) (fun d h ↦ ?_) ?_
  · exact .inside h.inFlight
  · rintro now s s' (rfl | h)
    · exact .leaves rfl
    · exact .leaves (congrArg (· - 1) h.inFlight)

theorem kept_inFlight (g : Gateway) (max : Nat) : Kept (Slots max) fun _ t ↦ g.InFlight t :=
  kept_leaves LetIn.holds

/-- Of a slot nothing is said in front of the cap. -/
theorem nears_serve (g : Gateway) (r : Request) :
    (g.serve r).Nears (Slots g.config.server.maxConcurrentRequests.toNat)
      fun _ t ↦ g.InFlight t := by
  apply serve_induction
  · exact fun _ ↦ trivial
  · trivial
  · exact fun hfront ↦ Nears.bind (hfront.mono fun d h ↦ .outside h.registry h.inFlight)
  · exact fun now s ↦ .inl ⟨.outside rfl rfl, trivial⟩
  · intro limit ctx
    rw [arriving_eq]
    intro now s
    by_cases hroom : s.inFlight < g.config.server.maxConcurrentRequests.toNat
    · simp only [takePermit, if_pos hroom]
      exact .inr ⟨(), .enters hroom rfl rfl, g.inFlight_letIn r limit ctx⟩
    · simp only [takePermit, if_neg hroom]
      exact .inl ⟨.outside rfl rfl, trivial⟩

/-- The slots taken are those of the requests that hold one, and no more than there are. -/
def Counted (max : Nat) (x : Multiset Unit × State) : Prop :=
  x.2.inFlight = x.1.card ∧ x.1.card ≤ max

theorem Counted.turns {now : Time} {x y : Multiset Unit × State}
    (h : Crowd.Turns (Slots max) now x y) (hx : Counted max x) : Counted max y := by
  cases h with
  | same => exact hx
  | @deed rest o o' s s' deed =>
    simp only [Counted, Multiset.card_add, Multiset.coe_card] at hx ⊢
    cases deed with
    | outside registry inFlight =>
      dsimp only at inFlight
      omega
    | enters room registry taken =>
      simp only [Option.toList, List.length_nil, List.length_singleton] at room taken hx ⊢
      omega
    | inside inFlight =>
      dsimp only at inFlight
      omega
    | leaves back =>
      simp only [Option.toList, List.length_nil, List.length_singleton] at back hx ⊢
      omega

/-! ## Requests that the limiter stops -/

def SameSlots (d : Deed State) : Prop := d.after.inFlight = d.before.inFlight

def NoneStopped (d : Deed State) : Prop :=
  d.after.metrics.rateLimited = d.before.metrics.rateLimited

/-- A request that is let in is not stopped by the limiter any more. -/
theorem always_noneStopped_letIn (g : Gateway) (r : Request) (limit : Nat) (ctx : Context) :
    (g.letIn r limit ctx).Always NoneStopped := by
  have hinside : (g.inside r limit ctx).Always NoneStopped :=
    (always_calm_inside g r limit ctx).mono fun _ h ↦ h.rateLimited
  intro now s
  refine ⟨rfl, ((hinside.within _).ending ?_ ?_).map⟩
  · exact fun _ _ ↦ rfl
  · exact fun _ _ _ h ↦ h

theorem oneOf_serve (g : Gateway) (r : Request) :
    (g.serve r).OneOf SameSlots NoneStopped := by
  apply serve_induction
  · exact fun _ ↦ trivial
  · trivial
  · refine fun hfront ↦ OneOf.bind (hfront.mono fun d h ↦ ⟨h.inFlight, ?_⟩)
    obtain ⟨n, hn⟩ := h.metrics
    rw [NoneStopped, hn]
  · exact fun now s ↦ .inr (.inl ⟨rfl, trivial⟩)
  · intro limit ctx
    rw [arriving_eq]
    intro now s
    by_cases hroom : s.inFlight < g.config.server.maxConcurrentRequests.toNat
    · simp only [takePermit, if_pos hroom]
      exact .inr (.inr ⟨rfl, g.always_noneStopped_letIn r limit ctx⟩)
    · simp only [takePermit, if_neg hroom]
      exact .inl ⟨rfl, rfl, trivial⟩

/-! ## The cap -/

theorem status_refusal (g : Gateway) (r : Request) (ctx : Context) :
    (g.refusal r ctx).status = 503 := by
  rw [refusal, responding, Gateway.sealed, status_completed, status_outward,
    Response.status_withRequestId, Response.status_ofFault]
  rfl

/-- A request that has no slot leaves the services as they are. -/
theorem registry_eq_of_outside {c : Crowd State Response} {l : List (Option Unit × Stage)}
    {place : Nat} {t : Stage} (hlists : c.Lists (Slots max) (fun _ t ↦ g.InFlight t) l)
    (hmember : c.members[place]? = some t) (hout : ¬ g.InFlight t) :
    (c.resume place).state.registry = c.state.registry ∧
      (c.abort place).state.registry = c.state.registry := by
  have hkept := kept_inFlight g max
  rw [hlists.getElem? place, Option.map_eq_some_iff] at hmember
  obtain ⟨⟨o, t⟩, hplace, rfl⟩ := hmember
  have hstands : Stands (Slots max) (fun _ t ↦ g.InFlight t) o t :=
    hlists.stands _ (List.mem_of_getElem? hplace)
  cases o with
  | some k => exact absurd hstands hout
  | none =>
    have hmember : c.members[place]? = some t := by rw [hlists.getElem? place, hplace]; rfl
    simp only [Crowd.resume, Crowd.abort, hmember]
    constructor
    · obtain ⟨o', -, ⟨hsame, -⟩ | hdeed⟩ := Crowd.stands_goOn hkept hstands c.now c.state
      · rw [hsame]
      · cases hdeed with
        | outside registry => exact registry
        | enters room registry => exact registry
    · split
      · rename_i hrests
        obtain ⟨hsame, -⟩ | hdeed := Crowd.stands_dropped hkept hstands hrests c.now c.state
        · exact congrArg State.registry hsame
        · cases hdeed with
          | outside registry => exact registry
      · rfl

/-- In every crowd the slots taken are those of the requests past the cap. -/
theorem slots_run (g : Gateway) (now : Time) (s : State) (events : List (Crowd.Event Request)) :
    let max := g.config.server.maxConcurrentRequests.toNat
    let c := ({ now, state := { s with inFlight := 0 } } : Crowd State Response).run g.serve events
    ∃ l, c.Lists (Slots max) (fun _ t ↦ g.InFlight t) l ∧
      c.state.inFlight = c.number g.InFlight ∧ c.number g.InFlight ≤ max := by
  intro max c
  obtain ⟨l, hlists, htaken, hle⟩ := (Crowd.lists_nil now { s with inFlight := 0 }).run
    (kept_inFlight g max) (g.nears_serve ·) Counted.turns ⟨rfl, Nat.zero_le max⟩ events
  have hnumber : c.number g.InFlight = (Crowd.tickets l).card := by
    have hall := hlists.number_eq (kept_inFlight g max) (clear_slots max) fun _ ↦ True
    simpa using hall
  exact ⟨l, hlists, htaken.trans hnumber.symm, hnumber ▸ hle⟩

/-- So it is in the traffic at a gateway. -/
theorem slots_traffic (g : Gateway) (now : Time) (s : State) (events : List Event) :
    let p := events.foldl g.afterEvent { now, state := { s with inFlight := 0 } }
    p.state.inFlight = p.crowd.number g.InFlight ∧
      p.crowd.number g.InFlight ≤ g.config.server.maxConcurrentRequests.toNat := by
  intro p
  obtain ⟨steps, hsteps⟩ := g.traffic_reached_by_crowd events now { s with inFlight := 0 }
  obtain ⟨-, -, hslots⟩ := g.slots_run now s steps
  rw [hsteps] at hslots
  exact hslots

/-- At any time the slots taken are those of the requests past the cap, and no more than there are.
A request that comes to the cap is answered at once, and nothing else happens, if all slots are
taken, and else it takes one. No request without a slot calls a service or changes a breaker. When
all requests have ended no slot is taken. And a request that the limiter stops never has one. -/
theorem slots_taken_by_requests_in_flight (g : Gateway) (now : Time) (s : State)
    (events : List (Crowd.Event Request)) :
    let max := g.config.server.maxConcurrentRequests.toNat
    let c := ({ now, state := { s with inFlight := 0 } } : Crowd State Response).run g.serve events
    (c.state.inFlight = c.number g.InFlight ∧ c.number g.InFlight ≤ max) ∧
      (∀ place r limit ctx, c.members[place]? = some (g.arriving r limit ctx) →
        (c.number g.InFlight = max ↔
          c.resume place = { c with members := c.members.set place (.done (g.refusal r ctx)) }) ∧
        (c.number g.InFlight < max ↔
          c.resume place =
            { c with
              state := { c.state with inFlight := c.state.inFlight + 1 }
              members := c.members.set place (g.letIn r limit ctx) }) ∧
        (g.refusal r ctx).status = 503 ∧ g.InFlight (g.letIn r limit ctx)) ∧
      (∀ place t, c.members[place]? = some t → ¬ g.InFlight t →
        (c.resume place).state.registry = c.state.registry ∧
          (c.abort place).state.registry = c.state.registry) ∧
      ((∀ t ∈ c.members, t.Ended) → c.state.inFlight = 0) ∧
      ∀ r now ds response, (g.serve r).Proceeds now ds response →
        (∀ d ∈ ds, d.after.inFlight = d.before.inFlight) ∨
          ∀ d ∈ ds, d.after.metrics.rateLimited = d.before.metrics.rateLimited := by
  intro max c
  obtain ⟨l, hlists, htaken, hle⟩ := g.slots_run now s events
  change c.state.inFlight = c.number g.InFlight at htaken
  change c.number g.InFlight ≤ max at hle
  refine ⟨⟨htaken, hle⟩, fun place r limit ctx harrives ↦ ?_, ?_, fun hended ↦ ?_, ?_⟩
  · have hresume := resume_of_arriving harrives
    have hne : ∀ members members', ({ c with members } : Crowd State Response) ≠
        { c with
          state := { c.state with inFlight := c.state.inFlight + 1 }
          members := members' } := by
      intro members members' hsame
      have hslots := congrArg (fun c ↦ c.state.inFlight) hsame
      dsimp only at hslots
      omega
    refine ⟨?_, ?_, status_refusal g r ctx, g.inFlight_letIn r limit ctx⟩
    · by_cases hroom : c.state.inFlight < max
      · rw [hresume, if_pos hroom]
        exact iff_of_false (by omega) (hne _ _).symm
      · rw [hresume, if_neg hroom]
        exact iff_of_true (by omega) rfl
    · by_cases hroom : c.state.inFlight < max
      · rw [hresume, if_pos hroom]
        exact iff_of_true (by omega) rfl
      · rw [hresume, if_neg hroom]
        exact iff_of_false (by omega) (hne _ _)
  · exact fun place t ↦ registry_eq_of_outside hlists
  · rw [htaken, Crowd.number, List.countP_eq_zero]
    intro t ht
    simpa using fun hinFlight ↦ hinFlight.2 (hended t ht)
  · exact fun r now ds response hproceeds ↦ (oneOf_serve g r).of_proceeds hproceeds

/-- A gateway with one slot. -/
def oneAtATime : Gateway :=
  { ordersOnly with
    config :=
      { rateLimit := { enabled := false }
        cors := { enabled := false }
        server := { maxConcurrentRequests := 1 } } }

/-- The first of two requests has been let in when the second one comes. -/
theorem second_request_refused :
    let g := oneAtATime
    let s := adminKnown
    let c := ({ now := 0, state := { s with inFlight := 0 } } : Crowd State Response).run g.serve
      [.joins orderRequest, .goes 0, .goes 0, .goes 0, .joins orderRequest, .goes 1, .goes 1]
    c.state.inFlight = 1 ∧ c.number g.InFlight = 1 ∧ ∃ ctx,
      (g.refusal orderRequest ctx).status = 503 ∧
        c.resume 1 =
          { c with members := c.members.set 1 (.done (g.refusal orderRequest ctx)) } := by
  intro g s c
  have hserve : g.serve orderRequest =
      (g.identified orderRequest (g.answering orderRequest 2097152)).map
        (g.sealed orderRequest ∘ g.outward orderRequest) :=
    serve_eq_of_unlimited rfl rfl rfl
  let ctx (n : Nat) : Context :=
    { requestId := ordersOnly.ids.fresh n, deadline := ⟨30000⟩
      sessionKey := Cookie.value? orderRequest.headers Cookie.sessionName }
  let crowd (nextId inFlight : Nat) (members : List Stage) : Crowd State Response :=
    { now := 0, state := { adminKnown with nextId, inFlight }, members }
  let joined (c : Crowd State Response) : Crowd State Response :=
    { c with members := c.members ++ [g.serve orderRequest] }
  have hdeadline : Deadline.after? 0 (g.config.timeouts.requestSecs.toNat * 1000) =
      some ⟨30000⟩ := by decide
  have htaken (nextId inFlight : Nat) :
      ordersOnly.takeId orderRequest.headers 0 { adminKnown with nextId, inFlight } =
        (ordersOnly.ids.fresh nextId, { adminKnown with nextId := nextId + 1, inFlight }) := by
    have hnone : RequestId.ofHeaders? orderRequest.headers = none := by decide
    simp only [takeId, hnone]
  have hfirst : ((crowd 0 0 [g.serve orderRequest]).resume 0).resume 0 =
      crowd 1 0 [g.arriving orderRequest 2097152 (ctx 0)] := by
    rw [hserve]
    exact resume_twice_of_identified (c := crowd 0 0 [_]) rfl (htaken 0 0) hdeadline
  have hin : (crowd 1 0 [g.arriving orderRequest 2097152 (ctx 0)]).resume 0 =
      crowd 1 1 [g.letIn orderRequest 2097152 (ctx 0)] :=
    (resume_of_arriving rfl).trans (if_pos (by decide))
  have hsecond (t : Stage) : ((crowd 1 1 [t, g.serve orderRequest]).resume 1).resume 1 =
      crowd 2 1 [t, g.arriving orderRequest 2097152 (ctx 1)] := by
    rw [hserve]
    exact resume_twice_of_identified (c := crowd 1 1 [t, _]) rfl (htaken 1 1) hdeadline
  have hcrowd : c = crowd 2 1 [g.letIn orderRequest 2097152 (ctx 0),
      g.arriving orderRequest 2097152 (ctx 1)] := by
    show ((joined (((crowd 0 0 [g.serve orderRequest]).resume 0).resume 0 |>.resume 0)).resume
      1).resume 1 = _
    rw [hfirst, hin]
    exact hsecond _
  have hcap := slots_taken_by_requests_in_flight g 0 s [.joins orderRequest, .goes 0, .goes 0,
    .goes 0, .joins orderRequest, .goes 1, .goes 1]
  have hslots : c.state.inFlight = 1 := congrArg (fun c ↦ c.state.inFlight) hcrowd
  have hnumber : c.number g.InFlight = 1 := hcap.1.1.symm.trans hslots
  have harrives : c.members[1]? = some (g.arriving orderRequest 2097152 (ctx 1)) := by
    rw [hcrowd]
    rfl
  obtain ⟨hrefused, -, hstatus, -⟩ := hcap.2.1 1 orderRequest 2097152 (ctx 1) harrives
  exact ⟨hslots, hnumber, ctx 1, hstatus, hrefused.mp hnumber⟩

end RpcGateway.Gateway
