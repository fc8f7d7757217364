import RpcGateway.Proofs.Dispatch.Timely
import RpcGateway.Proofs.Gateway.Courses
import RpcGateway.Proofs.Gateway.Identities

/-!
# One deadline for a request

A request is given its deadline together with its identifier. Whatever is done for it afterwards is
measured against that one instant: the call that asks for the user and the call of the route share
the time that is left, attempts and waits included. Only the client can make the response later, by
keeping back its body, and then the cap on the time of a request bounds it.
-/

namespace RpcGateway.Gateway

open Activity Http Calls Access

variable {g : Gateway} {r : Request} {ctx : Context} {limit : Nat} {now deadline : Time}
  {next : Stage} {ds : List (Deed State)} {response : Option Response}

/-! ## From the identifier on -/

/-- The way of a request from the stage that gives it its identifier and its deadline. -/
def passed (g : Gateway) (r : Request) (limit : Nat) : Stage :=
  (g.identified r (g.answering r limit)).map (g.sealed r ∘ g.outward r)

theorem passed_of_crossOrigin
    (h : (g.crossOrigin r (compressed r (g.identified r (g.answering r limit)))).Proceeds now ds
      response) :
    ds = [] ∨ (g.passed r limit).Proceeds now ds (response.map (g.sealed r)) := by
  have hpassed {first : Option Response}
      (h : (g.identified r (g.answering r limit)).Proceeds now ds first) :
      (g.passed r limit).Proceeds now ds ((first.map (g.outward r)).map (g.sealed r)) := by
    rw [Option.map_map]
    exact h.map _
  unfold crossOrigin at h
  cases hcors : g.config.cors.enabled with
  | false =>
    have hsame : g.outward r = ContentCoding.apply r.headers := by
      funext a
      simp [outward, hcors]
    simp only [hcors, Bool.not_false, ↓reduceIte] at h
    obtain ⟨first, hgoes, rfl⟩ := h.of_map
    exact .inr (hsame ▸ hpassed hgoes)
  | true =>
    have hsame : g.outward r = (fun a : Response ↦
        { a with headers := Cors.mark g.config.cors r.headers a.headers }) ∘
          ContentCoding.apply r.headers := by
      funext a
      simp [outward, hcors]
    simp only [hcors, Bool.not_true, Bool.false_eq_true, ↓reduceIte] at h
    split at h
    · exact .inl h.of_done.1
    · obtain ⟨second, hcoded, rfl⟩ := h.of_map
      obtain ⟨first, hgoes, rfl⟩ := hcoded.of_map
      have hout : (first.map (ContentCoding.apply r.headers)).map (fun a : Response ↦
          { a with headers := Cors.mark g.config.cors r.headers a.headers }) =
            first.map (g.outward r) := by
        rw [Option.map_map, hsame]
      exact .inr (hout ▸ hpassed hgoes)

theorem always_unnoticed_denied (g : Gateway) : g.denied.Always Unnoticed :=
  fun _ _ ↦ ⟨rfl, trivial⟩

/-- A request is stopped before it gets a deadline, without any service noticing, or no service
notices it until then. -/
theorem exists_passed_of_serve (h : (g.serve r).Proceeds now ds response) :
    (∀ d ∈ ds, Unnoticed d) ∨ ∃ limit mid ds₁ ds₂, ds = ds₁ ++ ds₂ ∧ (∀ d ∈ ds₁, Unnoticed d) ∧
      (g.passed r limit).Proceeds mid ds₂ response := by
  obtain ⟨first, hstages, rfl⟩ := h.of_map
  have hlimited {limit : Nat} (h : (g.rateLimited r <| g.crossOrigin r <| compressed r <|
      g.identified r <| g.answering r limit).Proceeds now ds first) :
      (∀ d ∈ ds, Unnoticed d) ∨ ∃ limit mid ds₁ ds₂, ds = ds₁ ++ ds₂ ∧ (∀ d ∈ ds₁, Unnoticed d) ∧
        (g.passed r limit).Proceeds mid ds₂ (first.map (g.sealed r)) := by
    obtain ⟨ds₁, ds₂, rfl, hquiet, ⟨rfl, -⟩ | ⟨mid, hgoes | hdenied⟩⟩ := exists_of_rateLimited h
    · rw [List.append_nil]
      exact .inl hquiet
    · obtain rfl | hpassed := passed_of_crossOrigin hgoes
      · rw [List.append_nil]
        exact .inl hquiet
      · exact .inr ⟨limit, mid, ds₁, ds₂, rfl, hquiet, hpassed⟩
    · have hrest := g.always_unnoticed_denied.of_proceeds hdenied
      exact .inl (List.forall_mem_append.mpr ⟨hquiet, hrest⟩)
  unfold stagesBy bounded at hstages
  dsimp only at hstages
  split at hstages
  · exact hlimited hstages
  · split at hstages
    · rw [hstages.of_done.1]
      exact .inl nofun
    · exact hlimited hstages

/-! ## Attempts -/

/-- All calls have one deadline. -/
def CalledBy (deadline : Deadline) (cs : List Dispatch) : Prop := ∀ c ∈ cs, c.deadline = deadline

theorem calledBy_nil {deadline : Deadline} : CalledBy deadline [] := List.forall_mem_nil _

theorem calledBy_singleton {deadline : Deadline} (service : String) (request : Rpc.Request)
    (result : Option (Except Fault Json.Value)) :
    CalledBy deadline [⟨service, deadline, request, result⟩] := List.forall_mem_singleton.mpr rfl

theorem calledBy_handle (g : Gateway) (r : Request) (limit : Nat) (ctx : Context) :
    Behaves g.policy (g.handle r limit ctx) fun cs _ ↦ CalledBy ctx.deadline cs := by
  unfold handle handleBy
  split
  · exact .done calledBy_nil calledBy_nil
  · exact .done calledBy_nil calledBy_nil
  · exact .done calledBy_nil calledBy_nil
  · exact .of_unnoticed g.always_unnoticed_showMetrics fun _ ↦ calledBy_nil
  · rename_i service operation captures hroute
    apply Behaves.forward
    · exact calledBy_nil
    · exact fun _ ↦ calledBy_nil
    · exact calledBy_nil
    · exact fun _ ↦ calledBy_nil
    · exact fun _ _ _ ↦ calledBy_singleton _ _ _
    · exact fun _ _ _ ↦ calledBy_singleton _ _ _
    · exact fun _ _ _ ↦ calledBy_singleton _ _ _

/-- The call that asks for the user has the deadline of the request too. -/
theorem calledBy_answering (g : Gateway) (r : Request) (limit : Nat) (ctx : Context) :
    Behaves g.policy (g.answering r limit ctx) fun cs _ ↦ CalledBy ctx.deadline cs := by
  have hnext (ctx : Context) : Behaves g.policy (g.metered r <| tunnelled r <| g.handle r limit ctx)
      fun cs _ ↦ CalledBy ctx.deadline cs :=
    behaves_metered g r (behaves_tunnelled (g.calledBy_handle r limit ctx))
  refine Behaves.throttled ?_ (fun _ _ h ↦ h) calledBy_nil fun _ h ↦ h
  refine Behaves.recovering ?_ fun _ h ↦ h
  apply Behaves.authenticated
  · exact calledBy_nil
  · exact fun _ ↦ hnext ctx
  · exact fun _ ↦ calledBy_nil
  · exact fun _ _ _ ↦ calledBy_singleton _ _ _
  · exact fun _ _ _ _ ↦ calledBy_singleton _ _ _
  · intro c payload identity _ _
    apply (hnext { ctx with identity := some identity }).mono
    exact fun cs _ hcs ↦ List.forall_mem_cons.mpr ⟨rfl, hcs⟩

/-! ## Responses -/

theorem endsBy_onRegistry {α : Type} {t : Activity Registry α} (h : t.EndsBy deadline now) :
    (Forward.onRegistry t).EndsBy deadline now :=
  Concludes.onPart h

/-- With its body at hand, a request is answered by its route by the deadline. -/
theorem endsBy_handle (hbody : r.body.delay = some 0) (hnow : now ≤ ctx.deadline.instant) :
    (g.handle r limit ctx).EndsBy ctx.deadline.instant now := by
  unfold handle handleBy
  split
  · exact hnow
  · exact hnow
  · exact hnow
  · unfold showMetrics
    split
    · exact .act fun _ ↦ hnow
    · exact hnow
  · unfold Forward.run
    split
    · exact hnow
    rw [hbody]
    have hread : (Activity.sleep 0 : Activity State Unit).EndsBy ctx.deadline.instant now := by
      refine .act fun _ ↦ ?_
      exact Nat.max_le.mpr ⟨hnow, hnow⟩
    refine hread.bind fun _ mid hmid ↦ ?_
    split
    · exact hmid
    unfold Forward.withBody
    split
    · exact hmid
    · exact (endsBy_onRegistry (Registry.endsBy_call hmid)).map

/-- The call that asks for the user ends by the deadline, and what follows it begins by then. -/
theorem endsBy_authenticated (hbody : r.body.delay = some 0)
    (hnow : now ≤ ctx.deadline.instant) :
    (g.authenticated r ctx fun ctx ↦
      g.metered r <| tunnelled r <| g.handle r limit ctx).EndsBy ctx.deadline.instant now := by
  have hnext (ctx' : Context) (hsame : ctx'.deadline = ctx.deadline) {mid : Time}
      (hmid : mid ≤ ctx.deadline.instant) : (g.metered r <| tunnelled r <|
        g.handle r limit ctx').EndsBy ctx.deadline.instant mid := by
    rw [← hsame] at hmid ⊢
    exact .act fun _ ↦ (endsBy_handle hbody hmid).map.ending
  unfold authenticated authenticatedBy
  split
  · exact hnext ctx rfl hnow
  split
  · exact hnow
  · refine EndsBy.bind (endsBy_onRegistry ?_) fun answer mid hmid ↦ ?_
    · exact (Registry.endsBy_call hnow).map
    · cases answer with
      | ok identity => exact hnext { ctx with identity := some identity } rfl hmid
      | error f => exact hmid

/-- A request that is let in is answered by the time that its activity or the cap on its time takes,
and by breakdowns no later. -/
theorem answersBy_throttled {bound : Time} (hsteady : next.Steady) (hnow : now ≤ bound)
    (h : (next.within (now + g.config.server.responseTimeoutSecs.toNat * 1000)).EndsBy bound now) :
    (g.throttled ctx next).AnswersBy bound now := by
  unfold throttled
  intro s
  dsimp only [Activity.bind]
  split
  · exact ⟨hnow, rfl⟩
  · exact fun _ ↦ AnswersBy.map (Concludes.ending (h.answersBy (hsteady.within _)))

/-- A request that gets an identifier and a deadline is answered when it has been dealt with. -/
theorem answersBy_identified {bound : Time} {next : Context → Stage}
    (hclock : now + g.config.timeouts.requestSecs.toNat * 1000 < clockEnd)
    (h : ∀ ctx : Context,
      ctx.deadline.instant = now + g.config.timeouts.requestSecs.toNat * 1000 →
        (next ctx).AnswersBy bound now) : (g.identified r next).AnswersBy bound now := by
  unfold identified
  intro s _
  dsimp only
  rw [Deadline.after?, if_pos hclock]
  exact (h _ rfl).map

/-- With its body at hand, a request is answered by its deadline. -/
theorem answersBy_deadline (hbody : r.body.delay = some 0)
    (hclock : now + g.config.timeouts.requestSecs.toNat * 1000 < clockEnd) :
    (g.passed r limit).AnswersBy (now + g.config.timeouts.requestSecs.toNat * 1000) now := by
  refine AnswersBy.map (answersBy_identified hclock fun ctx hctx ↦ ?_)
  have hnow : now ≤ ctx.deadline.instant := hctx ▸ Nat.le_add_right now _
  have : Nonempty State := ⟨{}⟩
  rw [← hctx]
  exact answersBy_throttled (steady_recovering _ _) hnow
    (endsBy_authenticated hbody hnow).recovering.within

/-- However slow its body is, a request is answered when its time is up. -/
theorem answersBy_cap (hclock : now + g.config.timeouts.requestSecs.toNat * 1000 < clockEnd) :
    (g.passed r limit).AnswersBy (now + g.config.server.responseTimeoutSecs.toNat * 1000) now := by
  have hnow : now ≤ now + g.config.server.responseTimeoutSecs.toNat * 1000 :=
    Nat.le_add_right now _
  refine AnswersBy.map (answersBy_identified hclock fun ctx _ ↦ ?_)
  exact answersBy_throttled (steady_recovering _ _) hnow (endsBy_within _ hnow)

/-- No attempt for a request begins at or past its deadline, however late it is when the request
goes on. -/
theorem lt_of_begins (h : (g.passed r limit).Proceeds now ds response) :
    ∀ d ∈ ds, Begins (d.map State.registry) →
      d.instant < now + g.config.timeouts.requestSecs.toNat * 1000 := by
  have hidle {d : Deed State} (hd : Unnoticed d) (hbegins : Begins (d.map State.registry)) :
      d.instant < now + g.config.timeouts.requestSecs.toNat * 1000 :=
    absurd (congrArg Registry.calls hd) hbegins
  obtain ⟨first, hidentified, -⟩ := h.of_map
  obtain ⟨rfl, -⟩ | ⟨s, ds, rfl, hgiven⟩ := hidentified.of_act
  · nofun
  refine List.forall_mem_cons.mpr ⟨hidle (g.unnoticed_takeId r.headers now s), ?_⟩
  obtain ⟨rfl, -⟩ | ⟨s', ds, rfl, hrest⟩ := hgiven.of_act
  · nofun
  refine List.forall_mem_cons.mpr ⟨hidle rfl, ?_⟩
  dsimp only at hrest
  split at hrest
  · cases hrest with
    | cut => nofun
  · rename_i deadline hdeadline
    obtain ⟨last, hgoes, -⟩ := hrest.of_map
    obtain ⟨cs, hcalls, hcalled⟩ := g.calledBy_answering r limit _ hgoes
    have hinstant : deadline.instant = now + g.config.timeouts.requestSecs.toNat * 1000 := by
      unfold Deadline.after? at hdeadline
      split at hdeadline
      · cases hdeadline
        rfl
      · cases hdeadline
    have hlimit : ∀ c ∈ cs, c.deadline.instant ≤ deadline.instant :=
      fun c hc ↦ Nat.le_of_eq (congrArg Deadline.instant (hcalled c hc))
    intro d hd
    rw [← hinstant]
    exact hcalls.lt_of_begins hlimit (d.map State.registry) (List.mem_map_of_mem hd)

/-- One deadline bounds a request. Whatever has been done for a request, no service has noticed it
until it got its identifier, if it got one. From the instant of that on, its time is running. No
attempt at a backend, for the user or for the route, begins when that time is up, even if it is late
when the request goes on and whatever others do. If waits end on time, the request is answered by
then as long as its body is at hand; and with any body it is answered within the cap on the time of
a request, all that for any states of breakers and backends that it may meet. -/
theorem one_deadline_for_a_request (g : Gateway) (r : Request) :
    (∀ now ds response, (g.serve r).Proceeds now ds response →
      (∀ d ∈ ds, Unnoticed d) ∨ ∃ limit mid ds₁ ds₂, ds = ds₁ ++ ds₂ ∧ (∀ d ∈ ds₁, Unnoticed d) ∧
        (g.passed r limit).Proceeds mid ds₂ response) ∧
      ∀ (limit : Nat) (now : Time),
        let deadline := now + g.config.timeouts.requestSecs.toNat * 1000
        (∀ ds response, (g.passed r limit).Proceeds now ds response →
          ∀ d ∈ ds, Begins (d.map State.registry) → d.instant < deadline) ∧
        (deadline < clockEnd →
          (r.body.delay = some 0 → (g.passed r limit).AnswersBy deadline now) ∧
            (g.passed r limit).AnswersBy
              (now + g.config.server.responseTimeoutSecs.toNat * 1000) now) := by
  refine ⟨fun now ds response ↦ exists_passed_of_serve, fun limit now ↦ ⟨?_, ?_⟩⟩
  · exact fun ds response ↦ lt_of_begins
  · exact fun hclock ↦ ⟨fun hbody ↦ answersBy_deadline hbody hclock, answersBy_cap hclock⟩

/-- Services of which each takes twenty seconds, and one knows an admin. -/
def adminKnownSlowly : State :=
  let replying (answer : Json.Value) : Backend :=
    ⟨fun _ _ ↦ { delayMs := some 20000, answer := .ok answer }, []⟩
  let admin : Json.Value := .object [("user_id", .string "u1")]
  let users : Service := { name := "users", breaker := .new {} 0, backend := replying admin }
  let orders : Service := { name := "orders", breaker := .new {} 0, backend := replying .null }
  { registry := { services := [users, orders] } }

/-- Each of the two calls would end in time by itself, but they share thirty seconds. -/
theorem order_given_up_after_thirty_seconds :
    let stage := ordersOnly.passed orderRequest 0
    let run := stage.run 0 adminKnownSlowly
    (run.1 = 30000 ∧ run.2.2.result?.map Response.status = some 504 ∧
      run.2.1.registry.calls.map Prod.fst = ["orders", "users"]) ∧
      stage.AnswersBy 30000 0 ∧ stage.AnswersBy 60000 0 ∧
        ∃ ds, stage.Proceeds 0 ds run.2.2.result? ∧
          ∀ d ∈ ds, Begins (d.map State.registry) → d.instant < 30000 := by
  intro stage run
  have hattempts := ((one_deadline_for_a_request ordersOnly orderRequest).2 0 0).1
  have hanswers := ((one_deadline_for_a_request ordersOnly orderRequest).2 0 0).2 (by decide)
  obtain ⟨ds, hproceeds, -⟩ := proceeds_of_run stage 0 adminKnownSlowly
  refine ⟨by decide +kernel, hanswers.1 rfl, hanswers.2, ds, hproceeds, ?_⟩
  exact hattempts ds run.2.2.result? hproceeds

end RpcGateway.Gateway
