import RpcGateway.Proofs.Gateway.Admission
import RpcGateway.Proofs.Gateway.Identities
import RpcGateway.Proofs.Http.ErrorBody

/-!
# One identifier for each request

The identifier that a request has been given is in all that goes out for it: in each call of a
service, in the header of the response, and in the body of an error if that tells an identifier at
all. It is the one that came with the request if it is fit for that, and a fresh one otherwise, one
that no request before has been given; in both cases whoever gets it in a header takes it over.
-/

namespace RpcGateway.Gateway

open Activity Http Calls Json Access

variable {g : Gateway} {r : Request} {id : String} {a : Response} {ctx : Context}
  {cs cs' : List Dispatch} {response : Option Response} {ds : List (Deed State)}

/-! ## What responses tell -/

/-- The bodies of errors that tell no identifier: that of a breakdown, and that of a gateway that is
asked for metrics which it does not record. -/
inductive Nameless (g : Gateway) (r : Request) : Bytes → Prop where
  | breakdown : Nameless g r brokenDown.body
  | metrics {captures : PathPattern.Captures} (unrecorded : g.recording = false)
      (routed : g.destination r = .handler .metrics captures) :
      Nameless g r (Response.notFound none).body

/-- If a response tells an error, then with this identifier, or with none where errors are nameless.
-/
def Tells (g : Gateway) (r : Request) (id : String) (a : Response) : Prop :=
  ∀ ⦃code message v⦄, a.TellsError code message v →
    v = .string id ∨ (v = .null ∧ Nameless g r a.body)

theorem tells_of_lt (h : a.status < 400) : g.Tells r id a :=
  fun _ _ _ htells ↦ absurd htells.status (Nat.not_le_of_lt h)

theorem tells_of_parse? (h : Value.parse? a.body = none) : g.Tells r id a :=
  fun _ _ _ htells ↦ absurd h htells.parse?_ne_none

theorem tells_of_errorBody {code message : String}
    (h : a.body = (Response.errorBody code message (some id)).render) : g.Tells r id a :=
  fun _ _ _ htells ↦ .inl (htells.of_errorBody h).2.2

theorem tells_ofFault (f : Fault) : g.Tells r id (.ofFault f (some id)) :=
  tells_of_errorBody (Response.body_ofFault f _)

theorem tells_brokenDown : g.Tells r id brokenDown := by
  intro code message v htells
  have hbody : brokenDown.body = _ := Response.body_ofFault (.internal "handler panicked") none
  exact .inr ⟨(htells.of_errorBody hbody).2.2, .breakdown⟩

/-- What a response tells is in its status and its body. -/
theorem Tells.recast {a' : Response} (h : g.Tells r id a) (hstatus : a'.status = a.status)
    (hbody : a'.body = a.body) : g.Tells r id a' := by
  intro code message v htells
  rw [hbody]
  exact h ⟨hstatus ▸ htells.status, hbody ▸ htells.body⟩

/-- A response without its body tells nothing. -/
theorem tells_of_body_eq_nil (h : a.body = []) : g.Tells r id a := by
  apply tells_of_parse?
  rw [h]
  exact Response.parse?_nil

theorem Tells.tunnelled (h : g.Tells r id a) :
    g.Tells r id (if opensTunnel r a then { a with body := [] } else a) := by
  split
  · exact tells_of_body_eq_nil rfl
  · exact h

theorem Tells.sealed (h : g.Tells r id a) : g.Tells r id (g.sealed r a) := by
  have hbody := body_completed r (g.allowedFor r) a
  split at hbody
  · exact tells_of_body_eq_nil hbody
  · exact h.recast (status_completed r _ a) hbody

/-! ## Calls and responses under an identifier -/

/-- Whatever has been called has been called under the identifier, and what is told is told under
it. -/
structure Faithful (g : Gateway) (r : Request) (id : String) (cs : List Dispatch)
    (response : Option Response) : Prop where
  calls : ∀ c ∈ cs, c.request.requestId = id
  answer : ∀ a, response = some a → g.Tells r id a

namespace Faithful

theorem silent : g.Faithful r id [] none := ⟨nofun, nofun⟩

theorem unseen (h : g.Faithful r id cs response) : g.Faithful r id cs none := ⟨h.calls, nofun⟩

theorem answered (h : g.Faithful r id cs none) (htells : g.Tells r id a) :
    g.Faithful r id cs (some a) := by
  refine ⟨h.calls, ?_⟩
  rintro _ ⟨⟩
  exact htells

theorem after (h : g.Faithful r id cs none) (h' : g.Faithful r id cs' response) :
    g.Faithful r id (cs ++ cs') response :=
  ⟨List.forall_mem_append.mpr ⟨h.calls, h'.calls⟩, h'.answer⟩

end Faithful

theorem faithful_done {policy : RetryPolicy} (htells : g.Tells r id a) :
    Behaves policy (.done a) (g.Faithful r id) :=
  .done .silent (Faithful.silent.answered htells)

theorem tells_respond (secureCookies : Bool) (reply : Value) :
    g.Tells r ctx.requestId (Forward.respond secureCookies ctx reply) := by
  have hanswer (reply : Value) (h : Headers) :
      g.Tells r ctx.requestId { Response.json 200 reply with headers := h } :=
    tells_of_lt (show 200 < 400 by decide)
  unfold Forward.respond
  dsimp only
  split
  · exact hanswer _ _
  · split
    · exact hanswer _ _
    · exact tells_ofFault _

theorem parse?_invalidParam (name : String) :
    Value.parse? (Forward.invalidParam name).body = none := by
  have hbody : (Forward.invalidParam name).body =
      0x49 :: (Utf8.encode "nvalid URL: Invalid UTF-8 in \x60" ++
        Utf8.encode (name ++ "\x60")) := by
    unfold Forward.invalidParam Response.plain Response.text
    dsimp only
    rw [String.append_assoc, Utf8.encode_append]
    rfl
  rw [hbody]
  exact Response.parse?_cons_eq_none rfl _

theorem faithful_forward (service operation : String) (limit : Nat) (ctx : Context)
    (captures : PathPattern.Captures) (body : Body) :
    Behaves g.policy
      (Forward.run (Registry.call g.policy) g.config.security.secureCookies service operation limit
        ctx captures body)
      (g.Faithful r ctx.requestId) := by
  have hcall (params : List (String × String)) (payload : Value)
      (result : Option (Except Fault Value)) : g.Faithful r ctx.requestId
        [⟨service, ctx.deadline, Forward.rpcRequest ctx operation params payload, result⟩] none :=
    ⟨List.forall_mem_singleton.mpr rfl, nofun⟩
  apply Behaves.forward .silent
  · exact fun name ↦ Faithful.silent.answered (tells_of_parse? (parse?_invalidParam name))
  · exact Faithful.silent.answered (tells_of_parse? (Response.parse?_cons_eq_none rfl _))
  · exact fun f ↦ Faithful.silent.answered (tells_ofFault f)
  · exact hcall
  · exact fun _ _ reply ↦ (hcall _ _ _).answered (tells_respond _ reply)
  · exact fun _ _ f ↦ (hcall _ _ _).answered (tells_ofFault f)

theorem faithful_showMetrics {captures : PathPattern.Captures}
    (hroute : g.destination r = .handler .metrics captures) :
    Behaves g.policy g.showMetrics (g.Faithful r id) := by
  unfold showMetrics
  split
  · exact .act (fun _ _ ↦ rfl) fun now s ↦ faithful_done (tells_of_lt (show 200 < 400 by decide))
  · rename_i hrecording
    refine faithful_done fun code message v htells ↦ ?_
    have hbody : (Response.notFound none).body =
        (Response.errorBody "not_found" "no route matches this path" none).render := rfl
    exact .inr ⟨(htells.of_errorBody hbody).2.2, .metrics (by simpa using hrecording) hroute⟩

theorem faithful_handle (limit : Nat) (ctx : Context) :
    Behaves g.policy (g.handle r limit ctx) (g.Faithful r ctx.requestId) := by
  unfold handle handleBy
  split
  · exact faithful_done (tells_of_errorBody rfl)
  · exact faithful_done (tells_of_body_eq_nil rfl)
  · exact faithful_done (tells_of_lt (show 200 < 400 by decide))
  · rename_i hroute
    exact faithful_showMetrics hroute
  · exact faithful_forward _ _ limit ctx _ _

/-- Whoever is named, the identifier stays. -/
theorem faithful_authenticated {next : Context → Stage}
    (hnext : ∀ ctx' : Context, ctx'.requestId = ctx.requestId →
      Behaves g.policy (next ctx') (g.Faithful r ctx.requestId)) :
    Behaves g.policy (g.authenticated r ctx next) (g.Faithful r ctx.requestId) := by
  have hasked (c : Credentials) (got : Option (Except Fault Value)) :
      g.Faithful r ctx.requestId [g.asking ctx c got] none :=
    ⟨List.forall_mem_singleton.mpr rfl, nofun⟩
  apply Behaves.authenticated .silent
  · exact fun _ ↦ hnext ctx rfl
  · exact fun f ↦ Faithful.silent.answered (tells_ofFault f)
  · exact fun c got _ ↦ hasked c got
  · exact fun c got f _ ↦ (hasked c got).answered (tells_ofFault f)
  · intro c payload identity _ _
    apply (hnext { ctx with identity := some identity } rfl).mono
    exact fun _ _ hrest ↦ (hasked c _).after hrest

/-- All that is done for a request is done under the identifier that it has been given. -/
theorem faithful_answering (limit : Nat) (ctx : Context) :
    Behaves g.policy (g.answering r limit ctx) (g.Faithful r ctx.requestId) := by
  refine Behaves.throttled ?_ (fun _ _ h ↦ h.unseen)
    (Faithful.silent.answered (tells_ofFault _)) fun _ h ↦ h.answered (tells_ofFault _)
  refine Behaves.recovering ?_ fun _ h ↦ h.answered tells_brokenDown
  refine faithful_authenticated fun ctx' hid ↦ ?_
  refine behaves_metered g r ?_
  rw [← hid]
  refine (faithful_handle limit ctx').map (fun _ h ↦ h) fun cs a h ↦ ⟨h.unseen, ?_⟩
  exact h.unseen.answered (h.answer a rfl).tunnelled

/-! ## The identifier of a request -/

/-- The identifier that a request has been given: the one that it has brought with it if that is
adoptable, and otherwise the UUID that the gateway has after those that it has used. As long as the
source does not repeat itself this is none of them, and from then on it is one of them. -/
structure Given (g : Gateway) (h : Headers) (d : Deed State) (id : String) : Prop where
  adopted : ∀ v, h.get? RequestId.headerName = some v → RequestId.Adoptable v → Utf8.encode id = v
  made : (∀ v, h.get? RequestId.headerName = some v → ¬ RequestId.Adoptable v) →
    RequestId.IsUuid id ∧ id = g.ids.fresh d.before.nextId ∧
      d.after.nextId = d.before.nextId + 1 ∧
        (Set.InjOn g.ids.fresh (Set.Iic d.before.nextId) →
          ∀ n < d.before.nextId, g.ids.fresh n ≠ id)

theorem given_of_takeId {h : Headers} {d : Deed State}
    (htaken : g.takeId h d.instant d.before = (id, d.after)) :
    Given g h d id ∧ RequestId.wellFormed id.toList = true := by
  unfold takeId at htaken
  cases hcame : RequestId.ofHeaders? h with
  | some id' =>
    rw [hcame] at htaken
    obtain ⟨rfl, -⟩ := Prod.mk.inj htaken
    obtain ⟨v, hv, hadoptable, hencode⟩ := RequestId.ofHeaders?_eq_some_iff.mp hcame
    refine ⟨⟨?_, fun hnone ↦ absurd hadoptable (hnone v hv)⟩,
      RequestId.wellFormed_of_ofHeaders? hcame⟩
    intro w hw _
    exact hencode.trans (Option.some.inj (hv.symm.trans hw))
  | none =>
    rw [hcame] at htaken
    obtain ⟨rfl, hafter⟩ := Prod.mk.inj htaken
    refine ⟨⟨?_, fun _ ↦ ⟨g.ids.isUuid_fresh _, rfl, ?_, ?_⟩⟩, g.ids.wellFormed_fresh _⟩
    · intro v hv hadoptable
      obtain ⟨id, hid, -⟩ := RequestId.parse?_of_adoptable hadoptable
      have hcomes : RequestId.ofHeaders? h = some id := by
        rw [RequestId.ofHeaders?, hv, Option.bind_some, hid]
      cases hcame.symm.trans hcomes
    · rw [← hafter]
    · exact fun hdistinct n hn hsame ↦
        Nat.ne_of_lt hn (hdistinct (Nat.le_of_lt hn) (Nat.le_refl _) hsame)

/-- A gateway takes over the identifier that another one has used. -/
theorem takeId_of_get? (g : Gateway) (hformed : RequestId.wellFormed id.toList = true) {h : Headers}
    (hid : h.get? RequestId.headerName = some (Utf8.encode id)) (now : Time) (s : State) :
    g.takeId h now s = (id, s) := by
  unfold takeId
  rw [RequestId.ofHeaders?_of_get? hformed hid]

theorem sentBy_of_unnoticed (h : ∀ d ∈ ds, Unnoticed d) :
    Registry.sentBy (ds.map (Deed.map State.registry)) = [] := by
  unfold Registry.sentBy
  rw [List.flatMap_eq_nil_iff, List.forall_mem_map]
  intro d hd
  rw [show (d.map State.registry).after = (d.map State.registry).before from h d hd]
  simp

/-- What is sent and what is answered once a request has its identifier. -/
theorem faithful_of_taken {mid : Time} {limit : Nat} {ds₁ ds₂ ds₃ : List (Deed State)}
    {d : Deed State} (hquiet : ∀ d ∈ ds₁, Unnoticed d)
    (htaken : g.takeId r.headers d.instant d.before = (ctx.requestId, d.after))
    (hquiet' : ∀ d ∈ ds₂, Unnoticed d)
    (hgoes : (g.answering r limit ctx).Proceeds mid ds₃ response) :
    (∀ x ∈ Registry.sentBy ((ds₁ ++ d :: (ds₂ ++ ds₃)).map (Deed.map State.registry)),
        x.2.requestId = ctx.requestId) ∧
      ∀ a, response = some a →
        (g.sealed r (g.outward r (a.withRequestId ctx.requestId))).Carries ctx.requestId ∧
          g.Tells r ctx.requestId (g.sealed r (g.outward r (a.withRequestId ctx.requestId))) := by
  obtain ⟨cs, hcalls, hfaithful⟩ := faithful_answering limit ctx hgoes
  have hformed := (given_of_takeId htaken).2
  refine ⟨?_, ?_⟩
  · have hbefore : ∀ d' ∈ ds₁ ++ d :: ds₂, Unnoticed d' := by
      have htake : Unnoticed d := by
        have htook := g.unnoticed_takeId r.headers d.instant d.before
        rw [htaken] at htook
        exact htook
      rw [List.forall_mem_append, List.forall_mem_cons]
      exact ⟨hquiet, htake, hquiet'⟩
    have hall := (Dispatches.of_idle (List.forall_mem_map.mpr hbefore)).append hcalls
    rw [← List.map_append, List.append_assoc, List.cons_append] at hall
    intro x hx
    obtain ⟨c, hc, rfl⟩ := hall.exists_of_mem_sentBy hx
    exact hfaithful.calls c hc
  · rintro a rfl
    have hmarked : (g.outward r (a.withRequestId ctx.requestId)).Carries ctx.requestId :=
      carries_outward (Response.carries_withRequestId a hformed)
    refine ⟨carries_completed hmarked, Tells.sealed ?_⟩
    apply (hfaithful.answer a rfl).recast
    · rw [status_outward, Response.status_withRequestId]
    · rw [body_outward, Response.body_withRequestId]

/-- Fresh identifiers are used one after the other, and none is taken back. -/
theorem always_nextId (g : Gateway) (r : Request) :
    (g.serve r).Always fun d ↦ d.before.nextId ≤ d.after.nextId := by
  refine serve_induction (P := fun t ↦ t.Always fun d ↦ d.before.nextId ≤ d.after.nextId)
    (fun _ ↦ trivial) trivial (fun h hf ↦ (h.mono fun _ hd ↦ hd.nextId).bind hf) ?_ ?_
  · exact fun _ s ↦ ⟨Nat.le_succ s.nextId, trivial⟩
  · intro limit ctx
    rw [arriving_eq]
    refine fun now s ↦ ⟨?_, ?_⟩
    · dsimp only [takePermit]
      split
      · exact Nat.le_refl _
      · exact Nat.le_refl _
    · dsimp only
      split
      · refine fun _ s ↦ ⟨Nat.le_refl s.nextId, ?_⟩
        refine Always.map (Always.ending ?_ (fun _ s ↦ Nat.le_refl s.nextId) fun _ _ _ h ↦ h)
        exact ((always_calm_inside g r limit ctx).within _).mono fun _ hd ↦
          Nat.le_of_eq hd.nextId.symm
      · trivial

/-- Of a request that gets past the limit on its body and past the rules for browsers there is one
identifier, unless the rate limiter refuses it. It is the one that came with the request, if its
first value has 1 to 128 octets, each an ASCII letter or digit, a hyphen, a dot or an underscore,
and a fresh UUID otherwise, none that the gateway has used before or will use again. All that is
sent to services by any time is sent under it; the response, whatever it is, has it in its header,
and nothing else as the identifier of an error; and another gateway that gets it in a header takes
it over. -/
theorem one_identifier_for_each_request (g : Gateway) (r : Request) (now : Time)
    (ds : List (Deed State)) (response : Option Response) (hfits : ¬ g.ClaimsTooMuch r)
    (hpage : ¬ g.IsPreflight r) (h : (g.serve r).Proceeds now ds response) :
    let sent := Registry.sentBy (ds.map (Deed.map State.registry))
    (∀ d ∈ ds, d.before.nextId ≤ d.after.nextId) ∧
      ((sent = [] ∧ ∀ answer, response = some answer →
          ∃ n, answer = g.sealed r (.ofFault .rateLimited (some (g.ids.fresh n)))) ∨
        ∃ id, (∃ d ∈ ds, Given g r.headers d id) ∧ (∀ x ∈ sent, x.2.requestId = id) ∧
          (∀ answer, response = some answer → answer.Carries id ∧
            ∀ code message v, answer.TellsError code message v → v ≠ .null → v = .string id) ∧
          ∀ (g' : Gateway) h now s, Headers.get? h RequestId.headerName = some (Utf8.encode id) →
            g'.takeId h now s = (id, s)) := by
  intro sent
  refine ⟨(always_nextId g r).of_proceeds h, ?_⟩
  obtain ⟨first, hcourse, rfl⟩ := h.of_map
  cases course_of_stages hcourse with
  | before quiet => exact .inl ⟨sentBy_of_unnoticed quiet, nofun⟩
  | tooLong long => exact absurd long hfits
  | question asked => exact absurd asked hpage
  | refused n quiet =>
    refine .inl ⟨sentBy_of_unnoticed quiet, ?_⟩
    rintro _ ⟨⟩
    exact ⟨n, rfl⟩
  | identified ctx quiet taken quiet' goes =>
    obtain ⟨hsent, hanswer⟩ := faithful_of_taken quiet taken quiet' goes
    obtain ⟨hgiven, hformed⟩ := given_of_takeId taken
    refine .inr ⟨ctx.requestId, ⟨_, by simp, hgiven⟩, hsent, ?_, ?_⟩
    · intro answer hsome
      rw [Option.map_map, Option.map_eq_some_iff] at hsome
      obtain ⟨a, ha, rfl⟩ := hsome
      obtain ⟨hcarries, htells⟩ := hanswer a ha
      refine ⟨hcarries, fun code message v htold hnamed ↦ ?_⟩
      obtain hid | ⟨hnull, -⟩ := htells htold
      · exact hid
      · exact absurd hnull hnamed
    · exact fun g' h now s hid ↦ g'.takeId_of_get? hformed hid now s

/-- A request as it is, but with an identifier of its own. -/
def named (r : Request) (id : String) : Request :=
  { r with headers := (RequestId.headerName, Utf8.encode id) :: r.headers }

theorem status_sealed_rateLimited (g : Gateway) (r : Request) (id : Option String) :
    (g.sealed r (.ofFault .rateLimited id)).status = 429 :=
  (status_completed r _ _).trans (Response.status_ofFault _ _)

/-- An order is asked for under the identifier that came with the request, and so is the user. The
same order without an identifier is given one that is none of the seven used before. -/
theorem one_identifier_for_order :
    (∃ ds answer, (ordersOnly.serve (named orderRequest "r1")).Proceeds 0 ds (some answer) ∧
      answer.status = 200 ∧ answer.Carries "r1" ∧
        ∀ x ∈ Registry.sentBy (ds.map (Deed.map State.registry)), x.2.requestId = "r1") ∧
      ∃ ds answer id, (ordersOnly.serve orderRequest).Proceeds 0 ds (some answer) ∧
        answer.status = 200 ∧ answer.Carries id ∧ RequestId.IsUuid id ∧
          ∀ n < 7, ordersOnly.ids.fresh n ≠ id := by
  have hfits {r : Request} (hnone : claimedLength? r.headers = none) :
      ¬ ordersOnly.ClaimsTooMuch r := by
    rintro ⟨n, hn, -⟩
    cases hnone.symm.trans hn
  refine ⟨?_, ?_⟩
  · have hstatus : ((ordersOnly.serve (named orderRequest "r1")).run 0
        adminKnown).2.2.result?.map Response.status = some 200 := by decide +kernel
    obtain ⟨answer, hanswer, hok⟩ := Option.map_eq_some_iff.mp hstatus
    obtain ⟨ds, hproceeds, -⟩ :=
      Activity.proceeds_of_run (ordersOnly.serve (named orderRequest "r1")) 0 adminKnown
    rw [hanswer] at hproceeds
    refine ⟨ds, answer, hproceeds, hok, ?_⟩
    obtain ⟨-, ⟨-, hrefused⟩ | ⟨id, ⟨d, -, hgiven⟩, hsent, hcarries, -⟩⟩ :=
      one_identifier_for_each_request ordersOnly (named orderRequest "r1") 0 ds (some answer)
        (hfits (by decide)) (fun h ↦ absurd h.2 (by decide)) hproceeds
    · obtain ⟨n, hanswered⟩ := hrefused answer rfl
      rw [hanswered, status_sealed_rateLimited] at hok
      exact absurd hok (by decide)
    · have hid : id = "r1" := by
        have hfirst : (named orderRequest "r1").headers.get? RequestId.headerName =
            some (Utf8.encode "r1") := rfl
        have hencode := hgiven.adopted _ hfirst (RequestId.adoptable_encode (by decide))
        simpa using congrArg Utf8.decode? hencode
      exact ⟨hid ▸ (hcarries answer rfl).1, hid ▸ hsent⟩
  · let s : State := { adminKnown with nextId := 7 }
    have hstatus : ((ordersOnly.serve orderRequest).run 0 s).2.2.result?.map Response.status =
        some 200 := by decide +kernel
    have hnext : ((ordersOnly.serve orderRequest).run 0 s).2.1.nextId = 8 := by decide +kernel
    obtain ⟨answer, hanswer, hok⟩ := Option.map_eq_some_iff.mp hstatus
    obtain ⟨ds, hproceeds, hchain⟩ := Activity.proceeds_of_run (ordersOnly.serve orderRequest) 0 s
    rw [hanswer] at hproceeds
    obtain ⟨hmono, ⟨-, hrefused⟩ | ⟨id, ⟨d, hd, hgiven⟩, -, hcarries, -⟩⟩ :=
      one_identifier_for_each_request ordersOnly orderRequest 0 ds (some answer)
        (hfits (by decide)) (fun h ↦ absurd h.2 (by decide)) hproceeds
    · obtain ⟨n, hanswered⟩ := hrefused answer rfl
      rw [hanswered, status_sealed_rateLimited] at hok
      exact absurd hok (by decide)
    · have hnothing : orderRequest.headers.get? RequestId.headerName = none := by decide
      obtain ⟨huuid, -, hafter, hunused⟩ := hgiven.made fun v hv ↦ by
        cases hnothing.symm.trans hv
      have hseven : d.before.nextId = 7 := by
        obtain ⟨hfirst, hlast⟩ := hchain.between hmono d hd
        have hstart : s.nextId = 7 := rfl
        omega
      rw [hseven] at hunused
      refine ⟨ds, answer, id, hproceeds, hok, (hcarries answer rfl).1, huuid, hunused ?_⟩
      refine RequestId.Source.injOn_fresh_counted.mono fun n hn ↦ ?_
      exact Nat.lt_of_le_of_lt hn (by decide)

end RpcGateway.Gateway
