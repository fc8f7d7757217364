import RpcGateway.Gateway.Pipeline
import RpcGateway.Proofs.Activity.InStep

/-!
# Two requests side by side

The stages around authentication look at the method, the headers and the client of a request, at the
counters of the store, and at the number of requests in flight. Of two requests that agree in these
each stage makes the same, at the same instants, as long as what is within it goes in step. Nothing
is asked of the paths, and of two gateways only that these stages are set up alike.
-/

namespace RpcGateway.Gateway

open Activity Http Access

/-- Two gateways whose stages around authentication are set up alike. -/
structure SameFront (g g' : Gateway) : Prop where
  timeouts : g.config.timeouts = g'.config.timeouts
  server : g.config.server = g'.config.server
  cors : g.config.cors = g'.config.cors
  rateLimit : g.config.rateLimit = g'.config.rateLimit
  security : g.config.security = g'.config.security

theorem SameFront.refl (g : Gateway) : SameFront g g := ⟨rfl, rfl, rfl, rfl, rfl⟩

/-- States between which the stages around authentication see no difference, except in the fresh
identifiers, which are only known to be related. -/
structure Impartial (g g' : Gateway) (R : State → State → Prop) (I : String → String → Prop) :
    Prop where
  store_eq : ∀ {s s'}, R s s' → s.store = s'.store
  inFlight_eq : ∀ {s s'}, R s s' → s.inFlight = s'.inFlight
  setStore : ∀ {s s'} c, R s s' → R (setStore c s) (setStore c s')
  setInFlight : ∀ {s s'} n, R s s' → R { s with inFlight := n } { s' with inFlight := n }
  countStoreError : Preserves R countStoreError countStoreError
  freshId : ∀ {s s'}, R s s' → I (g.ids.fresh s.nextId) (g'.ids.fresh s'.nextId) ∧
    R { s with nextId := s.nextId + 1 } { s' with nextId := s'.nextId + 1 }
  countDenied : ∀ {s s'}, R s s' →
    R { s with metrics := { s.metrics with rateLimited := s.metrics.rateLimited + 1 } }
      { s' with metrics := { s'.metrics with rateLimited := s'.metrics.rateLimited + 1 } }
  sameId : ∀ id, I id id

variable {g g' : Gateway} {r : Request} {R : State → State → Prop}
  {I : String → String → Prop} {Q : Response → Response → Prop} {next next' : Stage}

/-- The limit on a body does not depend on the path. -/
theorem inStep_bounded (hfront : SameFront g g') (path : String) {next next' : Nat → Stage}
    (hsame : ∀ a, Q a a) (h : ∀ limit, InStep R Q (next limit) (next' limit)) :
    InStep R Q (g.bounded r next) (g'.bounded { r with path } next') := by
  unfold bounded
  dsimp only
  rw [← hfront.security]
  split
  · exact h _
  · split
    · exact .done (hsame _)
    · exact h _

/-- To be denied takes one identifier from each gateway. -/
theorem inStep_denied (hR : Impartial g g' R I)
    (hdenied : ∀ id id', I id id' →
      Q (.ofFault .rateLimited (some id)) (.ofFault .rateLimited (some id'))) :
    InStep R Q g.denied g'.denied := by
  refine (InStep.modifyGet (Q := I) fun now s s' h ↦ ?_).map fun id id' ↦ hdenied id id'
  exact ⟨(hR.freshId h).1, hR.countDenied (hR.freshId h).2⟩

/-- The limiter decides alike, since the counters are the same. -/
theorem inStep_rateLimited (hR : Impartial g g' R I) (hfront : SameFront g g') (path : String)
    (hdenied : ∀ id id', I id id' →
      Q (.ofFault .rateLimited (some id)) (.ofFault .rateLimited (some id')))
    (h : InStep R Q next next') :
    InStep R Q (g.rateLimited r next) (g'.rateLimited { r with path } next') := by
  unfold rateLimited
  rw [← hfront.rateLimit]
  split
  · exact h
  have hpart (t : Activity CounterStore Verdict) :
      InStep R Eq (t.onPart State.store Gateway.setStore) (t.onPart State.store Gateway.setStore) :=
    (InStep.refl t).onPart (fun _ _ hs ↦ hR.store_eq hs) fun c _ _ _ hc hs ↦ hc ▸ hR.setStore c hs
  refine (hpart _).bind ?_
  rintro verdict _ rfl
  have hverdict : InStep R Q
      (if (RateLimiter.ofConfig g.config.rateLimit).allows verdict then next else g.denied)
      (if (RateLimiter.ofConfig g.config.rateLimit).allows verdict then next' else g'.denied) := by
    split
    · exact h
    · exact inStep_denied hR hdenied
  cases verdict with
  | counted n => exact hverdict
  | _ => exact .act hR.countStoreError fun _ _ _ _ ↦ hverdict

/-- The rules for browsers do not ask for the path. -/
theorem inStep_crossOrigin (hfront : SameFront g g') (path : String) (hsame : ∀ a, Q a a)
    (hmark : ∀ a a', Q a a' → Q
      { a with headers := Cors.mark g.config.cors r.headers a.headers }
      { a' with headers := Cors.mark g.config.cors r.headers a'.headers })
    (h : InStep R Q next next') :
    InStep R Q (g.crossOrigin r next) (g'.crossOrigin { r with path } next') := by
  unfold crossOrigin
  rw [← hfront.cors]
  split
  · exact h
  · split
    · exact .done (hsame _)
    · exact h.map hmark

theorem inStep_compressed (path : String)
    (hcoded : ∀ a a', Q a a' →
      Q (ContentCoding.apply r.headers a) (ContentCoding.apply r.headers a'))
    (h : InStep R Q next next') :
    InStep R Q (compressed r next) (compressed { r with path } next') :=
  h.map hcoded

/-- What is within may be given two identifiers, if these are related; all else that it is given is
the same. -/
theorem inStep_identified (hR : Impartial g g' R I) (hfront : SameFront g g') (path : String)
    {next next' : Context → Stage} {P : String → String → Response → Response → Prop}
    (hmarked : ∀ id id' a a', I id id' → P id id' a a' →
      Q (a.withRequestId id) (a'.withRequestId id'))
    (h : ∀ (id id' : String) (ctx : Context), I id id' →
      ctx.sessionKey = Cookie.value? r.headers Cookie.sessionName →
        InStep R (P id id') (next { ctx with requestId := id })
          (next' { ctx with requestId := id' })) :
    InStep R Q (g.identified r next) (g'.identified { r with path } next') := by
  refine (InStep.modifyGet (Q := I) fun now s s' hs ↦ ?_).bind fun id id' hid ↦ ?_
  · unfold takeId
    dsimp only
    split
    · exact ⟨hR.sameId _, hs⟩
    · exact hR.freshId hs
  · refine .act preserves_keep fun now _ _ _ ↦ ?_
    rw [← hfront.timeouts]
    dsimp only
    split
    · exact .panic
    · rename_i deadline _
      let ctx : Context :=
        { requestId := id, deadline, sessionKey := Cookie.value? r.headers Cookie.sessionName }
      exact (h id id' ctx hid rfl).map fun a a' ↦ hmarked id id' a a' hid

/-- As many requests are in flight in both, so both let the request in or neither does. -/
theorem inStep_throttled (hR : Impartial g g' R I) (hfront : SameFront g g') {ctx ctx' : Context}
    (hoverloaded : Q (.ofFault .overloaded (some ctx.requestId))
      (.ofFault .overloaded (some ctx'.requestId)))
    (hexceeded : Q (.ofFault .deadlineExceeded (some ctx.requestId))
      (.ofFault .deadlineExceeded (some ctx'.requestId)))
    (h : InStep R Q next next') :
    InStep R Q (g.throttled ctx next) (g'.throttled ctx' next') := by
  unfold throttled
  rw [← hfront.server]
  refine (InStep.modifyGet (Q := Eq) fun now s s' hs ↦ ?_).bind ?_
  · unfold takePermit
    rw [hR.inFlight_eq hs]
    split
    · exact ⟨rfl, hR.setInFlight _ hs⟩
    · exact ⟨rfl, hs⟩
  rintro permitted _ rfl
  cases permitted with
  | false => exact .done hoverloaded
  | true =>
    refine .act preserves_keep fun now _ _ _ ↦ ?_
    have hgiven : Preserves R givePermit givePermit := by
      intro now s s' hs
      unfold givePermit
      rw [hR.inFlight_eq hs]
      exact hR.setInFlight _ hs
    refine ((h.within _).ending hgiven).map ?_
    rintro _ _ (hresponse | _)
    · exact hresponse
    · exact hexceeded

/-- A breakdown is answered alike. -/
theorem inStep_caught (hsame : ∀ a, Q a a) (h : InStep R Q next next') :
    InStep R Q (caught next) (caught next') :=
  .recovering (.done (hsame _)) h

theorem inStep_tunnelled (h : InStep R Eq next next') :
    InStep R Eq (tunnelled r next) (tunnelled r next') :=
  h.map fun _ _ hsame ↦ hsame ▸ rfl

/-- Requests with one identifier go in step if what is done for them within these stages does. -/
theorem inStep_around (hR : Impartial g g R Eq) {inner inner' : Nat → Context → Stage}
    (h : ∀ limit ctx, InStep R Eq (inner limit ctx) (inner' limit ctx)) :
    let around (inner : Nat → Context → Stage) : Stage :=
      (g.bounded r fun limit ↦ g.rateLimited r <| g.crossOrigin r <| compressed r <|
        g.identified r fun ctx ↦ g.throttled ctx <| caught <| inner limit ctx).map (g.sealed r)
    InStep R Eq (around inner) (around inner') := by
  have hsame {f : Response → Response} (a a' : Response) (h : a = a') : f a = f a' := congrArg f h
  refine InStep.map (Q := Eq) ?_ hsame
  refine inStep_bounded (.refl g) r.path (fun _ ↦ rfl) fun limit ↦ ?_
  refine inStep_rateLimited hR (.refl g) r.path (fun _ _ h ↦ h ▸ rfl) ?_
  refine inStep_crossOrigin (.refl g) r.path (fun _ ↦ rfl) hsame ?_
  refine inStep_compressed r.path hsame ?_
  refine inStep_identified hR (.refl g) r.path (P := fun _ _ ↦ Eq)
    (fun _ _ _ _ hid h ↦ hid ▸ h ▸ rfl) ?_
  rintro id _ ctx rfl -
  refine inStep_throttled hR (.refl g) rfl rfl ?_
  exact inStep_caught (fun _ ↦ rfl) (h limit _)

end RpcGateway.Gateway
