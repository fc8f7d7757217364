import RpcGateway.Proofs.Gateway.Marking
import RpcGateway.Proofs.Gateway.Stages

/-!
# How far requests get

In front of the stage that gives a request its identifier no service is called. There a request ends
if its body claims to be too long, if its client has made all requests, or if it is a browser's
question. Any other request gets one identifier, under which all else is done for it; the response
is given that identifier, and on its way out other fields only.
-/

namespace RpcGateway.Gateway

open Activity Http Calls Access

variable {g : Gateway} {r : Request} {now : Time} {ds : List (Deed State)}
  {response : Option Response}

/-- A body that is longer than the gateway takes, by what its length is said to be. -/
def ClaimsTooMuch (g : Gateway) (r : Request) : Prop :=
  ∃ n, claimedLength? r.headers = some n ∧ g.config.security.maxBodySize.toNat < n

/-- What is done for a request that has its identifier. -/
def answering (g : Gateway) (r : Request) (limit : Nat) (ctx : Context) : Stage :=
  g.throttled ctx <| caught <| g.authenticated r ctx fun ctx ↦
    g.metered r <| tunnelled r <| g.handle r limit ctx

/-- What becomes of a response with its identifier. -/
def outward (g : Gateway) (r : Request) (a : Response) : Response :=
  let a := ContentCoding.apply r.headers a
  if g.config.cors.enabled then
    { a with headers := Cors.mark g.config.cors r.headers a.headers }
  else a

theorem status_outward (a : Response) : (g.outward r a).status = a.status := by
  unfold outward
  dsimp only
  split
  · exact ContentCoding.status_apply r.headers a
  · exact ContentCoding.status_apply r.headers a

theorem body_outward (a : Response) : (g.outward r a).body = a.body := by
  unfold outward
  dsimp only
  split
  · exact ContentCoding.body_apply r.headers a
  · exact ContentCoding.body_apply r.headers a

theorem carries_outward {a : Response} {id : String} (h : a.Carries id) :
    (g.outward r a).Carries id := by
  unfold outward
  dsimp only
  split
  · exact (h.apply r.headers).mark g.config.cors r.headers
  · exact h.apply r.headers

/-- What a request has come to, before its response is sealed. -/
inductive Course (g : Gateway) (r : Request) : List (Deed State) → Option Response → Prop where
  /-- Nothing has come of it yet. -/
  | before {ds : List (Deed State)} (quiet : ∀ d ∈ ds, Unnoticed d) : Course g r ds none
  | tooLong (long : g.ClaimsTooMuch r) : Course g r [] (some lengthExceeded)
  | refused {ds : List (Deed State)} (n : Nat) (quiet : ∀ d ∈ ds, Unnoticed d) :
      Course g r ds (some (.ofFault .rateLimited (some (g.ids.fresh n))))
  | question {ds : List (Deed State)} {response : Response} (asked : g.IsPreflight r)
      (status : response.status = 200) (quiet : ∀ d ∈ ds, Unnoticed d) :
      Course g r ds (some response)
  | identified {ds₁ ds₂ ds₃ : List (Deed State)} {d : Deed State} {mid : Time} {limit : Nat}
      (ctx : Context) {response : Option Response} (quiet : ∀ d ∈ ds₁, Unnoticed d)
      (taken : g.takeId r.headers d.instant d.before = (ctx.requestId, d.after))
      (quiet' : ∀ d ∈ ds₂, Unnoticed d)
      (goes : (g.answering r limit ctx).Proceeds mid ds₃ response) :
      Course g r (ds₁ ++ d :: (ds₂ ++ ds₃))
        (response.map fun a ↦ g.outward r (a.withRequestId ctx.requestId))

/-- What goes before does not matter, if no service notices it. -/
theorem Course.after {ds₀ : List (Deed State)} (hquiet : ∀ d ∈ ds₀, Unnoticed d)
    (h : Course g r ds response) (htooLong : ¬ g.ClaimsTooMuch r) :
    Course g r (ds₀ ++ ds) response := by
  cases h with
  | before quiet => exact .before (List.forall_mem_append.mpr ⟨hquiet, quiet⟩)
  | tooLong long => exact absurd long htooLong
  | refused n quiet => exact .refused n (List.forall_mem_append.mpr ⟨hquiet, quiet⟩)
  | question asked status quiet =>
    exact .question asked status (List.forall_mem_append.mpr ⟨hquiet, quiet⟩)
  | identified ctx quiet taken quiet' goes =>
    rw [← List.append_assoc]
    exact .identified ctx (List.forall_mem_append.mpr ⟨hquiet, quiet⟩) taken quiet' goes

/-- A request that the rate limiter lets through goes on; another is refused under an identifier of
its own. -/
theorem exists_of_rateLimited {next : Stage}
    (h : (g.rateLimited r next).Proceeds now ds response) :
    ∃ ds₁ ds₂, ds = ds₁ ++ ds₂ ∧ (∀ d ∈ ds₁, Unnoticed d) ∧
      ((ds₂ = [] ∧ response = none) ∨
        ∃ mid, next.Proceeds mid ds₂ response ∨ g.denied.Proceeds mid ds₂ response) := by
  unfold rateLimited at h
  split at h
  · exact ⟨[], ds, rfl, nofun, .inr ⟨now, .inl h⟩⟩
  have hquiet (t : Activity CounterStore Verdict) :
      (t.onPart State.store setStore).Always Unnoticed := by
    apply always_onPart
    exact fun _ _ _ ↦ rfl
  obtain ⟨hcounts, rfl⟩ | ⟨ds₁, mid, verdict, ds₂, hcounts, hgoes, rfl⟩ := h.of_bind
  · exact ⟨ds, [], (List.append_nil ds).symm, (hquiet _).of_proceeds hcounts, .inl ⟨rfl, rfl⟩⟩
  have hcounted : ∀ d ∈ ds₁, Unnoticed d := (hquiet _).of_does hcounts
  have hverdict {mid : Time} {ds₂ : List (Deed State)}
      (h : (if (RateLimiter.ofConfig g.config.rateLimit).allows verdict then next
        else g.denied).Proceeds mid ds₂ response) :
      ∃ mid, next.Proceeds mid ds₂ response ∨ g.denied.Proceeds mid ds₂ response := by
    split at h
    · exact ⟨mid, .inl h⟩
    · exact ⟨mid, .inr h⟩
  -- That the store has failed is counted first.
  have hnoted (h : (Activity.act countStoreError fun _ _ ↦
      if (RateLimiter.ofConfig g.config.rateLimit).allows verdict then next
        else g.denied).Proceeds mid ds₂ response) :
      ∃ ds₃ ds₄, ds₁ ++ ds₂ = ds₃ ++ ds₄ ∧ (∀ d ∈ ds₃, Unnoticed d) ∧
        ((ds₄ = [] ∧ response = none) ∨
          ∃ mid, next.Proceeds mid ds₄ response ∨ g.denied.Proceeds mid ds₄ response) := by
    cases h with
    | cut => exact ⟨ds₁, [], rfl, hcounted, .inl ⟨rfl, rfl⟩⟩
    | @act _ _ _ s ds₂ _ rest =>
      refine ⟨ds₁ ++ [⟨mid, s, countStoreError mid s⟩], ds₂, by simp, ?_, .inr (hverdict rest)⟩
      exact List.forall_mem_append.mpr ⟨hcounted, List.forall_mem_singleton.mpr rfl⟩
  cases verdict with
  | counted n => exact ⟨ds₁, ds₂, rfl, hcounted, .inr (hverdict hgoes)⟩
  | failed => exact hnoted hgoes
  | timedOut => exact hnoted hgoes

theorem course_of_denied (h : g.denied.Proceeds now ds response) : Course g r ds response := by
  obtain ⟨first, hmade, rfl⟩ := h.of_map
  obtain ⟨rfl, rfl⟩ | ⟨s, ds, rfl, hdone⟩ := hmade.of_act
  · exact .before nofun
  obtain ⟨rfl, rfl | rfl⟩ := hdone.of_done
  · exact .before (List.forall_mem_singleton.mpr rfl)
  · exact .refused s.nextId (List.forall_mem_singleton.mpr rfl)

theorem unnoticed_takeId (g : Gateway) (h : Headers) (now : Time) (s : State) :
    Unnoticed ⟨now, s, (g.takeId h now s).2⟩ := by
  unfold takeId
  split
  · rfl
  · rfl

theorem course_of_identified {limit : Nat}
    (h : (g.identified r (g.answering r limit)).Proceeds now ds response) :
    Course g r ds (response.map (g.outward r)) := by
  obtain ⟨rfl, rfl⟩ | ⟨s, ds, rfl, hidentified⟩ := h.of_act
  · exact .before nofun
  have htaken : Unnoticed ⟨now, s, (g.takeId r.headers now s).2⟩ :=
    g.unnoticed_takeId r.headers now s
  obtain ⟨rfl, rfl⟩ | ⟨s', ds, rfl, hrest⟩ := hidentified.of_act
  · exact .before (List.forall_mem_singleton.mpr htaken)
  have hkept : ∀ d ∈ [(⟨now, s', keep now s'⟩ : Deed State)], Unnoticed d :=
    List.forall_mem_singleton.mpr rfl
  dsimp only at hrest
  split at hrest
  · cases hrest with
    | cut => exact .before (List.forall_mem_cons.mpr ⟨htaken, hkept⟩)
  · obtain ⟨first, hgoes, rfl⟩ := hrest.of_map
    rename_i deadline _
    let ctx : Context :=
      { requestId := (g.takeId r.headers now s).1, deadline
        sessionKey := Cookie.value? r.headers Cookie.sessionName }
    have htakes : g.takeId r.headers now s = (ctx.requestId, (g.takeId r.headers now s).2) :=
      Prod.mk.eta.symm
    have hnone : ∀ d ∈ ([] : List (Deed State)), Unnoticed d := nofun
    have hcourse := Course.identified (d := ⟨now, s, _⟩) ctx hnone htakes hkept hgoes
    rw [Option.map_map]
    exact hcourse

theorem course_of_crossOrigin {limit : Nat}
    (h : (g.crossOrigin r (compressed r (g.identified r (g.answering r limit)))).Proceeds now ds
      response) : Course g r ds response := by
  unfold crossOrigin at h
  cases hcors : g.config.cors.enabled with
  | false =>
    simp only [hcors, Bool.not_false, ↓reduceIte] at h
    obtain ⟨first, hgoes, rfl⟩ := h.of_map
    have hsame : ContentCoding.apply r.headers = g.outward r := by
      funext a
      simp [outward, hcors]
    rw [hsame]
    exact course_of_identified hgoes
  | true =>
    simp only [hcors, Bool.not_true, Bool.false_eq_true, ↓reduceIte] at h
    split at h
    · rename_i hmethod
      obtain ⟨rfl, rfl | rfl⟩ := h.of_done
      · exact .before nofun
      · exact .question ⟨hcors, hmethod⟩ rfl nofun
    · obtain ⟨second, hcoded, rfl⟩ := h.of_map
      obtain ⟨first, hgoes, rfl⟩ := hcoded.of_map
      have hsame : (fun a : Response ↦
          { a with headers := Cors.mark g.config.cors r.headers a.headers }) ∘
            ContentCoding.apply r.headers = g.outward r := by
        funext a
        simp [outward, hcors]
      rw [Option.map_map, hsame]
      exact course_of_identified hgoes

/-- Whatever has been done for a request is one of these courses. -/
theorem course_of_stages (h : (g.stages r).Proceeds now ds response) : Course g r ds response := by
  have hpassed {limit : Nat} (hfits : ¬ g.ClaimsTooMuch r)
      (h : (g.rateLimited r <| g.crossOrigin r <| compressed r <| g.identified r <|
        g.answering r limit).Proceeds now ds response) : Course g r ds response := by
    obtain ⟨ds₁, ds₂, rfl, hquiet, ⟨rfl, rfl⟩ | ⟨mid, hgoes | hdenied⟩⟩ := exists_of_rateLimited h
    · rw [List.append_nil]
      exact .before hquiet
    · exact (course_of_crossOrigin hgoes).after hquiet hfits
    · exact (course_of_denied hdenied).after hquiet hfits
  unfold stages stagesBy bounded at h
  dsimp only at h
  split at h
  · rename_i hnone
    refine hpassed ?_ h
    rintro ⟨n, hn, -⟩
    rw [hnone] at hn
    cases hn
  · rename_i n hn
    split at h
    · rename_i hlong
      cases h with
      | done => exact .tooLong ⟨n, hn, hlong⟩
      | cut => exact .before nofun
    · rename_i hfits
      refine hpassed ?_ h
      rintro ⟨m, hm, hlong⟩
      cases hn.symm.trans hm
      exact hfits hlong

end RpcGateway.Gateway
