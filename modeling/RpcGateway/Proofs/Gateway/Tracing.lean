import RpcGateway.Proofs.Gateway.Correlation

/-!
# Errors that can be traced

An error is told together with the identifier that the response has in its header, so that whoever
complains of it can name the request. There are two exceptions: the stage that answers in place of
what has broken down does not know the identifier, and the handler of metrics that are not recorded
leaves it out. For these errors the identifier is in the header only.
-/

namespace RpcGateway.Gateway

open Activity Http Calls Json Access

/-- The text of a body that is too long is no JSON, whether or not it is sent. -/
theorem parse?_lengthExceeded (g : Gateway) (r : Request) :
    Value.parse? (g.sealed r lengthExceeded).body = none := by
  rw [show (g.sealed r lengthExceeded).body = _ from body_completed r _ lengthExceeded]
  split
  · exact Response.parse?_nil
  · decide +kernel

/-! ## What clients see -/

/-- What a client looks for in a response to an error: the status, the body, and the identifiers in
the header. -/
def traced (t : Stage) (s : State) : Option (Nat × Bytes × List Bytes) :=
  (t.run 0 s).2.2.result?.map fun a ↦ (a.status, a.body, a.headers.all RequestId.headerName)

theorem exists_of_traced {t : Stage} {s : State} {status : Nat} {code message id : String}
    {told : Option String} (hstatus : 400 ≤ status)
    (h : traced t s =
      some (status, (Response.errorBody code message told).render, [Utf8.encode id])) :
    ∃ ds answer, t.Proceeds 0 ds (some answer) ∧ answer.Carries id ∧
      answer.TellsError code message (Value.ofOption .string told) := by
  obtain ⟨answer, hanswer, heq⟩ := Option.map_eq_some_iff.mp h
  obtain ⟨rfl, hbody, hcarries⟩ : answer.status = status ∧ answer.body = _ ∧ _ = _ := by
    simpa using heq
  obtain ⟨ds, hproceeds, -⟩ := Activity.proceeds_of_run t 0 s
  rw [hanswer] at hproceeds
  exact ⟨ds, answer, hproceeds, hcarries, Response.tellsError_of_errorBody hstatus hbody⟩

/-! ## Errors and identifiers -/

/-- Every error with a JSON body comes with an identifier in its header, and tells that identifier
unless it is one of the two that tell none: that of a breakdown, and that of a gateway asked for
metrics which it does not record. -/
theorem errors_tell_their_identifier (g : Gateway) (r : Request) (now : Time)
    (ds : List (Deed State)) (answer : Response) (h : (g.serve r).Proceeds now ds (some answer))
    (code message : String) (v : Value) (htells : answer.TellsError code message v) :
    ∃ id, answer.Carries id ∧ (v = .string id ∨ (v = .null ∧ Nameless g r answer.body)) := by
  obtain ⟨first, hcourse, hfirst⟩ := h.of_map
  obtain ⟨a, rfl, rfl⟩ := Option.map_eq_some_iff.mp hfirst.symm
  generalize hunsealed : some a = unsealed at hcourse
  cases course_of_stages hcourse with
  | before => cases hunsealed
  | tooLong =>
    cases hunsealed
    exact absurd (g.parse?_lengthExceeded r) htells.parse?_ne_none
  | question _ status =>
    cases hunsealed
    have hlarge := htells.status
    rw [show (g.sealed r a).status = a.status from status_completed r _ a, status] at hlarge
    exact absurd hlarge (by decide)
  | refused n =>
    have ha : a = .ofFault .rateLimited (some (g.ids.fresh n)) := Option.some.inj hunsealed
    have hid := g.ids.wellFormed_fresh n
    rw [ha] at htells ⊢
    exact ⟨_, carries_completed (Response.carries_ofFault _ hid), (tells_ofFault _).sealed htells⟩
  | identified ctx quiet taken quiet' goes =>
    obtain ⟨-, hanswer⟩ := faithful_of_taken quiet taken quiet' goes
    obtain ⟨inner, hinner, rfl⟩ := Option.map_eq_some_iff.mp hunsealed.symm
    obtain ⟨hcarries, hidentifier⟩ := hanswer inner hinner
    exact ⟨ctx.requestId, hcarries, hidentifier htells⟩

/-- Who asks for orders without credentials is told the identifier of that request. -/
theorem refused_order_tells_its_identifier :
    ∃ (answer : Response) (code message : String),
      answer.TellsError code message (.string "r1") ∧ answer.Carries "r1" := by
  have htraced : traced
      (ordersOnly.serve (named { method := "GET", path := "/api/orders" } "r1")) {} =
        some (401, (Response.errorBody "unauthenticated" "authorization header required"
          (some "r1")).render, [Utf8.encode "r1"]) := by decide +kernel
  obtain ⟨ds, answer, hproceeds, -, htells⟩ := exists_of_traced (by decide) htraced
  refine ⟨answer, _, _, htells, ?_⟩
  obtain ⟨id, hcarries, hid | ⟨hnull, -⟩⟩ :=
    errors_tell_their_identifier _ _ _ _ _ hproceeds _ _ _ htells
  · cases hid
    exact hcarries
  · cases hnull

/-- A gateway with metrics that are not recorded. -/
def unrecorded : Gateway where
  config := { auth := { enabled := false }, rateLimit := { enabled := false } }
  routes := ⟨[("/metrics".toList.map .literal, [("GET", .metrics)])]⟩
  policy := ⟨1, 0⟩
  services := []
  recording := false
  ids := .counted

/-- Services of which one breaks down. -/
def ordersBroken : State :=
  let broken : Backend := .ofReplies [("*", [{ answer := .panic }])]
  { registry := { services := [{ name := "orders", breaker := .new {} 0, backend := broken }] } }

/-- Both exceptions occur: the identifier is in the header, and a null in the body. -/
theorem two_errors_tell_no_identifier :
    (∃ ds answer, (unrecorded.serve (named { method := "GET", path := "/metrics" } "r1")).Proceeds 0
        ds (some answer) ∧ answer.Carries "r1" ∧
          answer.TellsError "not_found" "no route matches this path" .null) ∧
      ∃ ds answer, (({ ordersOnly with config := unrecorded.config } : Gateway).serve
        (named { method := "GET", path := "/api/orders" } "r1")).Proceeds 0 ds (some answer) ∧
          answer.Carries "r1" ∧ answer.TellsError "internal" "internal server error" .null := by
  have hmetrics : traced
      (unrecorded.serve (named { method := "GET", path := "/metrics" } "r1")) {} =
        some (404, (Response.errorBody "not_found" "no route matches this path" none).render,
          [Utf8.encode "r1"]) := by decide +kernel
  have hbroken : traced (({ ordersOnly with config := unrecorded.config } : Gateway).serve
      (named { method := "GET", path := "/api/orders" } "r1")) ordersBroken =
        some (500, (Response.errorBody "internal" "internal server error" none).render,
          [Utf8.encode "r1"]) := by decide +kernel
  exact ⟨exists_of_traced (by decide) hmetrics, exists_of_traced (by decide) hbroken⟩

end RpcGateway.Gateway
