import RpcGateway.Proofs.Activity.Progress
import RpcGateway.Proofs.Dispatch.Outcomes

/-!
# Histories of calls

What an activity over the services does is to call them, one call after the other, and nothing else
to any of them. The last call may be cut off. Whatever has been sent to a backend belongs to one of
the calls.
-/

namespace RpcGateway.Calls

open Json Registry

/-- A call of a service that has begun, and its result if it has one. -/
structure Dispatch where
  service : String
  deadline : Deadline
  request : Rpc.Request
  result? : Option (Except Fault Value)

/-- Changes of a registry that are those of some calls, one after the other. -/
inductive Dispatches (policy : RetryPolicy) : List (Deed Registry) → List Dispatch → Prop where
  | nil : Dispatches policy [] []
  | idle {d : Deed Registry} {ds : List (Deed Registry)} {cs : List Dispatch} (idle : d.Idle)
      (rest : Dispatches policy ds cs) : Dispatches policy (d :: ds) cs
  | call {c : Dispatch} {now : Time} {ds ds' : List (Deed Registry)} {cs : List Dispatch}
      (begun : ds ≠ [])
      (goes : (call policy c.service c.deadline c.request).Proceeds now ds c.result?)
      (rest : Dispatches policy ds' cs) : Dispatches policy (ds ++ ds') (c :: cs)

variable {policy : RetryPolicy} {service : String} {deadline : Deadline} {request : Rpc.Request}
  {ds ds' : List (Deed Registry)} {cs cs' : List Dispatch}

namespace Dispatches

theorem of_idle (h : ∀ d ∈ ds, d.Idle) : Dispatches policy ds [] := by
  induction ds with
  | nil => exact .nil
  | cons d ds ih =>
    rw [List.forall_mem_cons] at h
    exact .idle h.1 (ih h.2)

theorem append (h : Dispatches policy ds cs) (h' : Dispatches policy ds' cs') :
    Dispatches policy (ds ++ ds') (cs ++ cs') := by
  induction h with
  | nil => exact h'
  | idle idle _ ih => exact .idle idle ih
  | call begun goes _ ih =>
    rw [List.append_assoc]
    exact .call begun goes ih

/-- Where nothing has been done, no call has begun. -/
theorem eq_nil (h : Dispatches policy [] cs) : cs = [] := by
  generalize hds : ([] : List (Deed Registry)) = ds at h
  cases h with
  | nil => rfl
  | idle => cases hds
  | call begun => exact absurd (List.append_eq_nil_iff.mp hds.symm).1 begun

end Dispatches

/-! ## What has been sent -/

/-- A call sends nothing but its request. -/
theorem always_calls : (call policy service deadline request).Always fun d ↦
    d.after.calls = d.before.calls ∨ d.after.calls = (service, request) :: d.before.calls := by
  apply always_call
  · exact fun now r ↦ .inr rfl
  · exact fun d h ↦ .inl h.calls
  · exact fun now r r' change h ↦ h

theorem sentBy_append : sentBy (ds ++ ds') = sentBy ds ++ sentBy ds' :=
  List.flatMap_append

/-- Each request that has been sent is that of some call. -/
theorem Dispatches.exists_of_mem_sentBy (h : Dispatches policy ds cs) {x : String × Rpc.Request}
    (hx : x ∈ sentBy ds) : ∃ c ∈ cs, x = (c.service, c.request) := by
  induction h with
  | nil => cases hx
  | @idle d ds cs idle _ ih =>
    have hnone : sentBy (d :: ds) = sentBy ds := by
      simp [sentBy, show d.after = d.before from idle]
    exact ih (hnone ▸ hx)
  | @call c now ds ds' cs _ goes _ ih =>
    rw [sentBy_append, List.mem_append] at hx
    cases hx with
    | inl hcall =>
      obtain ⟨d, hd, hx⟩ := List.mem_flatMap.mp hcall
      refine ⟨c, List.mem_cons_self, ?_⟩
      cases always_calls.of_proceeds goes d hd with
      | inl hsame => simp [hsame] at hx
      | inr hsent => simpa [hsent] using hx
    | inr hlater =>
      obtain ⟨c', hc', hx⟩ := ih hlater
      exact ⟨c', List.mem_cons_of_mem _ hc', hx⟩

end RpcGateway.Calls
