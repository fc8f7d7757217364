import RpcGateway.Gateway.Pipeline
import RpcGateway.Proofs.Dispatch.Dispatches

/-!
# What an activity of the gateway calls

An activity of the gateway calls services one after the other, and does much else that is of no
interest to the services. What is said of it is said of the calls that it has made by any time, and
of its result if it has one by then. For each way of putting activities together there is a rule
that says it of the whole, given what is said of the parts.
-/

namespace RpcGateway.Gateway

open Calls Json

variable {α β : Type} {policy : RetryPolicy} {t : Activity State α} {f : α → Activity State β}

/-- Whatever the activity has done, its calls so far and its result are as they should be. -/
def Behaves (policy : RetryPolicy) (t : Activity State α)
    (post : List Dispatch → Option α → Prop) : Prop :=
  ∀ ⦃now ds result⦄, t.Proceeds now ds result →
    ∃ cs, Dispatches policy (ds.map (Deed.map State.registry)) cs ∧ post cs result

/-- A change that no service notices. -/
def Unnoticed (d : Deed State) : Prop := (d.map State.registry).Idle

namespace Behaves

variable {post post' : List Dispatch → Option α → Prop} {post₂ : List Dispatch → Option β → Prop}

theorem nil (h : Behaves policy t post) : post [] none := by
  obtain ⟨cs, hcalls, hpost⟩ := h (.cut t 0)
  rwa [hcalls.eq_nil] at hpost

/-- What is known of behaviour may be weakened. -/
theorem mono (h : Behaves policy t post) (himp : ∀ cs result, post cs result → post' cs result) :
    Behaves policy t post' := by
  intro now ds result hproceeds
  obtain ⟨cs, hcalls, hpost⟩ := h hproceeds
  exact ⟨cs, hcalls, himp cs result hpost⟩

/-- What no service notices behaves like nothing. -/
theorem of_unnoticed (h : t.Always Unnoticed) (hpost : ∀ result, post [] result) :
    Behaves policy t post := by
  intro now ds result hproceeds
  refine ⟨[], .of_idle ?_, hpost result⟩
  rw [List.forall_mem_map]
  exact h.of_proceeds hproceeds

theorem done {a : α} (hunseen : post [] none) (hdone : post [] (some a)) :
    Behaves policy (.done a) post := by
  intro now ds result hproceeds
  cases hproceeds with
  | done => exact ⟨[], .nil, hdone⟩
  | cut => exact ⟨[], .nil, hunseen⟩

theorem panic (h : post [] none) : Behaves policy (.panic : Activity State α) post := by
  intro now ds result hproceeds
  cases hproceeds with
  | cut => exact ⟨[], .nil, h⟩

/-- A change that leaves the services alone comes before the behaviour of the rest. -/
theorem act {change : Time → State → State} {next : Time → State → Activity State α}
    (hidle : ∀ now s, (change now s).registry = s.registry)
    (hnext : ∀ now s, Behaves policy (next now s) post) :
    Behaves policy (.act change next) post := by
  intro now ds result hproceeds
  cases hproceeds with
  | cut => exact ⟨[], .nil, (hnext 0 {}).nil⟩
  | @act _ _ _ s _ _ rest =>
    obtain ⟨cs, hcalls, hpost⟩ := hnext now s rest
    exact ⟨cs, .idle (hidle now s) hcalls, hpost⟩

/-- A wait may be cut short, and then nothing has been done. -/
theorem wait {wake : Option Time} {age : Nat} {drop : Time → State → State}
    {next : Activity State α} (hidle : ∀ now s, (drop now s).registry = s.registry)
    (hnext : Behaves policy next post) : Behaves policy (.wait wake age drop next) post := by
  intro now ds result hproceeds
  cases hproceeds with
  | cut => exact ⟨[], .nil, hnext.nil⟩
  | wait late rest => exact hnext rest
  | drop s late => exact ⟨[], .idle (hidle _ s) .nil, hnext.nil⟩

/-- The calls of an activity come before those of what follows it. -/
theorem bind (h : Behaves policy t post) (hunseen : ∀ cs, post cs none → post₂ cs none)
    (hnext : ∀ cs a, post cs (some a) →
      Behaves policy (f a) fun cs' result ↦ post₂ (cs ++ cs') result) :
    Behaves policy (t.bind f) post₂ := by
  intro now ds result hproceeds
  obtain ⟨hfirst, rfl⟩ | ⟨ds₁, mid, a, ds₂, hfirst, hsecond, rfl⟩ := hproceeds.of_bind
  · obtain ⟨cs, hcalls, hpost⟩ := h hfirst
    exact ⟨cs, hcalls, hunseen cs hpost⟩
  · obtain ⟨cs, hcalls, hpost⟩ := h hfirst.proceeds
    obtain ⟨cs', hcalls', hpost'⟩ := hnext cs a hpost hsecond
    refine ⟨cs ++ cs', ?_, hpost'⟩
    rw [List.map_append]
    exact hcalls.append hcalls'

/-- A result that is passed on may be changed on the way. -/
theorem map {g : α → β} (h : Behaves policy t post) (hunseen : ∀ cs, post cs none → post₂ cs none)
    (hdone : ∀ cs a, post cs (some a) → post₂ cs none ∧ post₂ cs (some (g a))) :
    Behaves policy (t.map g) post₂ := by
  apply h.bind hunseen
  intro cs a hpost
  apply Behaves.done
  · rw [List.append_nil]
    exact (hdone cs a hpost).1
  · rw [List.append_nil]
    exact (hdone cs a hpost).2

/-- What is given up has done the beginning of what it does. -/
theorem within {limit : Time} (h : Behaves policy t post) :
    Behaves policy (t.within limit) fun cs result ↦ post cs result.join :=
  fun _ _ _ hproceeds ↦ h hproceeds.of_withinAfter

/-- What is always done at the end is no behaviour if it leaves the services alone. -/
theorem ending {finish : Time → State → State}
    (hidle : ∀ now s, (finish now s).registry = s.registry) (h : Behaves policy t post) :
    Behaves policy (t.ending finish) post := by
  intro now ds result hproceeds
  obtain ⟨ds₁, ds₂, hfirst, hlast, hmap⟩ := hproceeds.of_ending hidle
  obtain ⟨cs, hcalls, hpost⟩ := h hfirst
  refine ⟨cs, ?_, hpost⟩
  rw [hmap, ← List.append_nil cs]
  exact hcalls.append (.of_idle hlast)

/-- An answer in place of a breakdown must do for what has been done by then. -/
theorem recovering {answer : α} (h : Behaves policy t post)
    (hanswer : ∀ cs, post cs none → post cs (some answer)) :
    Behaves policy (Activity.recovering (.done answer) t) post := by
  intro now ds result hproceeds
  obtain hsame | ⟨hunseen, rfl⟩ := hproceeds.of_recovering
  · exact h hsame
  · obtain ⟨cs, hcalls, hpost⟩ := h hunseen
    exact ⟨cs, hcalls, hanswer cs hpost⟩

/-- A call of a service has not begun, or is the only one. -/
theorem call {service : String} {deadline : Deadline} {request : Rpc.Request}
    {post : List Dispatch → Option (Except Fault Value) → Prop} (hnone : post [] none)
    (hcall : ∀ result, post [⟨service, deadline, request, result⟩] result) :
    Behaves policy (Forward.onRegistry (Registry.call policy service deadline request)) post := by
  intro now ds result hproceeds
  have hcalls := hproceeds.of_onPart (fun _ _ ↦ rfl)
  -- A call that has done nothing yet does not count.
  by_cases hbegun : ds = []
  · subst hbegun
    cases hproceeds with
    | cut => exact ⟨[], .nil, hnone⟩
  · refine ⟨[⟨service, deadline, request, result⟩], ?_, hcall result⟩
    rw [← List.append_nil (ds.map _)]
    exact .call (mt List.map_eq_nil_iff.mp hbegun) hcalls .nil

/-- The handler of a route refuses a request, or calls the service of its route once and answers
with what comes of that. -/
theorem forward {post : List Dispatch → Option Http.Response → Prop} {secureCookies : Bool}
    {service operation : String} {limit : Nat} {ctx : Context}
    {captures : Http.PathPattern.Captures} {body : Body} (hnone : post [] none)
    (hparam : ∀ name, post [] (some (Forward.invalidParam name)))
    (hlong : post [] (some Forward.bodyTooLong))
    (hfault : ∀ f, post [] (some (.ofFault f (some ctx.requestId))))
    (hcall : ∀ params payload result, post [⟨service, ctx.deadline,
      Forward.rpcRequest ctx operation params payload, result⟩] none)
    (hreply : ∀ params payload reply, post [⟨service, ctx.deadline,
      Forward.rpcRequest ctx operation params payload, some (.ok reply)⟩]
        (some (Forward.respond secureCookies ctx reply)))
    (hfailure : ∀ params payload f, post [⟨service, ctx.deadline,
      Forward.rpcRequest ctx operation params payload, some (.error f)⟩]
        (some (.ofFault f (some ctx.requestId)))) :
    Behaves policy
      (Forward.run (Registry.call policy) secureCookies service operation limit ctx captures body)
      post := by
  unfold Forward.run
  split
  · exact .done hnone (hparam _)
  rename_i params _
  split
  · exact .wait (fun _ _ ↦ rfl) (.panic hnone)
  refine .act (fun _ _ ↦ rfl) fun now s ↦ .wait (fun _ _ ↦ rfl) ?_
  dsimp only [Activity.bind]
  split
  · exact .done hnone hlong
  unfold Forward.withBody
  split
  · exact .done hnone (hfault _)
  rename_i payload _
  have hcalled : Behaves policy
      (Forward.onRegistry (Registry.call policy service ctx.deadline
        (Forward.rpcRequest ctx operation params payload)))
      fun cs result ↦ (cs = [] ∧ result = none) ∨
        cs = [⟨service, ctx.deadline, Forward.rpcRequest ctx operation params payload, result⟩] :=
    .call (.inl ⟨rfl, rfl⟩) fun _ ↦ .inr rfl
  apply hcalled.map
  · rintro cs (⟨rfl, -⟩ | rfl)
    · exact hnone
    · exact hcall params payload none
  · rintro cs answer (⟨-, hnothing⟩ | rfl)
    · cases hnothing
    refine ⟨hcall params payload _, ?_⟩
    cases answer with
    | ok reply => exact hreply params payload reply
    | error f => exact hfailure params payload f

end Behaves

end RpcGateway.Gateway
