import RpcGateway.Http.Response
import RpcGateway.Proofs.Breaker.OpenPeriod
import RpcGateway.Proofs.Breaker.Readings
import RpcGateway.Proofs.Dispatch.Outcomes

/-!
# What a refused caller is told to wait

A caller that an open breaker refuses is told the whole seconds of the time that is left, and never
less than one. If nobody calls meanwhile, the next call is let in from the end of that time on and
not before. So the whole seconds are enough only where nothing was cut off, or where the one second
is more than the time that is left; in any case one second more is enough.
-/

namespace RpcGateway

namespace Http

theorem Headers.get?_set (h : Headers) (name : String) (value : Bytes) :
    (h.set name value).get? name = some value := by
  have hremoved : (h.remove name).find? (fun f ↦ f.1 = name) = none := by
    simp [remove]
  simp only [get?, set, add, List.find?_append, hremoved]
  simp

/-- The answer to a refused call tells the seconds, at least one. -/
theorem Response.retryAfter_ofFault (service : String) (secs : Nat) (id : Option String) :
    (ofFault (.circuitOpen service secs) id).headers.get? "retry-after" =
      some (Utf8.encode (toString (max 1 secs))) := by
  unfold ofFault
  exact Headers.get?_set _ _ _

end Http

namespace Calls

namespace Traffic

variable {s s' : Traffic} {c : Config.CircuitBreaker} {start t : Time} {events later : List Event}

/-- From an open breaker on, if nobody calls, the next call is let in once the time that was left
has passed, and not before. -/
theorem admits_iff_of_open (hs : s = (new c start).run events)
    (hopen : s.refreshed.breaker.state = .open) (hquiet : .arrive ∉ later)
    (hprompt : (s.run later).Prompt) :
    ((s.run later).breaker.acquire (s.run later).now).1.isSome ↔
      s.now + s.retryAfter ≤ (s.run later).now := by
  have hfresh := fresh_of_refreshed_open hopen
  rw [refreshed_of_fresh hfresh] at hopen
  obtain ⟨t, -, -, hopened, hle⟩ := (hs ▸ dated_run c start events : s.Dated) hopen
  obtain ⟨-, hleft⟩ := retryAfter_of_fresh hopen hopened hle hfresh
  have htimeout := Breaker.openTimeout_eq (moves_run s later).settings
  rw [hleft, ← htimeout]
  constructor
  · intro hadmitted
    apply Nat.le_of_not_lt
    intro hlt
    have hstays : (s.run later).StaysOpen t :=
      (moves_run s later).keeps StaysOpen.move ⟨hle, fun _ ↦ ⟨hopen, hopened⟩⟩
    obtain ⟨hrefused, -⟩ := hstays.refuses hlt
    rw [hrefused] at hadmitted
    cases hadmitted
  · intro hpassed
    have hwaits : (s.run later).Waits t := by
      apply Waits.run (.inl ⟨hopen, hopened, hle⟩) (hs ▸ stamped_run c start events) hprompt
      intro k _ hasks
      exact absurd (List.mem_of_getElem? hasks) hquiet
    have hrun : s.run later = (new c start).run (events ++ later) := by
      rw [run_append, ← hs]
    obtain ⟨p, hadmitted, -⟩ := hwaits.admits hrun hprompt hpassed
    rw [hadmitted]
    rfl

end Traffic

namespace Registry

variable {s : Traffic} {r : Registry} {service : String} {request : Rpc.Request}
  {deadline : Deadline} {policy : RetryPolicy}

/-- A call that an open breaker refuses leaves the breaker as it is, and is told the whole seconds
of the time that is left. -/
theorem run_refused_by_open (hopen : s.refreshed.breaker.state = .open)
    (hb : r.breaker? service = some s.breaker) :
    ∃ r', (call policy service deadline request).run s.now r =
        (s.now, r', .done (.error (.circuitOpen service (s.retryAfter / 1000)))) ∧
      r'.breaker? service = some s.breaker := by
  have hfresh := Traffic.fresh_of_refreshed_open hopen
  have hsame : s.breaker.refresh s.now = s.breaker := hfresh.refresh_eq
  have hrefused := Breaker.acquire_of_open hopen
  have hasked : (acquire service s.now r).2.breaker? service = some s.breaker := by
    rw [breaker?_acquire_self, hb, Option.map_some, Breaker.acquire_of_refused hrefused, hsame]
  have hrun : (call policy service deadline request).run s.now r = _ :=
    run_rejected (service?_ne_none hb) ((acquire_fst hb).trans hrefused)
  have hsecs : (retryAfterSecs service s.now (acquire service s.now r).2).1 =
      s.retryAfter / 1000 := retryAfterSecs_fst hasked
  rw [hsecs] at hrun
  refine ⟨_, hrun, ?_⟩
  rw [breaker?_retryAfterSecs_self, hasked, Option.map_some, hsame]

/-- A caller that an open breaker refuses is told the whole seconds of the time that is left, and at
least one second. If nobody calls meanwhile, the next call is let in from the end of the time that
was left on. So at the end of the seconds told it is let in just where no part of a second was cut
off, or no more than one second was left; one second later it is let in whatever was left. -/
theorem told_seconds_suffice_iff (c : Config.CircuitBreaker) (start : Time)
    (events later : List Traffic.Event) (policy : RetryPolicy) (service : String)
    (deadline : Deadline) (request : Rpc.Request) (r r' : Registry) :
    let s := (Traffic.new c start).run events
    let s' := s.run later
    let left := s.retryAfter
    let told := max 1 (left / 1000)
    s.refreshed.breaker.state = .open → r.breaker? service = some s.breaker →
      (∃ r₁, (call policy service deadline request).run s.now r =
          (s.now, r₁, .done (.error (.circuitOpen service (left / 1000)))) ∧
        r₁.breaker? service = some s.breaker ∧
        ∀ id, (Http.Response.ofFault (.circuitOpen service (left / 1000)) id).headers.get?
          "retry-after" = some (Utf8.encode (toString told))) ∧
      (.arrive ∉ later → s'.Prompt → r'.breaker? service = some s'.breaker →
        ((acquire service s'.now r').1.isSome ↔ s.now + left ≤ s'.now) ∧
        (s'.now = s.now + 1000 * told →
          ((acquire service s'.now r').1.isSome ↔ left ≤ 1000 ∨ left % 1000 = 0)) ∧
        (s'.now = s.now + 1000 * (told + 1) → (acquire service s'.now r').1.isSome)) := by
  intro s s' left told hopen hb
  constructor
  · obtain ⟨r₁, hrun, hb₁⟩ := run_refused_by_open hopen hb
    exact ⟨r₁, hrun, hb₁, Http.Response.retryAfter_ofFault service (left / 1000)⟩
  · intro hquiet hprompt hb'
    have hadmits : (acquire service s'.now r').1.isSome ↔ s.now + left ≤ s'.now := by
      rw [acquire_fst hb']
      exact Traffic.admits_iff_of_open rfl hopen hquiet hprompt
    have htold : told = max 1 (left / 1000) := rfl
    refine ⟨hadmits, fun hnow ↦ ?_, fun hnow ↦ ?_⟩
    · rw [hadmits, hnow, Nat.add_le_add_iff_left]
      clear_value told left
      unfold Time at *
      omega
    · rw [hadmits, hnow, Nat.add_le_add_iff_left]
      clear_value told left
      unfold Time at *
      omega

/-- One second is told of a timeout of a second and a half: the call that comes then is refused, and
the one that comes a second later is not. -/
theorem told_second_of_one_and_a_half :
    let s := (Traffic.new ⟨1, 1500, 1, 0⟩ 0).run [.arrive, .complete 0 false]
    let request : Rpc.Request := { operation := "OrderInfo", requestId := "1" }
    let r : Registry := { services := [{ name := "orders", breaker := s.breaker }] }
    let call := call (RetryPolicy.ofConfig {}) "orders" ⟨9000⟩ request
    s.refreshed.breaker.state = .open ∧ r.breaker? "orders" = some s.breaker ∧
      (∃ r', call.run 0 r = (0, r', .done (.error (.circuitOpen "orders" 1)))) ∧
      ¬ (acquire "orders" 1000 r).1.isSome ∧ (acquire "orders" 2000 r).1.isSome := by
  intro s request r call
  have hopen : s.refreshed.breaker.state = .open := by decide
  have hb : r.breaker? "orders" = some s.breaker := by cbv
  have htold (ms : Nat) := told_seconds_suffice_iff ⟨1, 1500, 1, 0⟩ 0
    [.arrive, .complete 0 false] [.advance ms] (RetryPolicy.ofConfig {}) "orders" ⟨9000⟩ request r r
    hopen hb
  obtain ⟨⟨r', hrun, -⟩, hthen⟩ := htold 1000
  obtain ⟨-, hlater⟩ := htold 2000
  refine ⟨hopen, hb, ⟨r', hrun⟩, fun hadmitted ↦ ?_, ?_⟩
  · have hwhole := ((hthen (by decide) (by decide) hb).2.1 (by decide)).mp hadmitted
    revert hwhole
    decide
  · exact (hlater (by decide) (by decide) hb).2.2 (by decide)

/-- The seconds told are not always enough. -/
theorem told_second_falls_short :
    ¬ ∀ (c : Config.CircuitBreaker) (start : Time) (events later : List Traffic.Event)
      (policy : RetryPolicy) (service : String) (deadline : Deadline) (request : Rpc.Request)
      (r r₁ r' : Registry) (secs n : Nat),
      let s := (Traffic.new c start).run events
      let s' := s.run later
      s.refreshed.breaker.state = .open → r.breaker? service = some s.breaker →
        (call policy service deadline request).run s.now r =
          (s.now, r₁, .done (.error (.circuitOpen service secs))) →
        (Http.Response.ofFault (.circuitOpen service secs) none).headers.get? "retry-after" =
          some (Utf8.encode (toString n)) →
        .arrive ∉ later → s'.Prompt → r'.breaker? service = some s'.breaker →
        s'.now = s.now + 1000 * n → (acquire service s'.now r').1.isSome := by
  intro h
  let s := (Traffic.new ⟨1, 1500, 1, 0⟩ 0).run [.arrive, .complete 0 false]
  let request : Rpc.Request := { operation := "OrderInfo", requestId := "1" }
  let r : Registry := { services := [{ name := "orders", breaker := s.breaker }] }
  have hb : r.breaker? "orders" = some s.breaker := by cbv
  have hrefused : ∃ r₁,
      (call (RetryPolicy.ofConfig {}) "orders" ⟨9000⟩ request).run s.now r = _ ∧ _ :=
    run_refused_by_open (by decide) hb
  obtain ⟨r₁, hrun, -⟩ := hrefused
  have hsecs : s.retryAfter / 1000 = 1 := by decide
  rw [hsecs] at hrun
  have hadmitted := h ⟨1, 1500, 1, 0⟩ 0 [.arrive, .complete 0 false] [.advance 1000] _ "orders" _ _
    r r₁ r 1 1 (by decide) hb hrun (Http.Response.retryAfter_ofFault "orders" 1 none) (by decide)
    (by decide) hb (by decide)
  rw [acquire_fst hb] at hadmitted
  revert hadmitted
  decide

end Registry

end Calls

end RpcGateway
