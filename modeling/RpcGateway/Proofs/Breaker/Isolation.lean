import RpcGateway.Proofs.Breaker.Tripping
import RpcGateway.Proofs.Breaker.OpenPeriod

/-!
# Generations are isolated

What a call reports after its generation has ended is never seen. Two runs with the same events that
differ only in such results go through the same states of the breaker, and so they let in and refuse
the same calls and show the same to everybody who reads them. To give up such a call changes nothing
at all. The end of a generation is taken after the refresh, so that a reset that is due at the
instant of a result counts as one that has happened.
-/

namespace RpcGateway.Calls.Traffic

variable {s s' : Traffic} {place : Nat} {events events' : List Event}

/-- What can be seen of a breaker at an instant. -/
structure View where
  /-- The answer to a call that asks now. -/
  answer : Option Permit
  state : CircuitState
  counts : Counts
  probes : Nat
  retryAfter : Time
  published : Publication
deriving DecidableEq

def view (s : Traffic) : View where
  answer := (s.breaker.acquire s.now).1
  state := s.refreshed.breaker.state
  counts := s.refreshed.breaker.counts
  probes := s.breaker.probes
  retryAfter := s.retryAfter
  published := s.breaker.published

/-- Two sequences of events that are the same but for the results of calls that end after their
generation. -/
inductive SameButLate : Traffic → List Event → List Event → Prop where
  | nil (s : Traffic) : SameButLate s [] []
  | same {s : Traffic} {e : Event} {events events' : List Event}
      (rest : SameButLate (s.step e) events events') : SameButLate s (e :: events) (e :: events')
  | late {s : Traffic} {place : Nat} {c : Call} {success success' : Bool}
      {events events' : List Event} (running : s.running[place]? = some c)
      (past : c.period ≠ s.refreshed.changes)
      (rest : SameButLate (s.step (.complete place success)) events events') :
      SameButLate s (.complete place success :: events) (.complete place success' :: events')

/-- Two runs at the same point that differ in nothing but how their calls have ended. -/
def Matches (s s' : Traffic) : Prop :=
  ∃ ended, s' = { s with ended := ended } ∧
    ended.map EndedCall.call = s.ended.map EndedCall.call

theorem Matches.refl (s : Traffic) : s.Matches s := ⟨s.ended, rfl, rfl⟩

theorem Matches.trans {s'' : Traffic} (h : s.Matches s') (h' : s'.Matches s'') :
    s.Matches s'' := by
  obtain ⟨ended, rfl, hcalls⟩ := h
  obtain ⟨ended', rfl, hcalls'⟩ := h'
  exact ⟨ended', rfl, hcalls'.trans hcalls⟩

theorem Matches.now (h : s.Matches s') : s'.now = s.now := by
  obtain ⟨ended, rfl, -⟩ := h
  rfl

theorem Matches.running (h : s.Matches s') : s'.running = s.running := by
  obtain ⟨ended, rfl, -⟩ := h
  rfl

theorem Matches.breaker (h : s.Matches s') : s'.breaker = s.breaker := by
  obtain ⟨ended, rfl, -⟩ := h
  rfl

theorem Matches.started (h : s.Matches s') : s'.started = s.started := by
  obtain ⟨ended, rfl, hcalls⟩ := h
  exact congrArg (s.running ++ ·) hcalls

/-- Nothing that can be seen depends on how the calls so far have ended, but through the breaker. -/
theorem Matches.view (h : s.Matches s') : s'.view = s.view := by
  obtain ⟨ended, rfl, -⟩ := h
  rfl

theorem Matches.finish {x x' : EndedCall} (h : s.Matches s') (hcall : x'.call = x.call) :
    (s.finish place x).Matches (s'.finish place x') := by
  obtain ⟨ended, rfl, hcalls⟩ := h
  refine ⟨x' :: ended, rfl, ?_⟩
  rw [finish_ended, List.map_cons, List.map_cons, hcall, hcalls]

theorem Matches.update (h : s.Matches s') (b : Breaker) : (s.update b).Matches (s'.update b) := by
  obtain ⟨ended, rfl, hcalls⟩ := h
  exact ⟨ended, rfl, hcalls⟩

theorem Matches.begin (h : s.Matches s') (p : Permit) : (s.begin p).Matches (s'.begin p) := by
  obtain ⟨ended, rfl, hcalls⟩ := h
  exact ⟨ended, rfl, hcalls⟩

theorem Matches.step (h : s.Matches s') (e : Event) : (s.step e).Matches (s'.step e) := by
  have hrefreshed : s.refreshed.Matches s'.refreshed := by
    rw [refreshed, refreshed, h.breaker, h.now]
    exact h.update _
  cases e with
  | advance ms =>
    obtain ⟨ended, rfl, hcalls⟩ := h
    exact ⟨ended, rfl, hcalls⟩
  | read => exact hrefreshed
  | arrive =>
    simp only [Traffic.step, h.breaker, h.now]
    split
    · exact hrefreshed.update _
    · exact (hrefreshed.update _).begin _
  | complete place success =>
    simp only [Traffic.step, h.running, h.breaker, h.now]
    split
    · exact h
    · exact (hrefreshed.update _).finish rfl
  | cancel place =>
    simp only [Traffic.step, h.running, h.breaker]
    split
    · exact h
    · exact (h.update _).finish rfl

/-! ## Late results -/

/-- A result with the number of another generation is dropped after the refresh. -/
theorem step_complete_of_stale {c : Call} (hrunning : s.running[place]? = some c)
    (hstale : s.refreshed.breaker.generation ≠ c.permit.generation) (success : Bool) :
    s.step (.complete place success) =
      s.refreshed.finish place ⟨c, .of success, s.now, s.refreshed.changes⟩ := by
  obtain ⟨b, hcompletes, hstep⟩ := step_complete success hrunning
  cases hcompletes with
  | discarded => rw [hstep, update_self]
  | ignored current => exact absurd current hstale
  | counted current => exact absurd current hstale
  | turned current => exact absurd current hstale

/-- The results of a call that ends after its generation all lead to the same. -/
theorem Matches.step_late {c : Call} {success success' : Bool} (h : s.Matches s')
    (hs : s.Stamped) (hrunning : s.running[place]? = some c)
    (hover : c.period ≠ s.refreshed.changes)
    (hprompt : (s.step (.complete place success)).Prompt) :
    (s.step (.complete place success)).Matches (s'.step (.complete place success')) := by
  have hrefreshed : s.refreshed.Stamped := (moves_refreshed s).keeps Stamped.move hs
  have hcurrent := hrefreshed.current_iff (mem_running_of_getElem? hrunning)
    (prompt_of_step_complete hrunning hprompt)
  have hstale : s.refreshed.breaker.generation ≠ c.permit.generation :=
    fun hsame ↦ hover (hcurrent.mp hsame)
  have hsame := step_complete_of_stale hrunning hstale
  have hleft : (s.step (.complete place success)).Matches (s.step (.complete place success')) := by
    rw [hsame, hsame]
    exact (Matches.refl _).finish rfl
  exact hleft.trans (h.step _)

/-- Runs that differ in late results only match at each point. -/
theorem SameButLate.matches (h : s.SameButLate events events') (hs : s.Stamped)
    (hprompt : (s.run events).Prompt) (hmatches : s.Matches s') (k : Nat) :
    (s.run (events.take k)).Matches (s'.run (events'.take k)) := by
  induction h generalizing s' k with
  | nil s =>
    rw [List.take_nil]
    exact hmatches
  | @same s e events events' rest ih =>
    cases k with
    | zero => exact hmatches
    | succ k => exact ih ((moves_step s e).keeps Stamped.move hs) hprompt (hmatches.step e) k
  | @late s place c success success' events events' running past rest ih =>
    cases k with
    | zero => exact hmatches
    | succ k =>
      have hnext := (moves_run (s.step (.complete place success)) events).prompt hprompt
      exact ih ((moves_step s _).keeps Stamped.move hs) hprompt
        (hmatches.step_late hs running past hnext) k

/-! ## Permits that are given up late -/

theorem release_of_not_probe {b : Breaker} {p : Permit} (h : p.probe = false) :
    b.release p = b := by
  simp [Breaker.release, Breaker.freeProbe, h]

/-- To give up a call whose generation has ended changes nothing. Only a closed generation can end
without the breaker having been told, and its calls hold no slot. -/
theorem cancel_of_over {c : Call} (hs : s.Stamped) (haccounted : s.Accounted)
    (hrunning : s.running[place]? = some c) (hover : c.period ≠ s.refreshed.changes)
    (hrecent : s.changes ≤ c.period + Word.max64) :
    (s.step (.cancel place)).breaker = s.breaker := by
  have hmem := mem_running_of_getElem? hrunning
  simp only [step, hrunning, finish_breaker, update_breaker]
  by_cases hperiod : c.period = s.changes
  · apply release_of_not_probe
    obtain ⟨-, hsame⟩ | ⟨target, b, hdue, -⟩ := refreshed_cases s
    · rw [hsame] at hover
      exact absurd hperiod hover
    · cases hdue with
      | reset closed => simpa [closed] using haccounted.probe_iff c hmem hperiod
      | expiry opened =>
        exact absurd opened (haccounted.state_ne_open (mem_started_of_running hmem) hperiod)
  · have hstale : s.breaker.generation ≠ c.permit.generation :=
      fun hsame ↦ hperiod ((hs.current_iff hmem hrecent).mp hsame)
    rw [Breaker.release, if_neg hstale]

/-- Runs with the same events but for what calls report after their generation has ended cannot be
told apart: at each point their breakers are the same, show the same and have let in the same calls.
And to give up a call whose generation has ended leaves the breaker as it is. -/
theorem late_results_are_unseen (c : Config.CircuitBreaker) (start : Time)
    (events events' : List Event) (hlate : (new c start).SameButLate events events')
    (hchanges : ((new c start).run events).changes ≤ Word.max64) :
    (∀ k,
        let s := (new c start).run (events.take k)
        let s' := (new c start).run (events'.take k)
        s'.breaker = s.breaker ∧ s'.view = s.view ∧ s'.running = s.running ∧
          s'.started = s.started) ∧
      let s := (new c start).run events
      ∀ place call, s.running[place]? = some call → call.period ≠ s.refreshed.changes →
        (s.step (.cancel place)).breaker = s.breaker := by
  have hstamped := stamped_run c start events
  have hprompt := hstamped.prompt hchanges
  refine ⟨fun k ↦ ?_, fun place call hrunning hover ↦ ?_⟩
  · have hmatches := hlate.matches (stamped_new c start) hprompt (Matches.refl _) k
    exact ⟨hmatches.breaker, hmatches.view, hmatches.running, hmatches.started⟩
  · have hrecent : ((new c start).run events).changes ≤ call.period + Word.max64 := by omega
    exact cancel_of_over hstamped (accounted_run hprompt) hrunning hover hrecent

/-- The success of a call from before the trip arrives among the probes; it could have been a
failure. -/
theorem late_failure_is_unseen :
    let before : List Event := [.arrive, .arrive, .complete 0 false, .advance 1000, .arrive]
    let s := (new ⟨1, 1000, 1, 0⟩ 0).run (before ++ [.complete 1 true])
    let s' := (new ⟨1, 1000, 1, 0⟩ 0).run (before ++ [.complete 1 false])
    s.changes ≤ Word.max64 ∧ s.ended ≠ s'.ended ∧ s'.view = s.view ∧
      s.breaker.state = .halfOpen ∧ s.breaker.probes = 1 := by
  have hlate : (new ⟨1, 1000, 1, 0⟩ 0).SameButLate
      [.arrive, .arrive, .complete 0 false, .advance 1000, .arrive, .complete 1 true]
      [.arrive, .arrive, .complete 0 false, .advance 1000, .arrive, .complete 1 false] := by
    refine .same (.same (.same (.same (.same (.late (c := ⟨⟨0, false⟩, 0, 0⟩) ?_ ?_ (.nil _))))))
    · decide
    · decide
  have hunseen := late_results_are_unseen _ _ _ _ hlate (by decide)
  exact ⟨by decide, by decide, (hunseen.1 6).2.1, by decide, by decide⟩

end RpcGateway.Calls.Traffic
