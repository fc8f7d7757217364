import Mathlib.Data.List.ReduceOption
import RpcGateway.Proofs.Breaker.Isolation
import RpcGateway.Proofs.Breaker.Readings

/-!
# Whoever reads a breaker does not change it

A read makes the transition that time has brought about, so that it is not without effect: an open
breaker whose time is over is half-open afterwards, and its generation is another. But the next
operation would have made the same transition, and nothing can happen before it that would show the
difference: the time at which a breaker becomes half-open is not written down, and a breaker that is
open or has just become half-open has no slot that a call could give back. A reset of the counts is
different, since the next one is due an interval after it was made. So two runs, of which one has
more reads than the other, agree as long as no reset is due when the additional reads are made.
-/

namespace RpcGateway.Calls

namespace Breaker

variable {b b' : Breaker} {now t : Time} {p : Permit} {success : Bool}

/-- When it was that a breaker became half-open cannot be seen. -/
theorem transition_halfOpen (h : b.state = .open) (now t : Time) :
    b.transition .halfOpen now = b.transition .halfOpen t := by
  simp [transition, newGeneration, h]

theorem refresh_of_expiry (h : b.Due now .halfOpen) :
    b.refresh now = b.transition .halfOpen now := by
  cases h with
  | expiry opened elapsed =>
    cases hopened : b.openedAt with
    | none => simp [refresh, opened, hopened]
    | some t => simp only [refresh, opened, hopened, if_pos (elapsed t hopened)]

/-- An open breaker whose time is over becomes the same whenever it is looked at. -/
theorem refresh_eq_of_expiry (h : b.Due now .halfOpen) (hle : now ≤ t) :
    b.refresh t = b.refresh now := by
  have hopened : b.state = .open := by cases h; assumption
  rw [refresh_of_expiry h, refresh_of_expiry (h.mono hle)]
  exact transition_halfOpen hopened t now

theorem renewed_refresh_of_expiry (h : b.Due now .halfOpen) :
    b.Renewed now .halfOpen (b.refresh now) := by
  have hrefreshes := refreshes b now
  generalize b.refresh now = r at hrefreshes
  cases hrefreshes with
  | fresh fresh => exact absurd h (fresh _)
  | due due renewed => rwa [h.unique due]

/-- A call is answered after the refresh. -/
theorem acquire_congr (h : b'.refresh now = b.refresh now) : b'.acquire now = b.acquire now := by
  simp only [acquire, h]

theorem complete_congr (h : b'.refresh now = b.refresh now) :
    b'.complete p now success = b.complete p now success := by
  simp only [complete, h]

theorem release_of_probes (h : b.probes = 0) : b.release p = b := by
  obtain ⟨_, _, _, _, _, _, _, probes, _, _, _⟩ := b
  obtain rfl : probes = 0 := h
  simp [release, freeProbe]

/-- A breaker without an interval has no reset to come. -/
def Steady (b : Breaker) : Prop :=
  b.rollingInterval = 0 → b.state = .closed → b.rollingResetAt = none

theorem steady_new (c : Config.CircuitBreaker) (start : Time) : (new c start).Steady := by
  intro hinterval _
  simp only [new] at hinterval
  simp only [new, rollingDeadline, if_pos hinterval]

theorem Steady.alike (h : b.Steady) (hb : b.Alike b') : b'.Steady := by
  intro hinterval hclosed
  rw [hb.rollingResetAt]
  exact h ((rollingInterval_eq hb.settings).symm.trans hinterval) (hb.state.symm.trans hclosed)

theorem Renewed.steady {target : CircuitState} (hb : b.Renewed now target b') : b'.Steady := by
  intro hinterval hclosed
  rw [hb.rollingResetAt (hb.state.symm.trans hclosed), rollingDeadline,
    if_pos ((rollingInterval_eq hb.settings).symm.trans hinterval)]

theorem Steady.not_due (h : b.Steady) (hinterval : b.rollingInterval = 0) :
    ¬ b.Due now .closed := by
  intro hdue
  cases hdue with
  | reset closed resetAt => exact absurd ((h hinterval closed).symm.trans resetAt) nofun

end Breaker

namespace Traffic

variable {s s' : Traffic} {marks : List (Option Event)} {place : Nat} {success : Bool}

/-! ## Reading first -/

@[simp]
theorem refreshed_refreshed (s : Traffic) : s.refreshed.refreshed = s.refreshed :=
  refreshed_of_fresh (fresh_refreshed s)

theorem refresh_refreshed (s : Traffic) :
    s.refreshed.breaker.refresh s.now = s.breaker.refresh s.now :=
  Breaker.Fresh.refresh_eq (fresh_refreshed s)

/-- A call that asks does not see that the breaker has been read just before. -/
theorem step_arrive_refreshed (s : Traffic) : s.refreshed.step .arrive = s.step .arrive := by
  have hacquire : s.refreshed.breaker.acquire s.refreshed.now = s.breaker.acquire s.now :=
    Breaker.acquire_congr (refresh_refreshed s)
  simp only [step, hacquire, refreshed_refreshed]

/-- Neither does a call that ends. -/
theorem step_complete_refreshed {c : Call} (hrunning : s.running[place]? = some c) :
    s.refreshed.step (.complete place success) = s.step (.complete place success) := by
  have hcomplete : s.refreshed.breaker.complete c.permit s.refreshed.now success =
      s.breaker.complete c.permit s.now success := Breaker.complete_congr (refresh_refreshed s)
  have hrefreshed : s.refreshed.running[place]? = some c := hrunning
  simp only [step, hrunning, hrefreshed, hcomplete, refreshed_refreshed]
  rfl

/-! ## Two runs -/

/-- None of the additional reads, which are the marks that name no event, is made when a reset is
due. -/
def Quiet : Traffic → List (Option Event) → Prop
  | _, [] => True
  | s, none :: marks => ¬ s.breaker.Due s.now .closed ∧ s.Quiet marks
  | s, some e :: marks => (s.step e).Quiet marks

/-- The events with the additional reads among them. -/
def withReads (marks : List (Option Event)) : List Event := marks.map (·.getD .read)

/-- Two runs at the same point, of which the second may know already that the time of an open
breaker is over. -/
inductive Agree (s s' : Traffic) : Prop where
  | level (matches' : s.Matches s')
  | ahead (due : s.breaker.Due s.now .halfOpen) (matches' : s.refreshed.Matches s')

theorem Agree.refreshed (h : s.Agree s') : s.refreshed.Matches s'.refreshed := by
  cases h with
  | level hmatches => exact hmatches.step .read
  | ahead due hmatches =>
    rw [← refreshed_refreshed s]
    exact hmatches.step .read

theorem Agree.now (h : s.Agree s') : s'.now = s.now := by
  cases h with
  | level hmatches => exact hmatches.now
  | ahead due hmatches => exact hmatches.now

theorem Agree.running (h : s.Agree s') : s'.running = s.running := by
  cases h with
  | level hmatches => exact hmatches.running
  | ahead due hmatches => exact hmatches.running

theorem Agree.started (h : s.Agree s') : s'.started = s.started := by
  cases h with
  | level hmatches => exact hmatches.started
  | ahead due hmatches => exact hmatches.started

/-- To ask for a call brings both runs to the same point. -/
theorem Agree.arrive (h : s.Agree s') : (s.step .arrive).Matches (s'.step .arrive) := by
  cases h with
  | level hmatches => exact hmatches.step .arrive
  | ahead due hmatches =>
    rw [← step_arrive_refreshed s]
    exact hmatches.step .arrive

/-- So does the end of a call. -/
theorem Agree.complete {c : Call} (h : s.Agree s') (hrunning : s.running[place]? = some c) :
    (s.step (.complete place success)).Matches (s'.step (.complete place success)) := by
  cases h with
  | level hmatches => exact hmatches.step _
  | ahead due hmatches =>
    rw [← step_complete_refreshed hrunning]
    exact hmatches.step _

theorem Agree.advance (h : s.Agree s') (ms : Nat) :
    (s.step (.advance ms)).Agree (s'.step (.advance ms)) := by
  cases h with
  | level hmatches => exact .level (hmatches.step _)
  | ahead due hmatches =>
    have hle : s.now ≤ s.now + ms := Nat.le_add_right _ _
    have hlater : s.breaker.refresh (s.now + ms) = s.breaker.refresh s.now :=
      Breaker.refresh_eq_of_expiry due hle
    have hrefreshed : (s.step (.advance ms)).refreshed = s.refreshed.step (.advance ms) := by
      have hstate := (Breaker.renewed_refresh_of_expiry due).state
      simp [step, Traffic.refreshed, update, hlater, hstate]
    refine .ahead (due.mono hle) ?_
    rw [hrefreshed]
    exact hmatches.step _

/-- A call that is given up has no slot to give back to a breaker whose time is over, whether the
breaker knows or not. -/
theorem Agree.cancel (h : s.Agree s') (hsound : s.breaker.Sound) (place : Nat) :
    (s.step (.cancel place)).Agree (s'.step (.cancel place)) := by
  cases h with
  | level hmatches => exact .level (hmatches.step _)
  | ahead due hmatches =>
    have hnext := hmatches.step (.cancel place)
    have hprobes : s.breaker.probes = 0 := by
      cases due with
      | expiry opened => exact hsound.probes_eq_zero (by simp [opened])
    have hprobes' : s.refreshed.breaker.probes = 0 :=
      (Breaker.renewed_refresh_of_expiry due).probes
    cases hrunning : s.running[place]? with
    | none =>
      have hrefreshed : s.refreshed.running[place]? = none := hrunning
      simp only [step, hrefreshed] at hnext
      simp only [step, hrunning]
      exact .ahead due hnext
    | some c =>
      have hrefreshed : s.refreshed.running[place]? = some c := hrunning
      simp only [step, hrefreshed, Breaker.release_of_probes hprobes', update_self] at hnext
      have hstep : s.step (.cancel place) =
          s.finish place ⟨c, .cancelled, s.now, s.changes⟩ := by
        simp only [step, hrunning, Breaker.release_of_probes hprobes, update_self]
      rw [hstep]
      -- The ends differ in the period in which they are noticed.
      have hends : (s.refreshed.finish place ⟨c, .cancelled, s.now, s.changes⟩).Matches
          (s.refreshed.finish place ⟨c, .cancelled, s.now, s.refreshed.changes⟩) :=
        (Matches.refl _).finish rfl
      exact .ahead due (hends.trans hnext)

theorem Agree.step (h : s.Agree s') (hsound : s.breaker.Sound) (e : Event) :
    (s.step e).Agree (s'.step e) := by
  cases e with
  | advance ms => exact h.advance ms
  | read => exact .level h.refreshed
  | arrive => exact .level h.arrive
  | complete place success =>
    cases hrunning : s.running[place]? with
    | none =>
      have hrunning' : s'.running[place]? = none := h.running ▸ hrunning
      simpa only [Traffic.step, hrunning, hrunning'] using h
    | some c => exact .level (h.complete hrunning)
  | cancel place => exact h.cancel hsound place

/-- An additional read lets the second run go ahead, unless it is ahead already. -/
theorem Agree.read (h : s.Agree s') (hquiet : ¬ s.breaker.Due s.now .closed) :
    s.Agree s'.refreshed := by
  have hrefreshed := h.refreshed
  obtain ⟨-, hsame⟩ | ⟨target, b, hdue, -, -⟩ := refreshed_cases s
  · rw [hsame] at hrefreshed
    exact .level hrefreshed
  · cases hdue with
    | reset closed resetAt le => exact absurd (.reset closed resetAt le) hquiet
    | expiry opened elapsed => exact .ahead (.expiry opened elapsed) hrefreshed

theorem Agree.run (h : s.Agree s') (hsound : s.breaker.Sound) (hquiet : s.Quiet marks) :
    (s.run marks.reduceOption).Agree (s'.run (withReads marks)) := by
  induction marks generalizing s s' with
  | nil => exact h
  | cons mark marks ih =>
    cases mark with
    | none =>
      rw [List.reduceOption_cons_of_none]
      exact ih (h.read hquiet.1) hsound hquiet.2
    | some e =>
      rw [List.reduceOption_cons_of_some]
      exact ih (h.step hsound e) ((moves_step s e).keeps Move.sound hsound) hquiet

/-- At the same point both runs show the same, but for what has been published already. -/
theorem Agree.view (h : s.Agree s') (hsound : s.breaker.Sound) :
    s'.view = { s.view with published := s'.breaker.published } := by
  cases h with
  | level hmatches =>
    rw [hmatches.view, hmatches.breaker]
    rfl
  | ahead due hmatches =>
    have hanswer : s.refreshed.breaker.acquire s.now = s.breaker.acquire s.now :=
      Breaker.acquire_congr (refresh_refreshed s)
    have hprobes : s.refreshed.breaker.probes = s.breaker.probes := by
      rw [hsound.probes_eq_zero (by cases due with | expiry opened => simp [opened])]
      exact (Breaker.renewed_refresh_of_expiry due).probes
    rw [hmatches.view, hmatches.breaker]
    simp only [Traffic.view, retryAfter, refreshed_refreshed, hprobes]
    congr 1
    exact congrArg Prod.fst hanswer

/-! ## Resets -/

theorem Move.steady (hmove : Move s s') (h : s.breaker.Steady) : s'.breaker.Steady := by
  cases hmove with
  | advance => exact h
  | renew due renewed => exact renewed.steady
  | begin fresh acquires => exact h.alike acquires.admits.alike
  | finish fresh running completes =>
    obtain halike | ⟨target, -, hrenewed⟩ := completes.alike_or_turned
    · exact h.alike halike
    · exact hrenewed.steady
  | cancel => exact h.alike (Breaker.alike_release _ _)

/-- Without an interval reads may be added anywhere. -/
theorem quiet_of_steady (h : s.breaker.Steady) (hinterval : s.breaker.rollingInterval = 0)
    (marks : List (Option Event)) : s.Quiet marks := by
  induction marks generalizing s with
  | nil => trivial
  | cons mark marks ih =>
    cases mark with
    | none => exact ⟨h.not_due hinterval, ih h hinterval⟩
    | some e =>
      have hmoves := moves_step s e
      exact ih (hmoves.keeps (P := fun s ↦ s.breaker.Steady) Move.steady h)
        ((Breaker.rollingInterval_eq hmoves.settings).trans hinterval)

theorem Quiet.take (h : s.Quiet marks) (k : Nat) : s.Quiet (marks.take k) := by
  induction marks generalizing s k with
  | nil => simpa using h
  | cons mark marks ih =>
    cases k with
    | zero => trivial
    | succ k =>
      cases mark with
      | none => exact ⟨h.1, ih h.2 k⟩
      | some e => exact ih h k

/-- Two runs of which the second has additional reads, at instants at which no reset is due. At each
point the same calls have been let in and are running, the breakers answer the next call alike and
show the same to whoever reads them, and they are the same as soon as a call has asked or has
ended. -/
theorem additional_reads_are_unseen (c : Config.CircuitBreaker) (start : Time)
    (marks : List (Option Event))
    (hquiet : c.rollingIntervalMs = 0 ∨ (new c start).Quiet marks) (k : Nat) :
    let s := (new c start).run (marks.take k).reduceOption
    let s' := (new c start).run (withReads (marks.take k))
    s'.now = s.now ∧ s'.running = s.running ∧ s'.started = s.started ∧
      s'.view = { s.view with published := s'.breaker.published } ∧
      (s'.step .arrive).breaker = (s.step .arrive).breaker ∧
      ∀ place success, place < s.running.length →
        (s'.step (.complete place success)).breaker =
          (s.step (.complete place success)).breaker := by
  intro s s'
  have hall : (new c start).Quiet marks := by
    obtain hinterval | hquiet := hquiet
    · exact quiet_of_steady (Breaker.steady_new c start) (congrArg UInt64.toNat hinterval) marks
    · exact hquiet
  have hagree : s.Agree s' :=
    (Agree.level (Matches.refl _)).run (Breaker.sound_new c start) (hall.take k)
  have hsound : s.breaker.Sound := sound_run c start _
  refine ⟨hagree.now, hagree.running, hagree.started, hagree.view hsound, hagree.arrive.breaker,
    fun place success hlt ↦ ?_⟩
  exact (hagree.complete (List.getElem?_eq_getElem hlt)).breaker

/-- The read after the timeout makes the breaker half-open; without it the call that asks next does.
-/
theorem early_probing_is_unseen :
    let marks := [some .arrive, some (.complete 0 false), some (.advance 1000), none, some .arrive]
    let s := (new ⟨1, 1000, 1, 100⟩ 0).run (marks.take 4).reduceOption
    let s' := (new ⟨1, 1000, 1, 100⟩ 0).run (withReads (marks.take 4))
    (new ⟨1, 1000, 1, 100⟩ 0).Quiet marks ∧ s.breaker.state = .open ∧
      s'.breaker.state = .halfOpen ∧ s'.view = { s.view with published := s'.breaker.published } ∧
      (s'.step .arrive).breaker = (s.step .arrive).breaker := by
  intro marks s s'
  have hquiet : (new ⟨1, 1000, 1, 100⟩ 0).Quiet marks := by
    refine ⟨fun hdue ↦ ?_, trivial⟩
    cases hdue with
    | reset closed => exact absurd closed (by decide)
  have hunseen := additional_reads_are_unseen _ _ marks (.inr hquiet) 4
  exact ⟨hquiet, by decide, by decide, hunseen.2.2.2.1, hunseen.2.2.2.2.1⟩

end Traffic

end RpcGateway.Calls
