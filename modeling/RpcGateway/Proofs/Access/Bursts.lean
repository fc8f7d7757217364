import Mathlib
import RpcGateway.Access.RateLimiter
import RpcGateway.Proofs.Access.Windows
import RpcGateway.Proofs.Activity.History

/-!
# Bursts through a rate limit

Of the requests in a window the first ones, as many as the limit says, are let through. The windows
of a client lie apart and each of them is as long as the limiter's, so an interval that is no longer
than that has requests of two windows at most, and lets through at most twice as many. A request
that has to open a window to whose end the clock does not get breaks off, and is not let through,
but is counted.
-/

namespace RpcGateway.Access

/-- What an increment that has ended says about a request. -/
def Verdict.of : Except StoreError Nat → Verdict
  | .ok n => .counted n
  | .error _ => .failed

namespace RateLimiter

theorem counterKey_injective : Function.Injective counterKey := fun _ _ h ↦
  (String.append_right_inj _).mp h

/-- A store that ends in time is heard. -/
theorem run_count {l : RateLimiter} {client : String} {s s' : CounterStore} {now finish : Time}
    {outcome : Outcome (Except StoreError Nat)}
    (h : (CounterStore.incrementInWindow (counterKey client) l.windowMs).run now s =
      (finish, s', outcome))
    (hle : finish ≤ now + l.storeTimeoutMs) (hended : outcome ≠ .stuck) :
    (l.count client).run now s = (finish, s', outcome.map Verdict.of) := by
  unfold count
  apply (Activity.run_map _ (Activity.run_withinAfter h hle hended 0)).trans
  obtain (_ | _) | _ | _ := outcome <;> rfl

/-- A store that counts in one step answers at once. -/
theorem run_allow (l : RateLimiter) (client : String) {s : CounterStore} {now : Time} {n : Nat}
    (hatomic : s.atomic = true) (hcount : (s.map.current now (counterKey client)).count = n) :
    (l.allow client).run now s =
      (now, { s with
        map := (s.map.bump now (counterKey client) (CounterStore.nameable now l.windowMs)).2 },
        if clockEnd ≤ now + l.windowMs ∧ n = 0 then .panicked
        else .done (decide (n + 1 ≤ l.maxRequests))) := by
  have hcounted : (CounterStore.incrementInWindow (counterKey client) l.windowMs).run now s = _ :=
    CounterStore.run_incrementInWindow hatomic (counterKey client) l.windowMs
  rw [hcount] at hcounted
  have hended : (if clockEnd ≤ now + l.windowMs ∧ n = 0 then .panicked
      else .done (.ok (n + 1)) : Outcome (Except StoreError Nat)) ≠ .stuck := by
    split <;> nofun
  have hheard := run_count hcounted (Nat.le_add_right now l.storeTimeoutMs) hended
  apply (Activity.run_map l.allows hheard).trans
  split <;> rfl

/-- The answers to the numbers from some place on: those up to the limit, then the others. -/
theorem map_range'_le (l : RateLimiter) (place k : Nat) :
    (List.range' place k).map (fun n ↦ some (decide (n ≤ l.maxRequests))) =
      List.replicate (min k (l.maxRequests + 1 - place)) (some true) ++
        List.replicate (k - (l.maxRequests + 1 - place)) (some false) := by
  induction k generalizing place with
  | zero => simp
  | succ k ih =>
    rw [List.range'_succ, List.map_cons, ih, Nat.add_sub_add_right]
    by_cases hle : place ≤ l.maxRequests
    · rw [Nat.succ_sub hle, Nat.add_min_add_right, Nat.add_sub_add_right, List.replicate_succ,
        decide_eq_true hle, List.cons_append]
    · have hnone : l.maxRequests - place = 0 := by omega
      have hnone' : l.maxRequests + 1 - place = 0 := by omega
      rw [hnone, hnone', decide_eq_false hle]
      simp [List.replicate_succ]

end RateLimiter

/-! ## Windows apart -/

namespace Window

/-- A window as the limiter makes them. -/
structure Limits (l : RateLimiter) (w : Window Bool) : Prop where
  window : w.opener.window = l.windowMs
  opener_le : ∀ i ∈ w.all, w.opener.instant ≤ i.instant
  isOpen : ∀ i ∈ w.later, w.IsOpen i.instant
  allowed : w.all.countP (·.result = some true) ≤ l.maxRequests

variable {l : RateLimiter} {w : Window Bool} {ws : List (Window Bool)} {p : Increment Bool → Bool}
  {a len : Nat}

theorem Limits.instant_le_ends (h : w.Limits l) (hends : w.ends < clockEnd) {i : Increment Bool}
    (hi : i ∈ w.all) : i.instant ≤ w.ends := by
  obtain hlater | hopener := List.mem_append.mp hi
  · obtain hlt | hbeyond := h.isOpen i hlater
    · exact Nat.le_of_lt hlt
    · exact absurd hbeyond (Nat.not_le_of_lt hends)
  · rw [List.mem_singleton.mp hopener]
    exact Nat.le_add_right _ _

/-- All windows before a window have ended when it is opened. -/
theorem ends_le_of_isChain
    (h : (w :: ws).IsChain fun newer older ↦ ¬ older.IsOpen newer.opener.instant) :
    ∀ v ∈ ws, v.ends ≤ w.opener.instant ∧ v.ends < clockEnd := by
  induction ws generalizing w with
  | nil =>
    intro v hv
    cases hv
  | cons x ws ih =>
    cases h with
    | cons_cons hclosed hrest =>
      have hx := (x.not_isOpen_iff _).mp hclosed
      refine List.forall_mem_cons.mpr ⟨hx, fun v hv ↦ ?_⟩
      obtain ⟨hv, hnameable⟩ := ih hrest v hv
      have hopener : x.opener.instant ≤ x.ends := Nat.le_add_right _ _
      exact ⟨Nat.le_trans hv (Nat.le_trans hopener hx.1), hnameable⟩

/-- An interval that begins after the windows have ended has nothing of them. -/
theorem sum_countP_eq_zero (hws : ∀ w ∈ ws, w.Limits l) (hp : ∀ i, p i → a ≤ i.instant)
    (hends : ∀ w ∈ ws, w.ends < a ∧ w.ends < clockEnd) :
    (ws.map fun w ↦ w.all.countP p).sum = 0 := by
  apply List.sum_eq_zero
  intro n hn
  obtain ⟨w, hw, rfl⟩ := List.mem_map.mp hn
  apply List.countP_eq_zero.mpr
  intro i hi hin
  have hle := (hws w hw).instant_le_ends (hends w hw).2 hi
  have hafter := Nat.lt_of_le_of_lt hle (hends w hw).1
  exact Nat.not_le_of_lt hafter (hp i hin)

theorem Limits.countP_le (h : w.Limits l) (hp : ∀ i, p i → i.result = some true) :
    w.all.countP p ≤ l.maxRequests := by
  apply Nat.le_trans (List.countP_mono_left _) h.allowed
  intro i _ hi
  exact decide_eq_true (hp i hi)

/-- An interval no longer than the windows has something of two windows at most. -/
theorem sum_countP_le (hchain : ws.IsChain fun newer older ↦ ¬ older.IsOpen newer.opener.instant)
    (hws : ∀ w ∈ ws, w.Limits l)
    (hp : ∀ i, p i → (a ≤ i.instant ∧ i.instant < a + len) ∧ i.result = some true)
    (hlen : len ≤ l.windowMs) :
    (ws.map fun w ↦ w.all.countP p).sum ≤ 2 * l.maxRequests := by
  induction ws with
  | nil => exact Nat.zero_le _
  | cons w ws ih =>
    have hlimits := List.forall_mem_cons.mp hws
    rw [List.map_cons, List.sum_cons]
    obtain hnone | hsome := Nat.eq_zero_or_pos (w.all.countP p)
    · rw [hnone, Nat.zero_add]
      exact ih hchain.tail hlimits.2
    · obtain ⟨i, hi, hin⟩ := List.countP_pos_iff.mp hsome
      have hw := hlimits.1.countP_le fun i h ↦ (hp i h).2
      have hopened : w.opener.instant < a + len :=
        Nat.lt_of_le_of_lt (hlimits.1.opener_le i hi) (hp i hin).1.2
      have hrest : (ws.map fun w ↦ w.all.countP p).sum ≤ l.maxRequests := by
        cases ws with
        | nil => exact Nat.zero_le _
        | cons x ws =>
          have hlimits' := List.forall_mem_cons.mp hlimits.2
          have hx := hlimits'.1.countP_le fun i h ↦ (hp i h).2
          have hxends := (ends_le_of_isChain hchain x List.mem_cons_self).1
          -- The window before began a whole window earlier, so before the interval.
          have hbegan : x.opener.instant < a := by
            unfold ends at hxends
            rw [hlimits'.1.window] at hxends
            apply Nat.lt_of_add_lt_add_right
            calc
              x.opener.instant + l.windowMs ≤ w.opener.instant := hxends
              _ < a + len := hopened
              _ ≤ a + l.windowMs := Nat.add_le_add_left hlen a
          have hbefore : (ws.map fun w ↦ w.all.countP p).sum = 0 := by
            apply sum_countP_eq_zero hlimits'.2 fun i h ↦ (hp i h).1.1
            intro v hv
            have hv := ends_le_of_isChain hchain.tail v hv
            exact ⟨Nat.lt_of_le_of_lt hv.1 hbegan, hv.2⟩
          rw [List.map_cons, List.sum_cons, hbefore]
          exact hx
      calc
        _ ≤ l.maxRequests + l.maxRequests := Nat.add_le_add hw hrest
        _ = 2 * l.maxRequests := (Nat.two_mul _).symm

end Window

/-! ## A run of a limiter -/

/-- What came back from a request to be let through. -/
def answered : Outcome Bool → Option Bool
  | .done allowed => some allowed
  | _ => none

/-- A limiter at an instant, its store and the requests made so far, the last one first. -/
structure Admission where
  limiter : RateLimiter
  now : Time
  store : CounterStore := {}
  log : List (Increment Bool) := []

namespace Admission

inductive Event where
  | advance (ms : Nat)
  | allow (client : String)
deriving DecidableEq

variable {s : Admission} {l : RateLimiter} {client : String}

def new (l : RateLimiter) (start : Time) : Admission where
  limiter := l
  now := start

def step (s : Admission) : Event → Admission
  | .advance ms => { s with now := s.now + ms }
  | .allow client =>
    let (now, store, outcome) := (s.limiter.allow client).run s.now s.store
    { s with
      now, store
      log := ⟨client, s.limiter.windowMs, s.now, answered outcome⟩ :: s.log }

def run (s : Admission) (events : List Event) : Admission := events.foldl step s

/-- How many requests of a client were let through from an instant on and before another. -/
def allowedWithin (s : Admission) (client : String) (start stop : Time) : Nat :=
  s.log.countP fun i ↦ i.key = client ∧ (start ≤ i.instant ∧ i.instant < stop) ∧
    i.result = some true

/-- A limiter whose store follows the windows of the clients and which has answered by them. -/
structure Sound (l : RateLimiter) (s : Admission) : Prop where
  limiter : s.limiter = l
  atomic : s.store.atomic = true
  follows : Follows RateLimiter.counterKey s.store.map s.now s.log
  answered : Answered (fun n ↦ decide (n ≤ l.maxRequests)) s.log
  window : ∀ i ∈ s.log, i.window = l.windowMs
  instant_le : ∀ i ∈ s.log, i.instant ≤ s.now
  ordered : s.log.Pairwise fun later earlier ↦ earlier.instant ≤ later.instant

theorem sound_new (l : RateLimiter) (start : Time) : (new l start).Sound l where
  limiter := rfl
  atomic := rfl
  follows := follows_empty RateLimiter.counterKey start
  answered := answered_nil _
  window i hi := by cases hi
  instant_le i hi := by cases hi
  ordered := .nil

theorem Sound.step_allow (h : s.Sound l) (client : String) :
    s.step (.allow client) =
      { s with
        store := { s.store with
          map := (s.store.map.bump s.now (RateLimiter.counterKey client)
            (CounterStore.nameable s.now l.windowMs)).2 }
        log := ⟨client, l.windowMs, s.now,
          if clockEnd ≤ s.now + l.windowMs ∧ counted client s.now s.log = 0 then none
          else some (decide (counted client s.now s.log + 1 ≤ l.maxRequests))⟩ :: s.log } := by
  simp only [step, RateLimiter.run_allow _ _ h.atomic (h.follows.count_eq client), h.limiter]
  split <;> rfl

theorem Sound.step (h : s.Sound l) (e : Event) : (s.step e).Sound l := by
  cases e with
  | advance ms =>
    have hle : s.now ≤ s.now + ms := Nat.le_add_right _ _
    exact { h with
      follows := h.follows.later hle
      instant_le := fun i hi ↦ Nat.le_trans (h.instant_le i hi) hle }
  | allow client =>
    rw [h.step_allow]
    exact { h with
      follows := h.follows.increment RateLimiter.counterKey_injective client l.windowMs _
      answered := h.answered.cons rfl
      window := List.forall_mem_cons.mpr ⟨rfl, h.window⟩
      instant_le := List.forall_mem_cons.mpr ⟨Nat.le_refl _, h.instant_le⟩
      ordered := List.pairwise_cons.mpr ⟨h.instant_le, h.ordered⟩ }

theorem Sound.run (h : s.Sound l) (events : List Event) : (s.run events).Sound l := by
  induction events generalizing s with
  | nil => exact h
  | cons e events ih => exact ih (h.step e)

/-- In a window that ends, the requests up to the limit are let through and the others are not. -/
theorem Sound.results (h : s.Sound l) {w : Window Bool} (hw : w ∈ windows client s.log)
    (hends : w.ends < clockEnd) :
    w.all.reverse.map (·.result) =
      List.replicate (min w.size l.maxRequests) (some true) ++
        List.replicate (w.size - l.maxRequests) (some false) := by
  obtain ⟨hopener, hlater⟩ := h.answered.results hw
  rw [if_neg (Nat.not_le_of_lt hends)] at hopener
  have hnumbers := l.map_range'_le 1 w.size
  rw [Window.size, List.range'_succ, List.map_cons, Nat.add_sub_cancel] at hnumbers
  rw [Window.all, List.reverse_append, List.reverse_singleton, List.singleton_append, List.map_cons,
    hopener, hlater]
  exact hnumbers

/-- In a window that does not end, the request that has opened it breaks off, and the others are let
through while there are no more than the limit with it. -/
theorem Sound.results_beyond (h : s.Sound l) {w : Window Bool} (hw : w ∈ windows client s.log)
    (hbeyond : clockEnd ≤ w.ends) :
    w.opener.result = none ∧
      w.later.reverse.map (·.result) =
        List.replicate (min w.later.length (l.maxRequests - 1)) (some true) ++
          List.replicate (w.later.length - (l.maxRequests - 1)) (some false) := by
  obtain ⟨hopener, hlater⟩ := h.answered.results hw
  rw [if_pos hbeyond] at hopener
  exact ⟨hopener, hlater.trans (l.map_range'_le 2 w.later.length)⟩

theorem Sound.limits (h : s.Sound l) {w : Window Bool} (hw : w ∈ windows client s.log) :
    w.Limits l where
  window := by
    have hopener : w.opener ∈ w.all := List.mem_append_right _ (List.mem_singleton_self _)
    exact h.window _ (mem_of_windows hw hopener).1
  opener_le i hi := opener_le_of_mem_all h.ordered hw hi
  isOpen i hi := isOpen_of_mem_later hw hi
  allowed := by
    have hcount : w.all.countP (·.result = some true) =
        (w.all.reverse.map (·.result)).countP (· = some true) := by
      rw [List.countP_map, List.countP_reverse]
      rfl
    rw [hcount]
    obtain hends | hbeyond := Nat.lt_or_ge w.ends clockEnd
    · rw [h.results hw hends, List.countP_append, List.countP_replicate, List.countP_replicate]
      exact Nat.min_le_right w.size l.maxRequests
    · obtain ⟨hopener, hlater⟩ := h.results_beyond hw hbeyond
      rw [Window.all, List.reverse_append, List.reverse_singleton, List.singleton_append,
        List.map_cons, hopener, hlater, List.countP_cons_of_neg (by simp), List.countP_append,
        List.countP_replicate, List.countP_replicate]
      calc
        min w.later.length (l.maxRequests - 1) ≤ l.maxRequests - 1 := Nat.min_le_right _ _
        _ ≤ l.maxRequests := Nat.sub_le _ _

/-- The requests of a client lie in windows, which are as long as the limiter's and of which each is
opened when the one before has ended. In each of them the first requests, as many as the limit says,
are let through and the others are not; only the request that opens a window to whose end the clock
does not get breaks off instead. In no interval that is no longer than a window are more than twice
as many let through. -/
theorem limits_each_window_and_burst (l : RateLimiter) (start : Time) (events : List Event)
    (client : String) :
    let s := (new l start).run events
    (windows client s.log).flatMap Window.all = s.log.filter (·.key = client) ∧
      (windows client s.log).IsChain (fun newer older ↦ ¬ older.IsOpen newer.opener.instant) ∧
      (∀ w ∈ windows client s.log, w.opener.window = l.windowMs ∧
        (∀ i ∈ w.later, w.IsOpen i.instant) ∧
        (w.ends < clockEnd → w.all.reverse.map (·.result) =
          List.replicate (min w.size l.maxRequests) (some true) ++
            List.replicate (w.size - l.maxRequests) (some false)) ∧
        (clockEnd ≤ w.ends → w.opener.result = none ∧ w.later.reverse.map (·.result) =
          List.replicate (min w.later.length (l.maxRequests - 1)) (some true) ++
            List.replicate (w.later.length - (l.maxRequests - 1)) (some false))) ∧
      ∀ begins len, len ≤ l.windowMs →
        s.allowedWithin client begins (begins + len) ≤ 2 * l.maxRequests := by
  intro s
  have hsound : s.Sound l := (sound_new l start).run events
  refine ⟨flatMap_windows client s.log, isChain_windows client s.log, fun w hw ↦ ?_,
    fun begins len hlen ↦ ?_⟩
  · exact ⟨(hsound.limits hw).window, (hsound.limits hw).isOpen, hsound.results hw,
      hsound.results_beyond hw⟩
  · let within (i : Increment Bool) : Bool :=
      (begins ≤ i.instant ∧ i.instant < begins + len) ∧ i.result = some true
    have hwithin (i : Increment Bool) (hi : within i) :
        (begins ≤ i.instant ∧ i.instant < begins + len) ∧ i.result = some true :=
      of_decide_eq_true hi
    calc
      s.allowedWithin client begins (begins + len) =
          (s.log.filter (·.key = client)).countP within := by
        rw [List.countP_filter]
        apply List.countP_congr
        intro i _
        simp [within, and_comm]
      _ = ((windows client s.log).flatMap Window.all).countP within := by rw [flatMap_windows]
      _ = ((windows client s.log).map fun w ↦ w.all.countP within).sum := List.countP_flatMap
      _ ≤ 2 * l.maxRequests := Window.sum_countP_le (isChain_windows client s.log)
        (fun w hw ↦ hsound.limits hw) hwithin hlen

/-- A first request whose window would end beyond the clock is not answered. -/
theorem log_of_beyond {start : Time} (client : String) (hbeyond : clockEnd ≤ start + l.windowMs) :
    ((new l start).run [.allow client]).log = [⟨client, l.windowMs, start, none⟩] := by
  have hopens : clockEnd ≤ (new l start).now + l.windowMs ∧
      counted client (new l start).now (new l start).log = 0 := ⟨hbeyond, rfl⟩
  have hstep := congrArg log ((sound_new l start).step_allow client)
  rw [if_pos hopens] at hstep
  exact hstep

/-- A window of the longest span that can be written down ends beyond the clock. -/
theorem opener_breaks_off_beyond_clock :
    ¬ ∀ (l : RateLimiter) (start : Time) (events : List Event) (client : String),
      ∀ w ∈ windows client ((new l start).run events).log, w.all.reverse.map (·.result) =
        List.replicate (min w.size l.maxRequests) (some true) ++
          List.replicate (w.size - l.maxRequests) (some false) := by
  intro h
  let l : RateLimiter := ⟨1, 18446744073709551615 * 1000, 100⟩
  have hopened := log_of_beyond "a" (show clockEnd ≤ 0 + l.windowMs by decide)
  have hw : ⟨⟨"a", l.windowMs, 0, none⟩, []⟩ ∈ windows "a" ((new l 0).run [.allow "a"]).log := by
    rw [hopened]
    exact List.mem_singleton_self _
  have hresult := h l 0 [.allow "a"] "a" _ hw
  cases hresult

end Admission

end RpcGateway.Access
