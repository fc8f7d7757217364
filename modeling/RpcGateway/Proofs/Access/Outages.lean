import RpcGateway.Proofs.Access.Bursts
import RpcGateway.Proofs.Access.Repairs

/-!
# Limits over a store that is not to be relied on

The increments of a store may take their time, fail, or not end at all, and its expiries may fail. A
limiter hears an increment that ends in time as it would hear, at the instant at which it ends, one
that takes no time; of any other it hears nothing, and nothing has happened. So what the counters of
such a store say is what they would say if time went by instead, and is read off the log of the
increments that have ended. A limiter denies a request only after it has heard of more increments
than the limit in the life of the counter.
-/

namespace RpcGateway.Access

variable {l : RateLimiter} {ms : Nat}

theorem inTime_or_late (takes : Option Nat) (timeout : Nat) :
    (∃ ms ≤ timeout, takes = some ms) ∨ ∀ ms, takes = some ms → timeout < ms := by
  cases takes with
  | none => exact .inr nofun
  | some ms =>
    obtain hlt | hle := Nat.lt_or_ge timeout ms
    · exact .inr fun _ hms ↦ Option.some.inj hms ▸ hlt
    · exact .inl ⟨ms, hle, rfl⟩

/-- An increment goes through in time, or it fails or is late. -/
theorem heard_or_unheard (takes : Option Nat) (timeout : Nat) (fails : Bool) :
    (∃ ms ≤ timeout, takes = some ms ∧ fails = false) ∨
      fails = true ∨ ∀ ms, takes = some ms → timeout < ms := by
  obtain ⟨ms, hle, htakes⟩ | hlate := inTime_or_late takes timeout
  · cases fails with
    | true => exact .inr (.inl rfl)
    | false => exact .inl ⟨ms, hle, htakes, rfl⟩
  · exact .inr (.inr hlate)

namespace RateLimiter

variable {s : CounterStore}

/-- Nothing is heard of an increment that does not end in time, and nothing comes of it. -/
theorem run_count_of_late (hturns : s.atomic = false)
    (hlate : ∀ ms, s.delay s.incrementsBegun = some ms → l.storeTimeoutMs < ms) (now : Time)
    (client : String) :
    (l.count client).run now s =
      (now + l.storeTimeoutMs, { s with incrementsBegun := s.incrementsBegun + 1 },
        .done .timedOut) := by
  have hend : max now (now + l.storeTimeoutMs) = now + l.storeTimeoutMs :=
    Nat.max_eq_right (Nat.le_add_right now _)
  have hdropped : ((CounterStore.incrementInWindow (counterKey client) l.windowMs).within
      (now + l.storeTimeoutMs)).run now s =
        (now + l.storeTimeoutMs, { s with incrementsBegun := s.incrementsBegun + 1 },
          .done none) := by
    simp only [Activity.within, CounterStore.incrementInWindow, Activity.withinAfter, Activity.run,
      Activity.keep, hturns, Bool.false_eq_true, if_false, CounterStore.incrementThenExpire,
      CounterStore.increment, Activity.bind]
    cases htakes : s.delay s.incrementsBegun with
    | none =>
      apply (Activity.run_withinAfter_of_late ?_ _ _ _ _ _ _).trans
      · rw [hend]
        rfl
      · intro w hw
        cases hw
    | some ms =>
      have hms : now + l.storeTimeoutMs < now + ms := Nat.add_lt_add_left (hlate ms htakes) now
      apply (Activity.run_withinAfter_of_late (fun w hw ↦ ?_) _ _ _ _ _ _).trans
      · rw [hend]
        rfl
      · cases hw
        exact hms
  exact Activity.run_map _ hdropped

theorem run_count_of_fails (hturns : s.atomic = false)
    (htakes : s.delay s.incrementsBegun = some ms) (hle : ms ≤ l.storeTimeoutMs)
    (hfails : s.incrementFails s.incrementsEnded = true) (now : Time) (client : String) :
    (l.count client).run now s =
      (now + ms, { s with
        incrementsBegun := s.incrementsBegun + 1
        incrementsEnded := s.incrementsEnded + 1 }, .done .failed) := by
  have hrun := CounterStore.run_incrementInWindow_of_fails hturns htakes hfails now
    (counterKey client) l.windowMs
  exact run_count hrun (Nat.add_le_add_left hle now) nofun

theorem run_count_of_counts (hturns : s.atomic = false)
    (htakes : s.delay s.incrementsBegun = some ms) (hle : ms ≤ l.storeTimeoutMs)
    (hcounts : s.incrementFails s.incrementsEnded = false) (now : Time) (client : String) :
    let key := counterKey client
    (l.count client).run now s =
      (now + ms, { s with
        map := (s.map.increment (now + ms) key).2.expireAfter (now + ms) key
          (s.grant (now + ms) l.windowMs)
        incrementsBegun := s.incrementsBegun + 1
        incrementsEnded := s.incrementsEnded + 1
        expiryCalls := s.expiryCalls + s.tries.length },
        if s.breaks (now + ms) key l.windowMs then .panicked
        else .done (.counted ((s.map.current (now + ms) key).count + 1))) := by
  intro key
  have hrun := CounterStore.run_incrementInWindow_of_counts hturns htakes hcounts now key l.windowMs
  apply (run_count hrun (Nat.add_le_add_left hle now) (by split <;> nofun)).trans
  split <;> rfl

end RateLimiter

/-! ## Requests over such a store -/

def Admission.Event.asks : Admission.Event → Bool
  | .advance _ => false
  | .allow _ => true

/-- What came back from an increment, by what a limiter has heard of it; nothing, if it was not in
time. -/
def Answer.heard? : Outcome Verdict → Option Answer
  | .done (.counted n) => some (.counted n)
  | .done .failed => some (.failed .closed)
  | .done .timedOut => none
  | .panicked => some .brokeDown
  | .stuck => none

namespace Serving

variable {s : Serving}

/-- A store that does the one after the other, with how long each increment takes, and with the
numbers of the increments and expiries that fail. -/
def unreliable (start : Time) (takes : Nat → Option Nat) (increments expiries : Nat → Bool) :
    Serving :=
  ⟨start,
    { atomic := false, delay := takes, incrementFails := increments, expiryFails := expiries }, []⟩

/-- Time goes by, or a request is to be let through. An increment is logged when it ends. -/
def ask (l : RateLimiter) (s : Serving) : Admission.Event → Serving
  | .advance ms => s.step (.advance ms)
  | .allow client =>
    let (now, store, verdict) := (l.count client).run s.now s.store
    let asked := List.range' s.store.expiryCalls (store.expiryCalls - s.store.expiryCalls)
    let ended := (Answer.heard? verdict).map fun answer ↦
      ⟨.window (RateLimiter.counterKey client) l.windowMs, now, answer,
        asked.map fun n ↦ !s.store.expiryFails n⟩
    ⟨now, store, ended.toList ++ s.log⟩

def askAll (l : RateLimiter) (s : Serving) (events : List Admission.Event) : Serving :=
  events.foldl (ask l) s

/-- What a limiter answers follows from what it has heard. -/
theorem run_allow (l : RateLimiter) (client : String) (s : Serving) :
    (l.allow client).run s.now s.store =
      ((s.ask l (.allow client)).now, (s.ask l (.allow client)).store,
        ((l.count client).run s.now s.store).2.2.map l.allows) :=
  Activity.run_map l.allows rfl

theorem ask_of_late (hturns : s.store.atomic = false)
    (hlate : ∀ ms, s.store.delay s.store.incrementsBegun = some ms → l.storeTimeoutMs < ms)
    (client : String) :
    s.ask l (.allow client) =
      ⟨s.now + l.storeTimeoutMs, { s.store with
        incrementsBegun := s.store.incrementsBegun + 1 }, s.log⟩ := by
  simp only [ask, RateLimiter.run_count_of_late hturns hlate]
  rfl

theorem ask_of_fails (hturns : s.store.atomic = false)
    (htakes : s.store.delay s.store.incrementsBegun = some ms) (hle : ms ≤ l.storeTimeoutMs)
    (hfails : s.store.incrementFails s.store.incrementsEnded = true) (client : String) :
    s.ask l (.allow client) =
      ⟨s.now + ms, { s.store with
        incrementsBegun := s.store.incrementsBegun + 1
        incrementsEnded := s.store.incrementsEnded + 1 },
        ⟨.window (RateLimiter.counterKey client) l.windowMs, s.now + ms, .failed .closed, []⟩ ::
          s.log⟩ := by
  simp only [ask, RateLimiter.run_count_of_fails hturns htakes hle hfails, Nat.sub_self]
  rfl

theorem ask_of_counts (hturns : s.store.atomic = false)
    (htakes : s.store.delay s.store.incrementsBegun = some ms) (hle : ms ≤ l.storeTimeoutMs)
    (hcounts : s.store.incrementFails s.store.incrementsEnded = false) (client : String) :
    let key := RateLimiter.counterKey client
    s.ask l (.allow client) =
      ⟨s.now + ms, { s.store with
        map := (s.store.map.increment (s.now + ms) key).2.expireAfter (s.now + ms) key
          (s.store.grant (s.now + ms) l.windowMs)
        incrementsBegun := s.store.incrementsBegun + 1
        incrementsEnded := s.store.incrementsEnded + 1
        expiryCalls := s.store.expiryCalls + s.store.tries.length },
        ⟨.window key l.windowMs, s.now + ms, if s.store.breaks (s.now + ms) key l.windowMs
          then .brokeDown else .counted ((s.store.map.current (s.now + ms) key).count + 1),
          s.store.tries⟩ :: s.log⟩ := by
  intro key
  simp only [ask, RateLimiter.run_count_of_counts hturns htakes hle hcounts,
    Nat.add_sub_cancel_left, CounterStore.map_range'_tries]
  split
  · rfl
  · rfl

/-- A request whose increment fails or is late is let through, and the counters are left as they
are. -/
theorem allow_of_unheard (hturns : s.store.atomic = false)
    (h : s.store.incrementFails s.store.incrementsEnded = true ∨
      ∀ ms, s.store.delay s.store.incrementsBegun = some ms → l.storeTimeoutMs < ms)
    (client : String) :
    let s' := s.ask l (.allow client)
    (l.allow client).run s.now s.store = (s'.now, s'.store, .done true) ∧
      s'.now ≤ s.now + l.storeTimeoutMs ∧ s'.store.map = s.store.map := by
  intro s'
  have hrun : (l.allow client).run s.now s.store = (s'.now, s'.store, _) := run_allow l client s
  rw [hrun]
  obtain ⟨ms, hle, htakes⟩ | hlate := inTime_or_late (s.store.delay s.store.incrementsBegun)
    l.storeTimeoutMs
  · obtain hfails | hlate := h
    · rw [RateLimiter.run_count_of_fails hturns htakes hle hfails,
        show s' = _ from ask_of_fails hturns htakes hle hfails client]
      exact ⟨rfl, Nat.add_le_add_left hle s.now, rfl⟩
    · exact absurd hle (Nat.not_le_of_lt (hlate ms htakes))
  · rw [RateLimiter.run_count_of_late hturns hlate,
      show s' = _ from ask_of_late hturns hlate client]
    exact ⟨rfl, Nat.le_refl _, rfl⟩

/-- The same store, if its increments took no time. -/
def prompted (s : Serving) : Serving :=
  { s with store := { s.store with delay := fun _ ↦ some 0 } }

/-- An increment that ends in time is one that takes no time, later. -/
theorem prompted_ask (hturns : s.store.atomic = false)
    (htakes : s.store.delay s.store.incrementsBegun = some ms) (hle : ms ≤ l.storeTimeoutMs)
    (client : String) :
    (s.ask l (.allow client)).prompted =
      (s.prompted.step (.advance ms)).step
        (.window (RateLimiter.counterKey client) l.windowMs) := by
  let later := s.prompted.step (.advance ms)
  have hprompt : later.store.Prompt := fun _ ↦ rfl
  cases hfails : s.store.incrementFails s.store.incrementsEnded with
  | true =>
    have hstep := step_window_of_fails (s := later) hturns hprompt hfails
    rw [ask_of_fails hturns htakes hle hfails, hstep]
    rfl
  | false =>
    have hstep := step_window_of_counts (s := later) hturns hprompt hfails
    rw [ask_of_counts hturns htakes hle hfails, hstep]
    rfl

/-- A store as it was set up, of which `begun` increments have been asked for, that has counted what
has ended of them, and whose counters are as their lives say. -/
structure Tracks (new : CounterStore) (begun : Nat) (s : Serving) : Prop where
  turns : s.store.atomic = false
  setup : s.store.SetUpLike new
  begun : s.store.incrementsBegun = begun
  sound : s.prompted.Sound
  counts : s.prompted.Counts

variable {new : CounterStore} {begun : Nat}

theorem Tracks.advance (h : s.Tracks new begun) (ms : Nat) :
    (s.step (.advance ms)).Tracks new begun :=
  ⟨h.turns, h.setup, h.begun, h.sound.advance ms, ⟨h.counts.increments, h.counts.expiries⟩⟩

theorem Tracks.allow (h : s.Tracks new begun) (l : RateLimiter) (client : String) :
    (s.ask l (.allow client)).Tracks new (begun + 1) := by
  obtain ⟨ms, hle, htakes⟩ | hlate := inTime_or_late (s.store.delay s.store.incrementsBegun)
    l.storeTimeoutMs
  · have hsetup : (s.ask l (.allow client)).store.SetUpLike s.store ∧
        (s.ask l (.allow client)).store.incrementsBegun = s.store.incrementsBegun + 1 := by
      cases hfails : s.store.incrementFails s.store.incrementsEnded with
      | true =>
        rw [ask_of_fails h.turns htakes hle hfails]
        exact ⟨⟨rfl, rfl, rfl, rfl⟩, rfl⟩
      | false =>
        rw [ask_of_counts h.turns htakes hle hfails]
        exact ⟨⟨rfl, rfl, rfl, rfl⟩, rfl⟩
    have hlater : (s.prompted.step (.advance ms)).Counts := ⟨h.counts.increments, h.counts.expiries⟩
    have hprompted := prompted_ask h.turns htakes hle client
    exact
      { turns := hsetup.1.atomic.trans h.turns
        setup := hsetup.1.trans h.setup
        begun := hsetup.2.trans (congrArg (· + 1) h.begun)
        sound := by
          rw [hprompted]
          exact (h.sound.advance ms).step _
        counts := by
          rw [hprompted]
          exact hlater.step (fun _ ↦ rfl) h.turns _ }
  · have hlater := h.sound.advance l.storeTimeoutMs
    rw [ask_of_late h.turns hlate]
    exact
      { turns := h.turns
        setup := ⟨h.setup.atomic, h.setup.delay, h.setup.incrementFails, h.setup.expiryFails⟩
        begun := congrArg (· + 1) h.begun
        sound := ⟨hlater.prompt, hlater.positive, hlater.lives⟩
        counts := ⟨h.counts.increments, h.counts.expiries⟩ }

theorem Tracks.askAll (h : s.Tracks new begun) (l : RateLimiter) (events : List Admission.Event) :
    (s.askAll l events).Tracks new (begun + events.countP (·.asks)) := by
  induction events generalizing s begun with
  | nil => exact h
  | cons e events ih =>
    cases e with
    | advance ms => exact ih (h.advance ms)
    | allow client =>
      have hrest := ih (h.allow l client)
      rw [Nat.add_assoc, Nat.add_comm 1] at hrest
      rw [List.countP_cons_of_pos rfl]
      exact hrest

theorem tracks_unreliable (start : Time) (takes : Nat → Option Nat)
    (increments expiries : Nat → Bool) :
    let s := unreliable start takes increments expiries
    s.Tracks s.store 0 :=
  ⟨rfl, ⟨rfl, rfl, rfl, rfl⟩, rfl, sound_new rfl (fun _ ↦ rfl) start, ⟨rfl, rfl⟩⟩

/-- What the log says of the counter of a client at an instant from now on. -/
def counted (s : Serving) (client : String) (t : Time) : Counter :=
  (tally false (life false (RateLimiter.counterKey client) s.log)).left t

theorem Tracks.current_eq (h : s.Tracks new begun) {t : Time} (hle : s.now ≤ t) (client : String) :
    s.store.map.current t (RateLimiter.counterKey client) = s.counted client t := by
  have hlives : s.store.map.current s.now (RateLimiter.counterKey client) =
      s.counted client s.now := by
    rw [counted, ← h.turns]
    exact h.sound.lives _
  rw [s.store.map.current_later hle, hlives, counted, Counter.left_left hle, counted]

/-- An increment that goes through in time decides, whichever of its expiries fail. -/
theorem Tracks.outcome_of_counts (h : s.Tracks new begun)
    (htakes : s.store.delay s.store.incrementsBegun = some ms) (hle : ms ≤ l.storeTimeoutMs)
    (hcounts : s.store.incrementFails s.store.incrementsEnded = false) (client : String)
    (fails : Nat → Bool) :
    let c := s.counted client (s.now + ms)
    let j := expiriesAsked s.log
    ((l.allow client).run s.now { s.store with expiryFails := fails }).2.2 =
      if (fails j = false ∨ fails (j + 1) = false) ∧ clockEnd ≤ s.now + ms + l.windowMs ∧
        c.expiresAt = none then .panicked
      else .done (decide (c.count + 1 ≤ l.maxRequests)) := by
  intro c j
  let store := { s.store with expiryFails := fails }
  have hcurrent : store.map.current (s.now + ms) (RateLimiter.counterKey client) = c :=
    h.current_eq (Nat.le_add_right _ _) client
  have htries : true ∈ store.tries ↔ fails j = false ∨ fails (j + 1) = false := by
    have hcalls : store.expiryCalls = j := h.counts.expiries
    unfold CounterStore.tries
    rw [hcalls]
    cases hfirst : fails j with
    | false => simp [store, hfirst]
    | true => simp [store, hfirst]
  have hbreaks : store.breaks (s.now + ms) (RateLimiter.counterKey client) l.windowMs ↔
      (fails j = false ∨ fails (j + 1) = false) ∧ clockEnd ≤ s.now + ms + l.windowMs ∧
        c.expiresAt = none := by
    have hpositive : store.map.All (·.count ≠ 0) := h.sound.positive
    rw [CounterStore.breaks, hpositive.bumped_none, hcurrent, htries]
  have hcount :=
    RateLimiter.run_count_of_counts (s := store) h.turns htakes hle hcounts s.now client
  have hallow := Activity.run_map l.allows hcount
  rw [hcurrent] at hallow
  rw [RateLimiter.allow, hallow]
  simp only [hbreaks]
  split
  · rfl
  · rfl

/-- An increment that goes through in time is one more in the life of the counter. -/
theorem Tracks.count_ask (h : s.Tracks new begun)
    (htakes : s.store.delay s.store.incrementsBegun = some ms) (hle : ms ≤ l.storeTimeoutMs)
    (hcounts : s.store.incrementFails s.store.incrementsEnded = false) (client : String) :
    (life false (RateLimiter.counterKey client) (s.ask l (.allow client)).log).countP
      Served.counts = (s.counted client (s.now + ms)).count + 1 := by
  let key := RateLimiter.counterKey client
  let e : Served := ⟨.window key l.windowMs, s.now + ms,
    if s.store.breaks (s.now + ms) key l.windowMs then .brokeDown
    else .counted ((s.store.map.current (s.now + ms) key).count + 1), s.store.tries⟩
  have hcounted : e.counts = true := by
    unfold e Served.counts
    split_ifs
    · rfl
    · rfl
  have htally : tally false (life false key (e :: s.log)) = _ :=
    tally_life_of_counts rfl rfl hcounted s.log
  rw [Served.leaves_of_counts rfl hcounted] at htally
  rw [ask_of_counts h.turns htakes hle hcounts]
  exact congrArg Counter.count htally

/-- A request whose increment goes through in time is answered when it ends, and denied only if the
limit has been passed in the life of the counter. -/
theorem Tracks.allow_of_counts (h : s.Tracks new begun)
    (htakes : s.store.delay s.store.incrementsBegun = some ms) (hle : ms ≤ l.storeTimeoutMs)
    (hcounts : s.store.incrementFails s.store.incrementsEnded = false) (client : String) :
    let s' := s.ask l (.allow client)
    ∃ outcome, (l.allow client).run s.now s.store = (s'.now, s'.store, outcome) ∧
      s'.now = s.now + ms ∧ outcome ≠ .stuck ∧
      (outcome = .done false → l.maxRequests <
        (life false (RateLimiter.counterKey client) s'.log).countP Served.counts) := by
  intro s'
  have hnow : s'.now = s.now + ms := by
    rw [show s' = _ from ask_of_counts h.turns htakes hle hcounts client]
  obtain ⟨outcome, hrun⟩ : ∃ outcome, (l.allow client).run s.now s.store =
    (s'.now, s'.store, outcome) := ⟨_, run_allow l client s⟩
  have hdecided : outcome = _ := (congrArg (·.2.2) hrun).symm.trans
    (h.outcome_of_counts htakes hle hcounts client s.store.expiryFails)
  refine ⟨outcome, hrun, hnow, ?_, ?_⟩
  · rw [hdecided]
    split <;> nofun
  · intro hdenied
    rw [hdecided] at hdenied
    rw [h.count_ask htakes hle hcounts]
    split at hdenied
    · cases hdenied
    · exact Nat.lt_of_not_le (of_decide_eq_false (Outcome.done.inj hdenied))

/-- A limiter over a store that is not to be relied on, after any requests. The counter that an
increment would find is what the log of the increments that have ended says. A request is answered
within the time that the store is given. It is denied only if its increment has gone through in that
time, as one more than the limit in the life of the counter. Where it has gone through, the count
alone decides, whichever of the expiries fail; only an expiry that does not fail can break off, if
the clock does not get to it. And where the increment fails or does not end in time, the request is
let through, and the counters are left as they are. -/
theorem fails_open_in_time (l : RateLimiter) (start : Time) (takes : Nat → Option Nat)
    (increments expiries : Nat → Bool) (events : List Admission.Event) (client : String) :
    let s := (unreliable start takes increments expiries).askAll l events
    let s' := s.ask l (.allow client)
    let took := takes (events.countP (·.asks))
    let i := incrementsAsked s.log
    let j := expiriesAsked s.log
    (∀ t, s.now ≤ t →
      s.store.map.current t (RateLimiter.counterKey client) = s.counted client t) ∧
    ∃ outcome, (l.allow client).run s.now s.store = (s'.now, s'.store, outcome) ∧
      (s'.now ≤ s.now + l.storeTimeoutMs ∧ outcome ≠ .stuck) ∧
      (outcome = .done false →
        (∃ ms ≤ l.storeTimeoutMs, took = some ms ∧ s'.now = s.now + ms) ∧ increments i = false ∧
          l.maxRequests <
            (life false (RateLimiter.counterKey client) s'.log).countP Served.counts) ∧
      (∀ ms ≤ l.storeTimeoutMs, took = some ms → increments i = false → ∀ fails : Nat → Bool,
        let c := s.counted client (s.now + ms)
        ((l.allow client).run s.now { s.store with expiryFails := fails }).2.2 =
          if (fails j = false ∨ fails (j + 1) = false) ∧ clockEnd ≤ s.now + ms + l.windowMs ∧
            c.expiresAt = none then .panicked
          else .done (decide (c.count + 1 ≤ l.maxRequests))) ∧
      (increments i = true ∨ (∀ ms, took = some ms → l.storeTimeoutMs < ms) →
        outcome = .done true ∧ s'.store.map = s.store.map) := by
  intro s s' took i j
  have htracks : s.Tracks _ _ :=
    (tracks_unreliable start takes increments expiries).askAll l events
  have htook : s.store.delay s.store.incrementsBegun = took := by
    rw [htracks.setup.delay, htracks.begun, Nat.zero_add]
    rfl
  have hasked : s.store.incrementsEnded = i := htracks.counts.increments
  have hfails : s.store.incrementFails s.store.incrementsEnded = increments i := by
    rw [htracks.setup.incrementFails, hasked]
    rfl
  refine ⟨fun t hle ↦ htracks.current_eq hle client, ?_⟩
  obtain ⟨ms, hle, hms, hincrement⟩ | hunheard :=
    heard_or_unheard took l.storeTimeoutMs (increments i)
  · have htakes := htook.trans hms
    have hcounts := hfails.trans hincrement
    obtain ⟨outcome, hrun, hnow, hended, hdenied⟩ :=
      htracks.allow_of_counts htakes hle hcounts client
    refine ⟨outcome, hrun, ⟨hnow ▸ Nat.add_le_add_left hle s.now, hended⟩,
      fun h ↦ ⟨⟨ms, hle, hms, hnow⟩, hincrement, hdenied h⟩, ?_, ?_⟩
    · intro ms' _ hms' _ fails
      cases hms.symm.trans hms'
      exact htracks.outcome_of_counts htakes hle hcounts client fails
    · rintro (hrefused | hlate)
      · exact absurd (hrefused.symm.trans hincrement) nofun
      · exact absurd hle (Nat.not_le_of_lt (hlate ms hms))
  · rw [← hfails, ← htook] at hunheard
    obtain ⟨hrun, hnow, hmap⟩ := allow_of_unheard htracks.turns hunheard client
    refine ⟨_, hrun, ⟨hnow, nofun⟩, nofun, ?_, fun _ ↦ ⟨rfl, hmap⟩⟩
    intro ms hle hms hcounts
    obtain hrefused | hlate := hunheard
    · exact absurd (hrefused.symm.trans (hfails.trans hcounts)) nofun
    · exact absurd hle (Nat.not_le_of_lt (hlate ms (htook.trans hms)))

end Serving

end RpcGateway.Access
