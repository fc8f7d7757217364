import RpcGateway.Proofs.Access.Counters
import RpcGateway.Proofs.Activity.History

/-!
# A store in use

What a store is asked for, one request after the other, and what comes back. A store may do an
increment and its expiry at once, or have only the two one after the other, each of which may fail
at any call. Either way a request takes no time, and what it does is said here once: an increment
that fails changes no counter, and one that goes through may still break down at its expiry, if the
clock does not reach the end of the window.
-/

namespace RpcGateway.Access

variable {α : Type} {s : CounterStore} {now : Time} {ms : Nat} {key : String}

namespace CounterStore

/-- Neither an increment nor an expiry fails. -/
def Reliable (s : CounterStore) : Prop :=
  (∀ n, s.incrementFails n = false) ∧ ∀ n, s.expiryFails n = false

/-- Every increment takes effect at the instant at which it is asked for. -/
def Prompt (s : CounterStore) : Prop := ∀ n, s.delay n = some 0

/-- The same store, but for what it has counted. -/
structure SetUpLike (s s' : CounterStore) : Prop where
  atomic : s.atomic = s'.atomic
  delay : s.delay = s'.delay
  incrementFails : s.incrementFails = s'.incrementFails
  expiryFails : s.expiryFails = s'.expiryFails

theorem SetUpLike.trans {s s' s'' : CounterStore} (h : s.SetUpLike s') (h' : s'.SetUpLike s'') :
    s.SetUpLike s'' where
  atomic := h.atomic.trans h'.atomic
  delay := h.delay.trans h'.delay
  incrementFails := h.incrementFails.trans h'.incrementFails
  expiryFails := h.expiryFails.trans h'.expiryFails

theorem SetUpLike.prompt {s s' : CounterStore} (h : s.SetUpLike s') (hprompt : s'.Prompt) :
    s.Prompt := by
  unfold Prompt
  rw [h.delay]
  exact hprompt

theorem SetUpLike.reliable {s s' : CounterStore} (h : s.SetUpLike s') (hreliable : s'.Reliable) :
    s.Reliable := by
  unfold Reliable
  rw [h.incrementFails, h.expiryFails]
  exact hreliable

/-- An increment does what it does at its end. -/
theorem run_increment (htakes : s.delay s.incrementsBegun = some ms) (now : Time) (key : String) :
    (increment key).run now s =
      (now + ms, { s with
        map := if s.incrementFails s.incrementsEnded then s.map
          else (s.map.increment (now + ms) key).2
        incrementsBegun := s.incrementsBegun + 1
        incrementsEnded := s.incrementsEnded + 1 },
        .done (if s.incrementFails s.incrementsEnded then .error .closed
          else .ok (s.map.increment (now + ms) key).1)) := by
  simp only [increment, Activity.run, htakes, Activity.sleepUntil, Activity.bind,
    Activity.modifyGet, incrementStep, Nat.max_eq_right (Nat.le_add_right now ms)]
  split
  · rfl
  · rfl

/-- An expiry that goes through gives a counter that has none the end of the window, if the clock
gets there. -/
theorem run_expireIfUnset (s : CounterStore) (now : Time) (key : String) (ttl : Nat) :
    (expireIfUnset key ttl).run now s =
      (now, { s with
        map := if s.expiryFails s.expiryCalls then s.map
          else s.map.expireAfter now key (nameable now ttl)
        expiryCalls := s.expiryCalls + 1 },
        if expiryBeyondClock key ttl now s then .panicked
        else .done (if s.expiryFails s.expiryCalls then .error .closed else .ok ())) := by
  simp only [expireIfUnset, Activity.run, Activity.keep]
  by_cases hbeyond : clockEnd ≤ now + ttl
  · have hnone : nameable now ttl = none := if_pos hbeyond
    rw [hnone]
    by_cases hbreaks : expiryBeyondClock key ttl now s = true
    · rw [if_pos hbreaks, if_pos hbreaks]
      simp [Activity.run, CounterMap.expireAfter]
    · rw [if_neg hbreaks, if_neg hbreaks]
      cases hfails : s.expiryFails s.expiryCalls with
      | true => simp [Activity.modifyGet, Activity.run, expiryStep, hfails]
      | false =>
        have hset : (s.map.counters[key]?.any fun c ↦ c.expiresAt.isNone) = false := by
          simpa [expiryBeyondClock, hbeyond, hfails] using hbreaks
        simp [Activity.modifyGet, Activity.run, expiryStep, hfails, CounterMap.expireAfter,
          CounterMap.expireIfUnset_eq_self hset]
  · have hsome : nameable now ttl = some ttl := if_neg hbeyond
    have hnot : expiryBeyondClock key ttl now s = false := by
      simp [expiryBeyondClock, hbeyond]
    rw [hsome, hnot]
    cases hfails : s.expiryFails s.expiryCalls with
    | true => simp [Activity.modifyGet, Activity.run, expiryStep, hfails]
    | false => simp [Activity.modifyGet, Activity.run, expiryStep, hfails, CounterMap.expireAfter]

/-- The expiries that an increment asks for, by whether they go through: one, and one more if that
fails. -/
def tries (s : CounterStore) : List Bool :=
  if s.expiryFails s.expiryCalls then [false, !s.expiryFails (s.expiryCalls + 1)] else [true]

theorem map_range'_tries (s : CounterStore) :
    (List.range' s.expiryCalls s.tries.length).map (fun n ↦ !s.expiryFails n) = s.tries := by
  unfold tries
  cases hfirst : s.expiryFails s.expiryCalls with
  | false => simp [hfirst]
  | true => simp [hfirst, List.range']

theorem Reliable.tries (h : s.Reliable) : s.tries = [true] := by
  unfold CounterStore.tries
  rw [if_neg (by simp [h.2])]

/-- The window that a counter is given, unless it has one, if the clock gets to the end. -/
def grant (s : CounterStore) (now : Time) (window : Nat) : Option Nat :=
  if true ∈ s.tries then nameable now window else none

/-- What an increment that has counted `n` does then. -/
def expireTwice (key : String) (window n : Nat) : Activity CounterStore (Except StoreError Nat) :=
  (expireIfUnset key window).bind fun
    | .ok _ => .done (.ok n)
    | .error _ => (expireIfUnset key window).bind fun _ ↦ .done (.ok n)

theorem run_expireTwice (s : CounterStore) (now : Time) (key : String) (window n : Nat) :
    (expireTwice key window n).run now s =
      (now, { s with
        map := s.map.expireAfter now key (s.grant now window)
        expiryCalls := s.expiryCalls + s.tries.length },
        if true ∈ s.tries ∧ clockEnd ≤ now + window ∧
          (s.map.counters[key]?.any fun c ↦ c.expiresAt.isNone) then .panicked
        else .done (.ok n)) := by
  rw [expireTwice, Activity.run_bind, run_expireIfUnset]
  by_cases hbreaks : clockEnd ≤ now + window ∧
      (s.map.counters[key]?.any fun c ↦ c.expiresAt.isNone)
  all_goals
    cases hfirst : s.expiryFails s.expiryCalls with
    | false =>
      simp [expiryBeyondClock, hbreaks, grant, tries, hfirst, Activity.run]
    | true =>
      simp only [expiryBeyondClock, hfirst, if_true, Bool.not_true, Bool.and_false, Bool.false_and,
        Bool.false_eq_true, if_false]
      rw [Activity.run_bind, run_expireIfUnset]
      cases hsecond : s.expiryFails (s.expiryCalls + 1) with
      | false =>
        simp [expiryBeyondClock, hbreaks, grant, tries, hfirst, hsecond, Activity.run]
      | true =>
        simp [expiryBeyondClock, grant, tries, hfirst, hsecond, Activity.run,
          CounterMap.expireAfter]

/-- Whether an increment breaks down at its expiry, after it has counted. -/
def breaks (s : CounterStore) (now : Time) (key : String) (window : Nat) : Prop :=
  true ∈ s.tries ∧ clockEnd ≤ now + window ∧ (s.map.bumped now key none).expiresAt = none

instance (s : CounterStore) (now : Time) (key : String) (window : Nat) :
    Decidable (s.breaks now key window) := inferInstanceAs (Decidable (_ ∧ _))

theorem run_incrementInWindow_eq (hturns : s.atomic = false) (now : Time) (key : String)
    (window : Nat) :
    (incrementInWindow key window).run now s = (incrementThenExpire key window).run now s := by
  rw [incrementInWindow, Activity.run, hturns]
  rfl

/-- With the one after the other, an increment that fails is the end of it. -/
theorem run_incrementInWindow_of_fails (hturns : s.atomic = false)
    (htakes : s.delay s.incrementsBegun = some ms)
    (hfails : s.incrementFails s.incrementsEnded = true) (now : Time) (key : String)
    (window : Nat) :
    (incrementInWindow key window).run now s =
      (now + ms, { s with
        incrementsBegun := s.incrementsBegun + 1
        incrementsEnded := s.incrementsEnded + 1 }, .done (.error .closed)) := by
  rw [run_incrementInWindow_eq hturns, incrementThenExpire, Activity.run_bind,
    run_increment htakes]
  simp only [hfails, if_true]
  rfl

/-- With the one after the other, an increment that goes through counts whatever its expiries do. -/
theorem run_incrementInWindow_of_counts (hturns : s.atomic = false)
    (htakes : s.delay s.incrementsBegun = some ms)
    (hcounts : s.incrementFails s.incrementsEnded = false) (now : Time) (key : String)
    (window : Nat) :
    (incrementInWindow key window).run now s =
      (now + ms, { s with
        map := (s.map.increment (now + ms) key).2.expireAfter (now + ms) key
          (s.grant (now + ms) window)
        incrementsBegun := s.incrementsBegun + 1
        incrementsEnded := s.incrementsEnded + 1
        expiryCalls := s.expiryCalls + s.tries.length },
        if s.breaks (now + ms) key window then .panicked
        else .done (.ok ((s.map.current (now + ms) key).count + 1))) := by
  have hfound : (s.map.increment (now + ms) key).2.counters[key]? =
      some (s.map.bumped (now + ms) key none) := by
    rw [CounterMap.increment, CounterMap.getElem?_bump, if_pos rfl]
  have hcount : (s.map.increment (now + ms) key).1 = (s.map.current (now + ms) key).count + 1 :=
    s.map.bump_fst (now + ms) key none
  rw [run_incrementInWindow_eq hturns, incrementThenExpire, Activity.run_bind,
    run_increment htakes]
  simp only [hcounts, Bool.false_eq_true, if_false]
  apply (run_expireTwice _ (now + ms) key window _).trans
  simp only [hfound, hcount, Option.any_some, Option.isNone_iff_eq_none]
  rfl

end CounterStore

/-! ## Requests -/

inductive Request where
  | advance (ms : Nat)
  | sweep
  | close
  | increment (key : String)
  | expire (key : String) (ttl : Nat)
  | window (key : String) (window : Nat)
deriving DecidableEq

/-- What came back from a request, if anything did. -/
inductive Answer where
  | counted (n : Nat)
  | done
  | failed (e : StoreError)
  | brokeDown
deriving DecidableEq

def Answer.of (f : α → Answer) : Outcome (Except StoreError α) → Answer
  | .done (.ok a) => f a
  | .done (.error e) => .failed e
  | .panicked => .brokeDown
  | .stuck => .brokeDown

/-- A request as it went. -/
structure Served where
  request : Request
  instant : Time
  answer : Answer
  /-- The expiries that it asked for, by whether they went through. -/
  expiries : List Bool
deriving DecidableEq

/-- A store at an instant, with what it has been asked for so far, the last request first. -/
structure Serving where
  now : Time
  store : CounterStore
  log : List Served := []

namespace Serving

/-- Lets the store do what it is asked for. -/
def serve (s : Serving) (r : Request) (f : α → Answer)
    (t : Activity CounterStore (Except StoreError α)) : Serving :=
  let (now, store, outcome) := t.run s.now s.store
  let asked := List.range' s.store.expiryCalls (store.expiryCalls - s.store.expiryCalls)
  ⟨now, store,
    ⟨r, s.now, .of f outcome, asked.map fun n ↦ !s.store.expiryFails n⟩ :: s.log⟩

def step (s : Serving) : Request → Serving
  | .advance ms => { s with now := s.now + ms }
  | .sweep => { s with store := { s.store with map := s.store.map.sweep s.now } }
  | .close =>
    let (closed, store) := s.store.close
    { s with
      store
      log := ⟨.close, s.now, if closed then .done else .failed .closed, []⟩ :: s.log }
  | .increment key => s.serve (.increment key) .counted (CounterStore.increment key)
  | .expire key ttl =>
    s.serve (.expire key ttl) (fun _ ↦ .done) (CounterStore.expireIfUnset key ttl)
  | .window key window =>
    s.serve (.window key window) .counted (CounterStore.incrementInWindow key window)

/-- What has come back, the last answer first. -/
def answers (s : Serving) : List Answer := s.log.map (·.answer)

def run (s : Serving) (rs : List Request) : Serving := rs.foldl step s

/-- A store that does both at once, and has not been asked for anything. -/
def atOnce (start : Time) : Serving := ⟨start, { atomic := true }, []⟩

/-- A store that does the one after the other, and has not been asked for anything. -/
def inTurn (start : Time) : Serving := ⟨start, { atomic := false }, []⟩

variable {s : Serving}

theorem step_close (s : Serving) :
    s.step .close =
      ⟨s.now, { s.store with
        map := if s.store.closeFails then s.store.map else s.store.map.close },
        ⟨.close, s.now, if s.store.closeFails then .failed .closed else .done, []⟩ :: s.log⟩ := by
  simp only [step, CounterStore.close]
  split
  · rfl
  · rfl

theorem step_increment (hprompt : s.store.Prompt) (key : String) :
    s.step (.increment key) =
      ⟨s.now, { s.store with
        map := if s.store.incrementFails s.store.incrementsEnded then s.store.map
          else (s.store.map.increment s.now key).2
        incrementsBegun := s.store.incrementsBegun + 1
        incrementsEnded := s.store.incrementsEnded + 1 },
        ⟨.increment key, s.now, if s.store.incrementFails s.store.incrementsEnded
          then .failed .closed else .counted ((s.store.map.current s.now key).count + 1), []⟩ ::
            s.log⟩ := by
  have hcount : (s.store.map.increment s.now key).1 = (s.store.map.current s.now key).count + 1 :=
    s.store.map.bump_fst s.now key none
  simp only [step, serve, CounterStore.run_increment (hprompt _), Nat.add_zero, Nat.sub_self,
    hcount]
  split
  · rfl
  · rfl

theorem step_expire (s : Serving) (key : String) (ttl : Nat) :
    s.step (.expire key ttl) =
      ⟨s.now, { s.store with
        map := if s.store.expiryFails s.store.expiryCalls then s.store.map
          else s.store.map.expireAfter s.now key (CounterStore.nameable s.now ttl)
        expiryCalls := s.store.expiryCalls + 1 },
        ⟨.expire key ttl, s.now, if CounterStore.expiryBeyondClock key ttl s.now s.store
          then .brokeDown else if s.store.expiryFails s.store.expiryCalls then .failed .closed
          else .done, [!s.store.expiryFails s.store.expiryCalls]⟩ :: s.log⟩ := by
  simp only [step, serve, CounterStore.run_expireIfUnset, Nat.add_sub_cancel_left]
  by_cases hbreaks : CounterStore.expiryBeyondClock key ttl s.now s.store = true
  · simp only [if_pos hbreaks]
    rfl
  · simp only [if_neg hbreaks]
    split
    · rfl
    · rfl

/-- An increment in a window as it goes where it is done at once with its expiry. -/
def servedAtOnce (s : Serving) (key : String) (window : Nat) : Served :=
  ⟨.window key window, s.now,
    if clockEnd ≤ s.now + window ∧ (s.store.map.current s.now key).count = 0 then .brokeDown
    else .counted ((s.store.map.current s.now key).count + 1), []⟩

/-- Both at once: the window is given to the counter that the increment creates. -/
theorem step_window_of_atomic (hatomic : s.store.atomic = true) (key : String) (window : Nat) :
    s.step (.window key window) =
      ⟨s.now, { s.store with
        map := (s.store.map.bump s.now key (CounterStore.nameable s.now window)).2 },
        s.servedAtOnce key window :: s.log⟩ := by
  simp only [step, serve, servedAtOnce, CounterStore.run_incrementInWindow hatomic, Nat.sub_self]
  split
  · rfl
  · rfl

/-- In turn: an increment that fails changes no counter and asks for no expiry. -/
theorem step_window_of_fails (hturns : s.store.atomic = false) (hprompt : s.store.Prompt)
    (hfails : s.store.incrementFails s.store.incrementsEnded = true) (key : String)
    (window : Nat) :
    s.step (.window key window) =
      ⟨s.now, { s.store with
        incrementsBegun := s.store.incrementsBegun + 1
        incrementsEnded := s.store.incrementsEnded + 1 },
        ⟨.window key window, s.now, .failed .closed, []⟩ :: s.log⟩ := by
  simp only [step, serve, CounterStore.run_incrementInWindow_of_fails hturns (hprompt _) hfails,
    Nat.add_zero, Nat.sub_self]
  rfl

/-- In turn: an increment that goes through asks for its expiries. -/
theorem step_window_of_counts (hturns : s.store.atomic = false) (hprompt : s.store.Prompt)
    (hcounts : s.store.incrementFails s.store.incrementsEnded = false) (key : String)
    (window : Nat) :
    s.step (.window key window) =
      ⟨s.now, { s.store with
        map := (s.store.map.increment s.now key).2.expireAfter s.now key
          (s.store.grant s.now window)
        incrementsBegun := s.store.incrementsBegun + 1
        incrementsEnded := s.store.incrementsEnded + 1
        expiryCalls := s.store.expiryCalls + s.store.tries.length },
        ⟨.window key window, s.now, if s.store.breaks s.now key window then .brokeDown
          else .counted ((s.store.map.current s.now key).count + 1), s.store.tries⟩ ::
            s.log⟩ := by
  simp only [step, serve, CounterStore.run_incrementInWindow_of_counts hturns (hprompt _) hcounts,
    Nat.add_zero, Nat.add_sub_cancel_left, CounterStore.map_range'_tries]
  split
  · rfl
  · rfl

/-- Time goes by, or else a request is logged. Neither changes what a store can do and what of it
fails. -/
theorem step_cases (hprompt : s.store.Prompt) (r : Request) :
    (s.step r).store.SetUpLike s.store ∧
      (s.now ≤ (s.step r).now ∧ (s.step r).log = s.log ∨
        ∃ e, (s.step r).log = e :: s.log ∧ e.instant = s.now ∧ (s.step r).now = s.now ∧
          e.request = r) := by
  cases r with
  | advance ms => exact ⟨⟨rfl, rfl, rfl, rfl⟩, .inl ⟨Nat.le_add_right .., rfl⟩⟩
  | sweep => exact ⟨⟨rfl, rfl, rfl, rfl⟩, .inl ⟨Nat.le_refl _, rfl⟩⟩
  | close =>
    rw [step_close]
    exact ⟨⟨rfl, rfl, rfl, rfl⟩, .inr ⟨_, rfl, rfl, rfl, rfl⟩⟩
  | increment key =>
    rw [step_increment hprompt]
    exact ⟨⟨rfl, rfl, rfl, rfl⟩, .inr ⟨_, rfl, rfl, rfl, rfl⟩⟩
  | expire key ttl =>
    rw [step_expire]
    exact ⟨⟨rfl, rfl, rfl, rfl⟩, .inr ⟨_, rfl, rfl, rfl, rfl⟩⟩
  | window key window =>
    cases hatomic : s.store.atomic with
    | true =>
      rw [step_window_of_atomic hatomic]
      exact ⟨⟨rfl, rfl, rfl, rfl⟩, .inr ⟨_, rfl, rfl, rfl, rfl⟩⟩
    | false =>
      cases hfails : s.store.incrementFails s.store.incrementsEnded with
      | true =>
        rw [step_window_of_fails hatomic hprompt hfails]
        exact ⟨⟨rfl, rfl, rfl, rfl⟩, .inr ⟨_, rfl, rfl, rfl, rfl⟩⟩
      | false =>
        rw [step_window_of_counts hatomic hprompt hfails]
        exact ⟨⟨rfl, rfl, rfl, rfl⟩, .inr ⟨_, rfl, rfl, rfl, rfl⟩⟩

theorem step_setup (hprompt : s.store.Prompt) (r : Request) :
    (s.step r).store.SetUpLike s.store := (step_cases hprompt r).1

theorem le_step (hprompt : s.store.Prompt) (r : Request) : s.now ≤ (s.step r).now := by
  obtain ⟨hnow, -⟩ | ⟨e, -, -, hnow, -⟩ := (step_cases hprompt r).2
  · exact hnow
  · exact Nat.le_of_eq hnow.symm

theorem run_setup (hprompt : s.store.Prompt) (rs : List Request) :
    (s.run rs).store.SetUpLike s.store := by
  induction rs generalizing s with
  | nil => exact ⟨rfl, rfl, rfl, rfl⟩
  | cons r rs ih =>
    have hstep := step_setup hprompt r
    exact (ih (hstep.prompt hprompt)).trans hstep

theorem le_run (hprompt : s.store.Prompt) (rs : List Request) : s.now ≤ (s.run rs).now := by
  induction rs generalizing s with
  | nil => exact Nat.le_refl _
  | cons r rs ih =>
    exact Nat.le_trans (le_step hprompt r) (ih ((step_setup hprompt r).prompt hprompt))

end Serving

end RpcGateway.Access
