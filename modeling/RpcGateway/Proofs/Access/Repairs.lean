import RpcGateway.Proofs.Access.Lives

/-!
# Increments and expiries that fail

A store that only has increments and expiries does an increment in a window with one of the first
and one or two of the second. Any of them may fail. How many of each have been asked for before can
be read off the log, so the log says which of them fail now. An increment that fails is the end of
it. One that goes through counts, whatever becomes of the expiries: if they fail, the counter gets
its expiry from a later increment in its life, the first with one that goes through.
-/

namespace RpcGateway.Access

variable {key : String}

namespace Served

/-- Whether an increment was asked for. -/
def asksIncrement (e : Served) : Bool :=
  match e.request with
  | .increment _ => true
  | .window _ _ => true
  | _ => false

end Served

def incrementsAsked (log : List Served) : Nat := log.countP (·.asksIncrement)

def expiriesAsked (log : List Served) : Nat := (log.flatMap (·.expiries)).length

namespace Serving

variable {s : Serving}

/-- A store that only has increments and expiries, with the numbers of those that fail. -/
def failingAt (start : Time) (increments expiries : Nat → Bool) : Serving :=
  ⟨start, { atomic := false, incrementFails := increments, expiryFails := expiries }, []⟩

/-- The store has counted what it has been asked for. -/
structure Counts (s : Serving) : Prop where
  increments : s.store.incrementsEnded = incrementsAsked s.log
  expiries : s.store.expiryCalls = expiriesAsked s.log

theorem Counts.logged (h : s.Counts) {store : CounterStore} {e : Served}
    (hincrements : store.incrementsEnded =
      s.store.incrementsEnded + if e.asksIncrement then 1 else 0)
    (hexpiries : store.expiryCalls = s.store.expiryCalls + e.expiries.length) :
    Counts ⟨s.now, store, e :: s.log⟩ where
  increments := by
    rw [hincrements, h.increments, incrementsAsked, incrementsAsked, List.countP_cons]
  expiries := by
    rw [hexpiries, h.expiries, expiriesAsked, expiriesAsked, List.flatMap_cons, List.length_append,
      Nat.add_comm]

theorem Counts.step (h : s.Counts) (hprompt : s.store.Prompt) (hturns : s.store.atomic = false)
    (r : Request) : (s.step r).Counts := by
  cases r with
  | advance ms => exact ⟨h.increments, h.expiries⟩
  | sweep => exact ⟨h.increments, h.expiries⟩
  | close =>
    rw [step_close]
    exact h.logged rfl rfl
  | increment key =>
    rw [step_increment hprompt]
    exact h.logged rfl rfl
  | expire key ttl =>
    rw [step_expire]
    exact h.logged rfl rfl
  | window key window =>
    cases hfails : s.store.incrementFails s.store.incrementsEnded with
    | true =>
      rw [step_window_of_fails hturns hprompt hfails]
      exact h.logged rfl rfl
    | false =>
      rw [step_window_of_counts hturns hprompt hfails]
      exact h.logged rfl rfl

theorem Counts.run (h : s.Counts) (hprompt : s.store.Prompt) (hturns : s.store.atomic = false)
    (rs : List Request) : (s.run rs).Counts := by
  induction rs generalizing s with
  | nil => exact h
  | cons r rs ih =>
    have hsetup := step_setup hprompt r
    exact ih (h.step hprompt hturns r) (hsetup.prompt hprompt) (hsetup.atomic.trans hturns)

/-- After any requests, with any failures of single increments and expiries: the counter that an
increment finds is what its life has left. An increment in a window that fails says so, asks for no
expiry and leaves the counters as they are. One that goes through asks for one expiry, and for one
more if that fails, and comes back with the count, whatever they do, unless the clock does not get
to an expiry that would go through. And an expiry is not moved until it is over. -/
theorem counts_whatever_expiries_do (start : Time) (increments expiries : Nat → Bool)
    (rs : List Request) (key : String) (window : Nat) :
    let s := (failingAt start increments expiries).run rs
    let s' := s.step (.window key window)
    let c := (tally false (life false key s.log)).left s.now
    let i := incrementsAsked s.log
    let j := expiriesAsked s.log
    let tries := if expiries j then [false, !expiries (j + 1)] else [true]
    s.current key = c ∧
      (increments i = true →
        s'.log = ⟨.window key window, s.now, .failed .closed, []⟩ :: s.log ∧
          s'.store.map = s.store.map) ∧
      (increments i = false →
        s'.log = ⟨.window key window, s.now,
          if true ∈ tries ∧ clockEnd ≤ s.now + window ∧ c.expiresAt = none then .brokeDown
          else .counted (c.count + 1), tries⟩ :: s.log) ∧
      (∀ rs' due, .close ∉ rs' → c.expiresAt = some due → (s.run rs').now < due →
        ((s.run rs').current key).expiresAt = some due) := by
  intro s s' c i j tries
  have hprompt : (failingAt start increments expiries).store.Prompt := fun _ ↦ rfl
  have hsound : s.Sound := (sound_new rfl hprompt start).run rs
  have hsetup : s.store.SetUpLike (failingAt start increments expiries).store :=
    run_setup hprompt rs
  have hnew : (failingAt start increments expiries).Counts := ⟨rfl, rfl⟩
  have hcounts : s.Counts := hnew.run hprompt rfl rs
  have hcurrent : s.current key = c := by
    rw [hsound.lives key, hsetup.atomic]
    rfl
  have hfails : s.store.incrementFails s.store.incrementsEnded = increments i := by
    rw [hsetup.incrementFails, hcounts.increments]
    rfl
  have htries : s.store.tries = tries := by
    rw [CounterStore.tries, hsetup.expiryFails, hcounts.expiries]
    rfl
  refine ⟨hcurrent, ?_, ?_, ?_⟩
  · intro hincrement
    have hstep : s' = _ :=
      step_window_of_fails hsetup.atomic hsound.prompt (hfails.trans hincrement) key window
    rw [hstep]
    exact ⟨rfl, rfl⟩
  · intro hincrement
    have hbreaks : s.store.breaks s.now key window ↔
        true ∈ tries ∧ clockEnd ≤ s.now + window ∧ c.expiresAt = none := by
      rw [CounterStore.breaks, hsound.positive.bumped_none, htries, ← hcurrent]
      rfl
    have hstep : s' = _ :=
      step_window_of_counts hsetup.atomic hsound.prompt (hfails.trans hincrement) key window
    rw [hstep]
    simp only [hbreaks, htries, ← hcurrent]
    rfl
  · intro rs' due hclose hdue hbefore
    exact hsound.expiresAt_run hclose (hcurrent ▸ hdue) hbefore

/-- The first increment in a window to whose end the clock does not get, where nothing fails. -/
theorem breaks_off_of_beyond (key : String) {window : Nat} (hbeyond : clockEnd ≤ window) :
    let s := (failingAt 0 (fun _ ↦ false) fun _ ↦ false).step (.window key window)
    s.answers = [.brokeDown] ∧ s.store.map.counters[key]? = some ⟨1, none⟩ := by
  let new := failingAt 0 (fun _ ↦ false) fun _ ↦ false
  have hend : clockEnd ≤ new.now + window := by simpa [new, failingAt] using hbeyond
  have hbumped : new.store.map.bumped new.now key none = ⟨1, none⟩ := by
    simp [new, failingAt, CounterMap.bumped, CounterMap.current]
  have hbreaks : new.store.breaks new.now key window :=
    ⟨List.mem_singleton_self true, hend, congrArg Counter.expiresAt hbumped⟩
  have hgrant : new.store.grant new.now window = none := by
    rw [CounterStore.grant, CounterStore.nameable, if_pos hend, ite_self]
  rw [step_window_of_counts rfl (fun _ ↦ rfl) rfl, if_pos hbreaks, hgrant]
  refine ⟨rfl, ?_⟩
  rw [CounterMap.expireAfter, CounterMap.increment, CounterMap.getElem?_bump, if_pos rfl, hbumped]

/-- An increment goes through, and nothing comes back. -/
theorem breaks_off_after_counting :
    let s := (failingAt 0 (fun _ ↦ false) fun _ ↦ false).step
      (.window "a" (18446744073709551615 * 1000))
    s.answers = [.brokeDown] ∧ s.store.map.counters["a"]? = some ⟨1, none⟩ :=
  breaks_off_of_beyond "a" (by decide)

end Serving

end RpcGateway.Access
