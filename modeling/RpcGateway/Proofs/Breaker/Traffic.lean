import Mathlib.Data.List.Perm.Basic
import Mathlib.Logic.Relation
import RpcGateway.Proofs.Breaker.Operations

/-!
# Traffic through a breaker

A run of a breaker is any order of events: a call asks to be let in, a running call ends with a
result or is given up, somebody reads the breaker, time passes. The breaker answers each of them
by its own operations. Beside the breaker stands what happened: the calls that are running and
those that have ended, how often the generation has changed, and when the breaker opened. A call is
of the period, the number of changes before it, in which it was let in; this does not depend on the
number in its permit.
-/

namespace RpcGateway.Calls

/-- A call that has been let in. -/
structure Call where
  permit : Permit
  /-- How often the generation had changed when the call was let in. -/
  period : Nat
  admittedAt : Time
deriving DecidableEq

inductive Ending where
  | succeeded
  | failed
  | cancelled
deriving DecidableEq

def Ending.of (success : Bool) : Ending := if success then succeeded else failed

structure EndedCall where
  call : Call
  ending : Ending
  endedAt : Time
  /-- How often the generation had changed when the breaker took notice of the end. -/
  endPeriod : Nat
deriving DecidableEq

/-- A breaker, the calls that go through it and what has happened so far. -/
structure Traffic where
  now : Time
  breaker : Breaker
  /-- How often the generation has changed. -/
  changes : Nat := 0
  /-- When the breaker opened, the last time first. -/
  openings : List Time := []
  running : List Call := []
  /-- The last one first. -/
  ended : List EndedCall := []

namespace Traffic

variable {s s' : Traffic} {b : Breaker} {p : Permit} {x : EndedCall} {place period : Nat}

/-- Running calls are named by their place in the list of them. -/
inductive Event where
  | advance (ms : Nat)
  | read
  | arrive
  | complete (place : Nat) (success : Bool)
  | cancel (place : Nat)
deriving DecidableEq

def new (c : Config.CircuitBreaker) (start : Time) : Traffic where
  now := start
  breaker := Breaker.new c start

/-- An operation has changed the breaker. -/
def update (s : Traffic) (b : Breaker) : Traffic :=
  { s with
    breaker := b
    changes := if b.generation = s.breaker.generation then s.changes else s.changes + 1
    openings :=
      if s.breaker.state ≠ .open ∧ b.state = .open then s.now :: s.openings else s.openings }

/-- The breaker has been read. -/
def refreshed (s : Traffic) : Traffic := s.update (s.breaker.refresh s.now)

/-- A call has been let in, and its operation begins. -/
def begin (s : Traffic) (p : Permit) : Traffic :=
  { s with running := ⟨p, s.changes, s.now⟩ :: s.running }

/-- The call at a place has come to an end. -/
def finish (s : Traffic) (place : Nat) (x : EndedCall) : Traffic :=
  { s with running := s.running.eraseIdx place, ended := x :: s.ended }

/-- What an event does. Asking for a call and ending one each begin with a refresh. -/
def step (s : Traffic) : Event → Traffic
  | .advance ms => { s with now := s.now + ms }
  | .read => s.refreshed
  | .arrive =>
    match s.breaker.acquire s.now with
    | (none, b) => s.refreshed.update b
    | (some p, b) => (s.refreshed.update b).begin p
  | .complete place success =>
    match s.running[place]? with
    | none => s
    | some c =>
      (s.refreshed.update (s.breaker.complete c.permit s.now success)).finish place
        ⟨c, .of success, s.now, s.refreshed.changes⟩
  | .cancel place =>
    match s.running[place]? with
    | none => s
    | some c =>
      (s.update (s.breaker.release c.permit)).finish place
        ⟨c, .cancelled, s.now, s.changes⟩

def run (s : Traffic) (events : List Event) : Traffic := events.foldl step s

/-- The calls whose operation has been invoked. -/
def started (s : Traffic) : List Call := s.running ++ s.ended.map EndedCall.call

def runningIn (s : Traffic) (period : Nat) : Nat := s.running.countP fun c ↦ c.period = period

def startedIn (s : Traffic) (period : Nat) : Nat := s.started.countP fun c ↦ c.period = period

/-- How many calls of a period have ended in a way. -/
def endedIn (s : Traffic) (ending : Ending) (period : Nat) : Nat :=
  s.ended.countP fun x ↦ x.ending = ending ∧ x.call.period = period

/-! ## The parts of a step -/

@[simp]
theorem update_now : (s.update b).now = s.now := rfl

@[simp]
theorem update_breaker : (s.update b).breaker = b := rfl

@[simp]
theorem update_running : (s.update b).running = s.running := rfl

/-- A change within a generation is not counted. -/
theorem update_changes_of_eq (h : b.generation = s.breaker.generation) :
    (s.update b).changes = s.changes := by
  simp only [update, if_pos h]

/-- A generation that begins is counted, since its number is another one. -/
theorem update_changes_of_renewed {t : Time} {target : CircuitState}
    (h : s.breaker.Renewed t target b) : (s.update b).changes = s.changes + 1 := by
  have hne : b.generation ≠ s.breaker.generation := by
    rw [h.generation]
    exact Breaker.nextGeneration_ne _
  simp only [update, if_neg hne]

/-- A breaker that keeps its state has not opened. -/
theorem update_openings_of_eq (h : b.state = s.breaker.state) :
    (s.update b).openings = s.openings := by
  simp [update, h]

/-- An opening is noted with its instant. -/
theorem update_openings_of_opens (hne : s.breaker.state ≠ .open) (hopen : b.state = .open) :
    (s.update b).openings = s.now :: s.openings := by
  simp [update, hne, hopen]

@[simp]
theorem update_self (s : Traffic) : s.update s.breaker = s := by
  simp [update]

/-- A reading with nothing due leaves no trace. -/
theorem refreshed_of_fresh (h : s.breaker.Fresh s.now) : s.refreshed = s := by
  rw [refreshed, h.refresh_eq, update_self]

/-- To read a breaker does nothing, or what is due. -/
theorem refreshed_cases (s : Traffic) :
    (s.breaker.Fresh s.now ∧ s.refreshed = s) ∨
      ∃ target b, s.breaker.Due s.now target ∧ s.breaker.Renewed s.now target b ∧
        s.refreshed = s.update b := by
  have hrefreshes := Breaker.refreshes s.breaker s.now
  unfold refreshed
  generalize s.breaker.refresh s.now = r at hrefreshes
  cases hrefreshes with
  | fresh fresh => exact .inl ⟨fresh, update_self s⟩
  | due due renewed => exact .inr ⟨_, r, due, renewed, rfl⟩

/-- After a refresh nothing is due. -/
theorem fresh_refreshed (s : Traffic) : s.refreshed.breaker.Fresh s.refreshed.now :=
  Breaker.fresh_refresh s.breaker s.now

@[simp]
theorem begin_breaker : (s.begin p).breaker = s.breaker := rfl

@[simp]
theorem begin_changes : (s.begin p).changes = s.changes := rfl

@[simp]
theorem begin_running : (s.begin p).running = ⟨p, s.changes, s.now⟩ :: s.running := rfl

@[simp]
theorem begin_started : (s.begin p).started = ⟨p, s.changes, s.now⟩ :: s.started := rfl

@[simp]
theorem finish_now : (s.finish place x).now = s.now := rfl

@[simp]
theorem finish_breaker : (s.finish place x).breaker = s.breaker := rfl

@[simp]
theorem finish_changes : (s.finish place x).changes = s.changes := rfl

@[simp]
theorem finish_running : (s.finish place x).running = s.running.eraseIdx place := rfl

@[simp]
theorem finish_ended : (s.finish place x).ended = x :: s.ended := rfl

/-- What is taken out of a list at a place is what was there. -/
theorem perm_eraseIdx {α : Type} {l : List α} {a : α} (h : l[place]? = some a) :
    List.Perm (a :: l.eraseIdx place) l := by
  obtain ⟨hlt, rfl⟩ := List.getElem?_eq_some_iff.mp h
  exact List.getElem_cons_eraseIdx_perm hlt

/-- Ending a call takes nothing from the calls that have been started. -/
theorem finish_started_perm (h : s.running[place]? = some x.call) :
    List.Perm (s.finish place x).started s.started := by
  have hperm : List.Perm (s.running.eraseIdx place ++ x.call :: s.ended.map EndedCall.call)
      (x.call :: s.running.eraseIdx place ++ s.ended.map EndedCall.call) := List.perm_middle
  exact hperm.trans ((perm_eraseIdx h).append_right _)

theorem mem_running_of_finish {c : Call} (h : c ∈ (s.finish place x).running) : c ∈ s.running :=
  List.mem_of_mem_eraseIdx h

/-- A call that has ended has still been started. -/
theorem mem_started_of_finish {c : Call} (h : s.running[place]? = some x.call) :
    c ∈ (s.finish place x).started ↔ c ∈ s.started :=
  (finish_started_perm h).mem_iff

/-- Calls that are running have been started. -/
theorem mem_started_of_running {c : Call} (h : c ∈ s.running) : c ∈ s.started :=
  List.mem_append_left _ h

/-- Calls that have ended have been started. -/
theorem mem_started_of_ended (h : x ∈ s.ended) : x.call ∈ s.started :=
  List.mem_append_right _ (List.mem_map_of_mem h)

theorem mem_running_of_getElem? {c : Call} (h : s.running[place]? = some c) : c ∈ s.running :=
  List.mem_of_getElem? h

/-! ## Counting calls -/

/-- A call that is let in is one more of the present period. -/
theorem runningIn_begin (s : Traffic) (p : Permit) (period : Nat) :
    (s.begin p).runningIn period = s.runningIn period + if s.changes = period then 1 else 0 := by
  simp [runningIn, List.countP_cons]

/-- A call is started once, in the period in which it is let in. -/
theorem startedIn_begin (s : Traffic) (p : Permit) (period : Nat) :
    (s.begin p).startedIn period = s.startedIn period + if s.changes = period then 1 else 0 := by
  simp [startedIn, List.countP_cons]

/-- A call that ends is one less of its period, which need not be the present one. -/
theorem runningIn_finish (h : s.running[place]? = some x.call) (period : Nat) :
    (s.finish place x).runningIn period + (if x.call.period = period then 1 else 0) =
      s.runningIn period := by
  have hcount := (perm_eraseIdx h).countP_eq fun c ↦ c.period = period
  simpa [runningIn, List.countP_cons] using hcount

theorem startedIn_finish (h : s.running[place]? = some x.call) (period : Nat) :
    (s.finish place x).startedIn period = s.startedIn period :=
  (finish_started_perm h).countP_eq _

/-- An end is counted for the period of its call. -/
theorem endedIn_finish (s : Traffic) (place : Nat) (x : EndedCall) (ending : Ending)
    (period : Nat) :
    (s.finish place x).endedIn ending period =
      s.endedIn ending period + if x.ending = ending ∧ x.call.period = period then 1 else 0 := by
  simp [endedIn, List.countP_cons]

/-- Each end is one of three. -/
theorem countP_ended (l : List EndedCall) (period : Nat) :
    l.countP (fun x ↦ x.call.period = period) =
      l.countP (fun x ↦ x.ending = .succeeded ∧ x.call.period = period) +
        l.countP (fun x ↦ x.ending = .failed ∧ x.call.period = period) +
          l.countP (fun x ↦ x.ending = .cancelled ∧ x.call.period = period) := by
  induction l with
  | nil => rfl
  | cons x l ih =>
    simp only [List.countP_cons, ih]
    cases hending : x.ending <;> by_cases hperiod : x.call.period = period <;>
      simp [hperiod] <;> omega

/-- Each call that was let in is running or has ended in one of the three ways. -/
theorem startedIn_eq (s : Traffic) (period : Nat) :
    s.startedIn period =
      s.runningIn period + (s.endedIn .succeeded period + s.endedIn .failed period +
        s.endedIn .cancelled period) := by
  have hended := countP_ended s.ended period
  simp only [startedIn, started, List.countP_append, List.countP_map, runningIn, endedIn]
  rw [← hended]
  rfl

/-! ## Moves -/

/-- What can happen at once. Each event is one or two of these, the first of the two being what time
has brought about. -/
inductive Move : Traffic → Traffic → Prop where
  | advance (s : Traffic) (ms : Nat) : Move s { s with now := s.now + ms }
  | renew {s : Traffic} {target : CircuitState} {b : Breaker} (due : s.breaker.Due s.now target)
      (renewed : s.breaker.Renewed s.now target b) : Move s (s.update b)
  | begin {s : Traffic} {p : Permit} {b : Breaker} (fresh : s.breaker.Fresh s.now)
      (acquires : s.breaker.Acquires (some p, b)) : Move s ((s.update b).begin p)
  | finish {s : Traffic} {place : Nat} {c : Call} {success : Bool} {b : Breaker}
      (fresh : s.breaker.Fresh s.now) (running : s.running[place]? = some c)
      (completes : s.breaker.Completes c.permit s.now success b) :
      Move s ((s.update b).finish place ⟨c, .of success, s.now, s.changes⟩)
  | cancel {s : Traffic} {place : Nat} {c : Call} (running : s.running[place]? = some c) :
      Move s ((s.update (s.breaker.release c.permit)).finish place
        ⟨c, .cancelled, s.now, s.changes⟩)

abbrev Moves : Traffic → Traffic → Prop := Relation.ReflTransGen Move

/-- To read a breaker is one move at most. -/
theorem moves_refreshed (s : Traffic) : Moves s s.refreshed := by
  obtain ⟨-, hsame⟩ | ⟨target, b, hdue, hrenewed, hrefreshed⟩ := refreshed_cases s
  · rw [hsame]
  · rw [hrefreshed]
    exact .single (.renew hdue hrenewed)

/-- A call that asks either is refused, and then only the refresh has been done, or it is let in. -/
theorem step_arrive_cases (s : Traffic) :
    ((s.breaker.acquire s.now).1 = none ∧
        s.refreshed.breaker.Acquires (none, s.refreshed.breaker) ∧
        s.step .arrive = s.refreshed) ∨
      ∃ p b, (s.breaker.acquire s.now).1 = some p ∧
        s.refreshed.breaker.Acquires (some p, b) ∧
        s.step .arrive = (s.refreshed.update b).begin p := by
  have hacquires : s.refreshed.breaker.Acquires (s.breaker.acquire s.now) :=
    Breaker.acquires s.breaker s.now
  simp only [step]
  split
  · rename_i b hacquire
    rw [hacquire] at hacquires ⊢
    have hsame : b = s.refreshed.breaker := by cases hacquires <;> rfl
    rw [hsame] at hacquires ⊢
    exact .inl ⟨rfl, hacquires, update_self _⟩
  · rename_i p b hacquire
    rw [hacquire] at hacquires ⊢
    exact .inr ⟨p, b, rfl, hacquires, rfl⟩

/-- An event is made up of moves: what is due, and then what the event does by itself. -/
theorem moves_step (s : Traffic) (e : Event) : Moves s (s.step e) := by
  cases e with
  | advance ms => exact .single (.advance s ms)
  | read => exact moves_refreshed s
  | arrive =>
    obtain ⟨-, -, hstep⟩ | ⟨p, b, -, hacquires, hstep⟩ := step_arrive_cases s
    · rw [hstep]
      exact moves_refreshed s
    · rw [hstep]
      exact (moves_refreshed s).tail (.begin (fresh_refreshed s) hacquires)
  | complete place success =>
    simp only [step]
    split
    · exact .refl
    · rename_i c hrunning
      have hcompletes : s.refreshed.breaker.Completes c.permit s.now success
          (s.breaker.complete c.permit s.now success) := Breaker.completes _ _ _ _
      exact (moves_refreshed s).tail (.finish (fresh_refreshed s) hrunning hcompletes)
  | cancel place =>
    simp only [step]
    split
    · exact .refl
    · rename_i c hrunning
      exact .single (.cancel hrunning)

theorem run_append (s : Traffic) (before after : List Event) :
    s.run (before ++ after) = (s.run before).run after := List.foldl_append

/-- A run is made up of moves. -/
theorem moves_run (s : Traffic) (events : List Event) : Moves s (s.run events) := by
  induction events generalizing s with
  | nil => exact .refl
  | cons e events ih => exact (moves_step s e).trans (ih (s.step e))

/-- What no move breaks holds after any moves. -/
theorem Moves.keeps {P : Traffic → Prop} (hP : ∀ {s s'}, Move s s' → P s → P s')
    (h : Moves s s') (hs : P s) : P s' := by
  induction h with
  | refl => exact hs
  | tail _ hmove ih => exact hP hmove ih

/-- No move goes back in time. -/
theorem Move.now_le (h : Move s s') : s.now ≤ s'.now := by
  cases h with
  | advance ms => exact Nat.le_add_right _ _
  | renew => exact Nat.le_refl _
  | begin => exact Nat.le_refl _
  | finish => exact Nat.le_refl _
  | cancel => exact Nat.le_refl _

theorem Move.settings (h : Move s s') : s'.breaker.settings = s.breaker.settings := by
  cases h with
  | advance => rfl
  | renew due renewed => exact renewed.settings
  | begin fresh acquires => exact acquires.admits.alike.settings
  | finish fresh running completes => exact completes.settings
  | cancel => exact (Breaker.alike_release _ _).settings

/-- The invariant of the breaker outlasts each move, by the relation that describes it. -/
theorem Move.sound (h : Move s s') (hs : s.breaker.Sound) : s'.breaker.Sound := by
  cases h with
  | advance => exact hs
  | renew due renewed => exact hs.renewed renewed
  | begin fresh acquires => exact hs.acquires acquires
  | finish fresh running completes => exact hs.completes completes
  | cancel => exact hs.release _

/-- The settings are those that the breaker began with. -/
theorem Moves.settings (h : Moves s s') : s'.breaker.settings = s.breaker.settings := by
  induction h with
  | refl => rfl
  | tail _ hmove ih => exact hmove.settings.trans ih

theorem settings_run (c : Config.CircuitBreaker) (start : Time) (events : List Event) :
    ((new c start).run events).breaker.settings = (Breaker.new c start).settings :=
  (moves_run _ events).settings

/-- Whatever comes to it, a breaker satisfies its invariant. -/
theorem sound_run (c : Config.CircuitBreaker) (start : Time) (events : List Event) :
    ((new c start).run events).breaker.Sound :=
  Moves.keeps (fun hmove ↦ hmove.sound) (moves_run _ events) (Breaker.sound_new c start)

/-! ## Trips -/

/-- Time opens no breaker. -/
theorem state_refreshed_ne_open (h : s.breaker.state ≠ .open) :
    s.refreshed.breaker.state ≠ .open := by
  obtain ⟨-, hsame⟩ | ⟨target, b, hdue, hrenewed, hrefreshed⟩ := refreshed_cases s
  · rwa [hsame]
  · rw [hrefreshed, update_breaker, hrenewed.state]
    cases hdue <;> simp

/-- What a completion does once its refresh has been done. -/
theorem step_complete (success : Bool) {c : Call} (hrunning : s.running[place]? = some c) :
    ∃ b, s.refreshed.breaker.Completes c.permit s.now success b ∧
      s.step (.complete place success) =
        (s.refreshed.update b).finish place ⟨c, .of success, s.now, s.refreshed.changes⟩ := by
  refine ⟨s.breaker.complete c.permit s.now success, Breaker.completes _ _ _ _, ?_⟩
  simp only [step, hrunning]

/-- A breaker opens at the failure of a current call and at nothing else. -/
theorem opens_cases {e : Event} (hne : s.breaker.state ≠ .open)
    (hopen : (s.step e).breaker.state = .open) :
    ∃ place c b, e = .complete place false ∧ s.running[place]? = some c ∧
      s.refreshed.breaker.generation = c.permit.generation ∧
      s.refreshed.breaker.Turns false .open ∧ s.refreshed.breaker.Renewed s.now .open b ∧
      s.step e = (s.refreshed.update b).finish place ⟨c, .failed, s.now, s.refreshed.changes⟩ := by
  have hrefreshed := state_refreshed_ne_open hne
  cases e with
  | advance ms => exact absurd hopen hne
  | read => exact absurd hopen hrefreshed
  | arrive =>
    obtain ⟨-, -, hstep⟩ | ⟨p, b, -, hacquires, hstep⟩ := step_arrive_cases s
    · rw [hstep] at hopen
      exact absurd hopen hrefreshed
    · rw [hstep, begin_breaker, update_breaker, hacquires.admits.alike.state] at hopen
      exact absurd hopen hrefreshed
  | complete place success =>
    cases hrunning : s.running[place]? with
    | none =>
      simp only [step, hrunning] at hopen
      exact absurd hopen hne
    | some c =>
      obtain ⟨b, hcompletes, hstep⟩ := step_complete success hrunning
      rw [hstep, finish_breaker, update_breaker] at hopen
      cases hcompletes with
      | discarded => exact absurd hopen hrefreshed
      | ignored current opened => exact absurd opened hrefreshed
      | counted current keeps =>
        rw [(Breaker.alike_counted _ _ _).state] at hopen
        exact absurd hopen hrefreshed
      | turned current turns renewed =>
        obtain rfl := renewed.state.symm.trans hopen
        cases turns with
        | trip closed reached =>
          exact ⟨place, c, b, rfl, hrunning, current, .trip closed reached, renewed, hstep⟩
        | reopen probing =>
          exact ⟨place, c, b, rfl, hrunning, current, .reopen probing, renewed, hstep⟩
  | cancel place =>
    cases hrunning : s.running[place]? with
    | none =>
      simp only [step, hrunning] at hopen
      exact absurd hopen hne
    | some c =>
      simp only [step, hrunning, finish_breaker, update_breaker] at hopen
      rw [(Breaker.alike_release _ _).state] at hopen
      exact absurd hopen hne

/-- The breaker notes the instant at which it opens. -/
theorem openedAt_step {e : Event} (hne : s.breaker.state ≠ .open)
    (hopen : (s.step e).breaker.state = .open) :
    (s.step e).breaker.openedAt = some (s.step e).now := by
  obtain ⟨place, call, b, -, -, -, -, hrenewed, hstep⟩ := opens_cases hne hopen
  rw [hstep]
  exact hrenewed.openedAt rfl

end Traffic

end RpcGateway.Calls
