import RpcGateway.Proofs.Breaker.Traffic

/-!
# What a breaker publishes

A breaker tells its observers and its gauge of each change of state as it makes it, and of nothing
else: a reset of the counts begins a generation without a word. So what the observers hold and what
the gauge shows is the state at any time, within an operation too, and the states that have been
published are the states that the breaker has gone through. They begin with closed and go round as
the breaker does.
-/

namespace RpcGateway.Calls

namespace CircuitState

/-- The changes of state that there are. -/
inductive Edge : CircuitState → CircuitState → Prop where
  | trip : Edge .closed .open
  | expire : Edge .open .halfOpen
  | recover : Edge .halfOpen .closed
  | reopen : Edge .halfOpen .open

/-- No edge leads back to where it starts. -/
theorem Edge.ne {a b : CircuitState} (h : a.Edge b) : a ≠ b := by
  cases h <;> nofun

end CircuitState

namespace Breaker

variable {b b' : Breaker} {now : Time} {target : CircuitState} {success : Bool} {p : Permit}

/-- What others see of a change of a breaker: nothing, or one change of state, of which all are
told. -/
inductive Shows (b b' : Breaker) : Prop where
  | nothing (state : b'.state = b.state) (published : b'.published = b.published)
  | change (edge : b.state.Edge b'.state)
      (published : b'.published = ⟨b'.state, b.published.version + 1, b'.state⟩)

/-- The published state is the state. -/
def Told (b : Breaker) : Prop := b.published.watched = b.state ∧ b.published.gauge = b.state

/-- A new breaker is published as it is. -/
theorem told_new (c : Config.CircuitBreaker) (now : Time) : (new c now).Told := ⟨rfl, rfl⟩

/-- What shows its changes stays published. -/
theorem Shows.told (h : b.Shows b') (hb : b.Told) : b'.Told := by
  cases h with
  | nothing state published => rwa [Told, published, state]
  | change edge published => simp [Told, published]

/-- The published value has a new version just when the state has changed. -/
theorem Shows.version_eq (h : b.Shows b') :
    b'.published.version = b.published.version + if b'.state = b.state then 0 else 1 := by
  cases h with
  | nothing state published => rw [published, if_pos state, Nat.add_zero]
  | change edge published => rw [published, if_neg edge.ne.symm]

/-! ## Operations -/

@[simp]
theorem state_newGeneration (b : Breaker) (now : Time) :
    (b.newGeneration now).state = b.state := by
  unfold newGeneration
  cases b.state <;> rfl

@[simp]
theorem published_newGeneration (b : Breaker) (now : Time) :
    (b.newGeneration now).published = b.published := by
  unfold newGeneration
  cases b.state <;> rfl

theorem state_transition (b : Breaker) (target : CircuitState) (now : Time) :
    (b.transition target now).state = target := by
  unfold transition
  split
  · assumption
  · simp

/-- A transition along an edge shows. -/
theorem shows_transition (h : b.state.Edge target) : b.Shows (b.transition target now) := by
  refine .change ?_ ?_
  · rwa [state_transition]
  · rw [state_transition, transition, if_neg h.ne]

/-- What time alone has changed shows once it is noticed. -/
theorem shows_refresh (b : Breaker) (now : Time) : b.Shows (b.refresh now) := by
  have hsame : b.Shows b := .nothing rfl rfl
  unfold refresh
  split
  · -- A reset begins a generation and is no change of state.
    split
    · split
      · exact .nothing (state_newGeneration b now) (published_newGeneration b now)
      · exact hsame
    · exact hsame
  · rename_i hstate
    have hedge : b.state.Edge .halfOpen := by
      rw [hstate]
      exact .expire
    dsimp only
    split_ifs
    · exact shows_transition hedge
    · exact hsame
  · exact hsame

@[simp]
theorem state_freeProbe (b : Breaker) (p : Permit) : (b.freeProbe p).state = b.state :=
  (alike_freeProbe b p).state

@[simp]
theorem published_freeProbe (b : Breaker) (p : Permit) :
    (b.freeProbe p).published = b.published := by
  unfold freeProbe
  split <;> rfl

theorem shows_freeProbe (b : Breaker) (p : Permit) : b.Shows (b.freeProbe p) :=
  .nothing (state_freeProbe b p) (published_freeProbe b p)

/-- A permit that is given back changes no state. -/
theorem shows_release (b : Breaker) (p : Permit) : b.Shows (b.release p) := by
  unfold release
  split
  · exact shows_freeProbe b p
  · exact .nothing rfl rfl

/-- Of the breaker before only the state and what it has published are seen. -/
theorem Shows.of_eq {a : Breaker} (h : a.Shows b') (hstate : a.state = b.state)
    (hpublished : a.published = b.published) : b.Shows b' := by
  cases h with
  | nothing state published =>
    exact .nothing (state.trans hstate) (published.trans hpublished)
  | change edge published => exact .change (hstate ▸ edge) (hpublished ▸ published)

theorem shows_record (b : Breaker) (now : Time) (success : Bool) :
    b.Shows (b.record now success) := by
  have hturned (counts : Counts) {target : CircuitState} (h : b.state.Edge target) :
      b.Shows ({ b with counts := counts }.transition target now) :=
    (shows_transition (b := { b with counts := counts }) h).of_eq rfl rfl
  unfold record
  split
  · exact .nothing rfl rfl
  · rename_i hstate
    dsimp only
    split
    · exact hturned _ (by rw [hstate]; exact .trip)
    · exact .nothing rfl rfl
  · rename_i hstate
    dsimp only
    split
    · exact hturned _ (by rw [hstate]; exact .recover)
    · exact .nothing rfl rfl
  · rename_i hstate
    exact hturned _ (by rw [hstate]; exact .reopen)
  · exact .nothing rfl rfl

/-- After the refresh, the end of a call makes one change of state at most. -/
theorem shows_complete (b : Breaker) (p : Permit) (now : Time) (success : Bool) :
    (b.refresh now).Shows (b.complete p now success) := by
  unfold complete
  generalize b.refresh now = r
  dsimp only
  split
  · exact (shows_record (r.freeProbe p) now success).of_eq (state_freeProbe r p)
      (published_freeProbe r p)
  · exact .nothing rfl rfl

/-- However a permit is asked for, changes show. -/
theorem Acquires.shows {o : Option Permit} (h : b.Acquires (o, b')) : b.Shows b' := by
  cases h with
  | refused => exact .nothing rfl rfl
  | full => exact .nothing rfl rfl
  | admitted => exact .nothing rfl rfl
  | probe => exact .nothing rfl rfl

end Breaker

/-! ## Runs -/

namespace Traffic

variable {s : Traffic} {b b' b'' : Breaker} {stored stored' : List Breaker}

/-- The breakers that an event stores one after the other. Asking for a call and ending one each
begin with a refresh. -/
def stores (s : Traffic) : Event → List Breaker
  | .advance _ => []
  | .read => [(s.step .read).breaker]
  | .arrive => [s.refreshed.breaker, (s.step .arrive).breaker]
  | .complete place success =>
    match s.running[place]? with
    | none => []
    | some _ => [s.refreshed.breaker, (s.step (.complete place success)).breaker]
  | .cancel place => [(s.step (.cancel place)).breaker]

/-- The breakers that a run stores one after the other. -/
def trail (s : Traffic) : List Event → List Breaker
  | [] => []
  | e :: events => s.stores e ++ (s.step e).trail events

/-- The states that are sent to the observers while a breaker goes through a sequence. -/
def announced (b : Breaker) : List Breaker → List CircuitState
  | [] => []
  | b' :: rest =>
    if b'.published.version = b.published.version then announced b' rest
    else b'.published.watched :: announced b' rest

/-- The states to which a breaker changes while it goes through a sequence. -/
def changed (b : Breaker) : List Breaker → List CircuitState
  | [] => []
  | b' :: rest => if b'.state = b.state then changed b' rest else b'.state :: changed b' rest

/-- `b` becomes `b'` through a sequence of breakers, each of which shows what has changed since the
one before. -/
inductive Shown : Breaker → List Breaker → Breaker → Prop where
  | nil (b : Breaker) : Shown b [] b
  | cons {b b' b'' : Breaker} {stored : List Breaker} (shows : b.Shows b')
      (rest : Shown b' stored b'') : Shown b (b' :: stored) b''

theorem Shown.single (h : b.Shows b') : Shown b [b'] b' := .cons h (.nil b')

/-- What is stored in two parts shows if each part does. -/
theorem Shown.append (h : Shown b stored b') (h' : Shown b' stored' b'') :
    Shown b (stored ++ stored') b'' := by
  induction h with
  | nil => exact h'
  | cons shows _ ih => exact .cons shows (ih h')

/-- What one step stores shows. -/
theorem shown_step (s : Traffic) (e : Event) :
    Shown s.breaker (s.stores e) (s.step e).breaker := by
  have hrefresh : s.breaker.Shows s.refreshed.breaker := Breaker.shows_refresh s.breaker s.now
  cases e with
  | advance ms => exact .nil _
  | read => exact .single hrefresh
  | arrive =>
    have hanswer : s.refreshed.breaker.Shows (s.step .arrive).breaker := by
      obtain ⟨-, hacquires, hstep⟩ | ⟨p, b, -, hacquires, hstep⟩ := step_arrive_cases s
      · rw [hstep]
        exact hacquires.shows
      · rw [hstep]
        exact hacquires.shows
    exact .cons hrefresh (.single hanswer)
  | complete place success =>
    cases hrunning : s.running[place]? with
    | none =>
      simp only [stores, step, hrunning]
      exact .nil _
    | some c =>
      simp only [stores, step, hrunning]
      exact .cons hrefresh (.single (Breaker.shows_complete s.breaker c.permit s.now success))
  | cancel place =>
    cases hrunning : s.running[place]? with
    | none =>
      simp only [stores, step, hrunning]
      exact .single (.nothing rfl rfl)
    | some c =>
      simp only [stores, step, hrunning]
      exact .single (Breaker.shows_release s.breaker c.permit)

/-- What a run stores shows, from the first breaker to the last. -/
theorem shown_run (s : Traffic) (events : List Event) :
    Shown s.breaker (s.trail events) (s.run events).breaker := by
  induction events generalizing s with
  | nil => exact .nil _
  | cons e events ih => exact (shown_step s e).append (ih (s.step e))

/-- Every breaker that is stored is published as it is. -/
theorem Shown.told (h : Shown b stored b') (hb : b.Told) : ∀ r ∈ b :: stored, r.Told := by
  induction h with
  | nil => simpa using hb
  | cons shows _ ih => exact List.forall_mem_cons.mpr ⟨hb, ih (shows.told hb)⟩

theorem Shown.getLast (h : Shown b stored b') :
    (b :: stored).getLast (List.cons_ne_nil b stored) = b' := by
  induction h with
  | nil => rfl
  | cons _ _ ih => rwa [List.getLast_cons (List.cons_ne_nil _ _)]

/-- Of stored breakers each one shows what it has changed in the one before. -/
theorem Shown.isChain (h : Shown b stored b') : (b :: stored).IsChain Breaker.Shows := by
  induction h with
  | nil => exact .singleton _
  | cons shows _ ih => exact .cons_cons shows ih

/-- What is sent is each change of state as it is made. -/
theorem Shown.announced_eq (h : Shown b stored b') :
    announced b stored = changed b stored ∧
      (b.state :: announced b stored).IsChain CircuitState.Edge := by
  induction h with
  | nil => exact ⟨rfl, .singleton _⟩
  | @cons b b' b'' stored shows _ ih =>
    obtain ⟨hsame, hchain⟩ := ih
    cases shows with
    | nothing state published =>
      have hannounced : announced b (b' :: stored) = announced b' stored := by
        simp only [announced, published, if_true]
      have hchanged : changed b (b' :: stored) = changed b' stored := by
        simp only [changed, state, if_true]
      rw [hannounced, hchanged, ← state]
      exact ⟨hsame, hchain⟩
    | change edge published =>
      have hannounced : announced b (b' :: stored) = b'.state :: announced b' stored := by
        simp [announced, published]
      have hchanged : changed b (b' :: stored) = b'.state :: changed b' stored := by
        simp [changed, edge.ne.symm]
      rw [hannounced, hchanged, hsame]
      exact ⟨rfl, .cons_cons edge (hsame ▸ hchain)⟩

/-- What the observers hold and what the gauge shows is the state, at each time that a run stores a
breaker. A value is sent, once, whenever the state is another than before. The states that are sent
are those to which the breaker changes; after the first, which is closed, they follow the edges. -/
theorem changes_are_published (c : Config.CircuitBreaker) (start : Time) (events : List Event) :
    let first := Breaker.new c start
    let stored := (new c start).trail events
    (first :: stored).getLast (List.cons_ne_nil _ _) = ((new c start).run events).breaker ∧
      (∀ b ∈ first :: stored, b.published.watched = b.state ∧ b.published.gauge = b.state) ∧
      (first :: stored).IsChain (fun b b' ↦
        b'.published.version = b.published.version + if b'.state = b.state then 0 else 1) ∧
      announced first stored = changed first stored ∧
      (.closed :: announced first stored).IsChain CircuitState.Edge := by
  intro first stored
  have hshown : Shown first stored ((new c start).run events).breaker :=
    shown_run (new c start) events
  obtain ⟨hsame, hchain⟩ := hshown.announced_eq
  refine ⟨hshown.getLast, hshown.told (Breaker.told_new c start), ?_, hsame, hchain⟩
  exact hshown.isChain.imp fun _ _ hshows ↦ hshows.version_eq

/-- A reset, a trip, a read that finds the time over, and a probe that succeeds: three changes are
sent. -/
example :
    announced (Breaker.new ⟨1, 1000, 1, 100⟩ 0)
        ((new ⟨1, 1000, 1, 100⟩ 0).trail [.advance 100, .read, .arrive, .complete 0 false,
          .advance 1000, .read, .arrive, .complete 0 true]) =
      [.open, .halfOpen, .closed] := by
  decide

end Traffic

end RpcGateway.Calls
