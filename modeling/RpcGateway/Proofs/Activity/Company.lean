import Mathlib.Data.List.Forall2
import RpcGateway.Activity.Pool
import RpcGateway.Proofs.Activity.InStep

/-!
# Pools in step

Two pools whose members go in step, pair by pair, go in step themselves: as time passes the same
members go on, in the same turns, and members that are started or dropped in both leave them in
step. So whoever starts activities in step and lets time pass gets results that are alike.
-/

namespace RpcGateway

variable {σ τ α β : Type} {R : σ → τ → Prop} {Q : α → β → Prop} {t : Activity σ α}
  {u : Activity τ β}

/-- The first members that are looked for are related if there are any. -/
theorem rel_find? {γ δ : Type} {P : γ → δ → Prop} {as : List γ} {bs : List δ}
    {p : γ → Bool} {q : δ → Bool} (hsame : ∀ a b, P a b → p a = q b) (h : List.Forall₂ P as bs) :
    Option.Rel P (as.find? p) (bs.find? q) := by
  induction h with
  | nil => exact .none
  | cons hfirst _ ih =>
    rw [List.find?_cons, List.find?_cons, hsame _ _ hfirst]
    split
    · exact .some hfirst
    · exact ih

namespace Activity.InStep

/-- Both go on at one instant, through as many ends of waits, to what is in step again. -/
theorem settle (h : InStep R Q t u) (ended : Nat) (now : Time) {s : σ} {s' : τ} (hs : R s s') :
    R (t.settle ended now s).state (u.settle ended now s').state ∧
      InStep R Q (t.settle ended now s).rest (u.settle ended now s').rest ∧
      (t.settle ended now s).ended = (u.settle ended now s').ended := by
  induction h generalizing ended s s' with
  | done alike => exact ⟨hs, .done alike, rfl⟩
  | panic => exact ⟨hs, .panic, rfl⟩
  | act changes _ ih => exact ih now s s' hs ended (changes now s s' hs)
  | @wait wake _ _ _ _ _ drops rest ih =>
    cases wake with
    | none => exact ⟨hs, .wait drops rest, rfl⟩
    | some wake =>
      unfold Activity.settle
      split
      · exact ih (ended + 1) hs
      · exact ⟨hs, .wait drops rest, rfl⟩

/-- What is undone leaves related states. -/
theorem dropped (h : InStep R Q t u) (now : Time) {s : σ} {s' : τ} (hs : R s s') :
    R (t.dropped now s) (u.dropped now s') := by
  cases h with
  | done => exact hs
  | panic => exact hs
  | act => exact hs
  | wait drops => exact drops now s s' hs

/-- Both wait for one instant, with alarms of one age. -/
theorem alarm?_eq (h : InStep R Q t u) : t.alarm? = u.alarm? := by
  cases h with
  | @wait wake => cases wake <;> rfl
  | _ => rfl

end Activity.InStep

/-- Two members of a name that wait alike and go in step. -/
structure Member.InStep (R : σ → τ → Prop) (Q : α → β → Prop) (m : Member σ α) (m' : Member τ β) :
    Prop where
  name : m.name = m'.name
  waits : m.waits = m'.waits
  activity : m.activity.InStep R Q m'.activity

theorem Member.InStep.alarm?_eq {m : Member σ α} {m' : Member τ β} (h : m.InStep R Q m') :
    m.alarm? = m'.alarm? := by
  unfold Member.alarm?
  rw [h.activity.alarm?_eq, h.waits]

/-- Two pools with as many members, which go in step one by one. -/
structure Pool.InStep (R : σ → τ → Prop) (Q : α → β → Prop) (p : Pool σ α) (p' : Pool τ β) :
    Prop where
  now : p.now = p'.now
  state : R p.state p'.state
  turns : p.turns = p'.turns
  members : List.Forall₂ (Member.InStep R Q) p.members p'.members

namespace Pool.InStep

variable {p : Pool σ α} {p' : Pool τ β} {ms : List (Member σ α)} {ms' : List (Member τ β)}

/-- The same member is due next. -/
theorem nextDue?_eq (h : List.Forall₂ (Member.InStep R Q) ms ms') (place : Nat) :
    nextDue? place ms = nextDue? place ms' := by
  induction h generalizing place with
  | nil => rfl
  | cons hm _ ih =>
    unfold nextDue?
    rw [hm.alarm?_eq, ih]

theorem forall₂_set (h : List.Forall₂ (Member.InStep R Q) ms ms') (place : Nat)
    {m : Member σ α} {m' : Member τ β} (hm : m.InStep R Q m') :
    List.Forall₂ (Member.InStep R Q) (ms.set place m) (ms'.set place m') := by
  induction h generalizing place with
  | nil => exact .nil
  | cons hfirst hrest ih =>
    cases place with
    | zero => exact .cons hm hrest
    | succ place => exact .cons hfirst (ih place)

/-- One member of each goes on. -/
theorem resume (h : p.InStep R Q p') (place : Nat) (instant : Time) :
    (p.resume place instant).InStep R Q (p'.resume place instant) := by
  unfold Pool.resume
  by_cases hlt : place < p.members.length
  · have hlt' : place < p'.members.length := h.members.length_eq ▸ hlt
    have hm := h.members.get hlt hlt'
    rw [List.getElem?_eq_getElem hlt, List.getElem?_eq_getElem hlt']
    dsimp only
    rw [← h.now]
    obtain ⟨hstate, hrest, hended⟩ := hm.activity.settle 0 (max p.now instant) h.state
    refine ⟨rfl, hstate, congrArg (· + 1) h.turns, forall₂_set h.members place ?_⟩
    refine ⟨hm.name, ?_, hrest⟩
    dsimp only
    rw [← h.turns]
    exact congrArg₂ (fun n ws ↦ List.replicate n p.turns ++ ws) hended hm.waits
  · have hle : p.members.length ≤ place := Nat.le_of_not_lt hlt
    rw [List.getElem?_eq_none hle, List.getElem?_eq_none (h.members.length_eq ▸ hle)]
    exact h

theorem runUntil (h : p.InStep R Q p') (limit : Time) (fuel : Nat) :
    (runUntil (fun _ ↦ false) limit fuel p).InStep R Q
      (runUntil (fun _ ↦ false) limit fuel p') := by
  induction fuel generalizing p p' with
  | zero => exact h
  | succ fuel ih =>
    unfold Pool.runUntil
    rw [nextDue?_eq h.members]
    split
    · exact h
    · simp only [Bool.and_false, Bool.or_false]
      split
      · exact h
      · exact ih (h.resume _ _)

/-- However much time passes, the members stay in step. -/
theorem advanceTo (h : p.InStep R Q p') (limit : Time) :
    (p.advanceTo limit).InStep R Q (p'.advanceTo limit) := by
  have hsteps : p.steps limit = p'.steps limit := by
    unfold steps
    rw [h.now, h.members.length_eq]
  have hrun := h.runUntil limit (p'.steps limit)
  unfold Pool.advanceTo
  rw [hsteps]
  exact ⟨congrArg (max · limit) hrun.now, hrun.state, hrun.turns, hrun.members⟩

theorem advance (h : p.InStep R Q p') (ms : Nat) : (p.advance ms).InStep R Q (p'.advance ms) := by
  unfold Pool.advance
  rw [h.now]
  exact h.advanceTo _

/-- A name is taken away from the same members. -/
theorem forall₂_nameless (h : List.Forall₂ (Member.InStep R Q) ms ms') (name : String) :
    List.Forall₂ (Member.InStep R Q) (nameless ms name) (nameless ms' name) := by
  refine List.rel_map ?_ h
  intro m m' hm
  dsimp only
  rw [hm.name]
  split
  · exact ⟨rfl, hm.waits, hm.activity⟩
  · exact hm

/-- Activities in step may join under one name. -/
theorem start (h : p.InStep R Q p') (name : String) (hu : t.InStep R Q u) :
    (p.start name t).InStep R Q (p'.start name u) := by
  have hdue := h.advanceTo p.now
  unfold Pool.start
  rw [← h.now]
  dsimp only
  rw [← hdue.now]
  obtain ⟨hstate, hrest, hended⟩ := hu.settle 0 (p.advanceTo p.now).now hdue.state
  refine ⟨rfl, hstate, congrArg (· + 1) hdue.turns, ?_⟩
  refine List.rel_append (forall₂_nameless hdue.members name) (.cons ⟨rfl, ?_, hrest⟩ .nil)
  exact congrArg₂ (fun n turn ↦ List.replicate (n + 1) turn) hended hdue.turns

theorem member? (h : p.InStep R Q p') (name : String) :
    Option.Rel (Member.InStep R Q) (p.member? name) (p'.member? name) :=
  rel_find? (fun _ _ hm ↦ congrArg (decide <| · = some name) hm.name) h.members

theorem abort (h : p.InStep R Q p') (name : String) :
    (p.abort name).InStep R Q (p'.abort name) := by
  have hmember := h.member? name
  unfold Pool.abort
  generalize p.member? name = m, p'.member? name = m' at hmember
  cases hmember with
  | none => exact h
  | some hm =>
    dsimp only
    rw [← h.now]
    refine ⟨h.now, hm.activity.dropped p.now h.state, h.turns, ?_⟩
    refine List.rel_filter (fun m m' hm ↦ ?_) h.members
    dsimp only
    rw [hm.name]

/-- What has come of an activity of a name is alike. -/
theorem result (h : p.InStep R Q p') (name : String) :
    Outcome.Rel Q (p.result name) (p'.result name) := by
  have hmember := h.member? name
  unfold Pool.result
  generalize p.member? name = m, p'.member? name = m' at hmember
  cases hmember with
  | none => exact .stuck
  | @some m m' hm =>
    obtain ⟨_, activity, _⟩ := m
    obtain ⟨_, activity', _⟩ := m'
    have hactivity : activity.InStep R Q activity' := hm.activity
    cases hactivity with
    | done alike => exact .done alike
    | panic => exact .panicked
    | act => exact .stuck
    | wait => exact .stuck

end Pool.InStep

end RpcGateway
