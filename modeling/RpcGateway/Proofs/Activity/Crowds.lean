import RpcGateway.Proofs.Activity.History

/-!
# Crowds

A crowd is any number of activities over one state, in any order. At each event an activity joins,
takes one step, or is dropped, or time passes; nothing says which of those that could go on does so,
nor how late it is. An activity can be dropped when it waits or when it has ended, but not in front
of a change, since it does not stop there. What may remain of an activity is what it comes to by
steps in some crowd.
-/

namespace RpcGateway

namespace Activity

variable {σ α β : Type} {t u v : Activity σ α} {now : Time} {s : σ}

/-- One step: a change, or the end of a wait that is due. -/
def goOn : Activity σ α → Time → σ → Activity σ α × σ
  | act change next, now, s => (next now s, change now s)
  | wait (some wake) age drop next, now, s =>
    if wake ≤ now then (next, s) else (wait (some wake) age drop next, s)
  | t, _, s => (t, s)

/-- It has come to a result or has broken down. -/
def Ended : Activity σ α → Prop
  | done _ => True
  | panic => True
  | _ => False

/-- It does not stand in front of a change. -/
def rests : Activity σ α → Bool
  | act _ _ => false
  | _ => true

/-- `u` may remain of `t`. -/
inductive Leaves : Activity σ α → Activity σ α → Prop where
  | refl (t : Activity σ α) : Leaves t t
  | act {change : Time → σ → σ} {next : Time → σ → Activity σ α} {u : Activity σ α} (now : Time)
      (s : σ) (rest : Leaves (next now s) u) : Leaves (.act change next) u
  | wait {wake : Option Time} {age : Nat} {drop : Time → σ → σ} {next u : Activity σ α}
      (rest : Leaves next u) : Leaves (.wait wake age drop next) u

/-- A wait that is over is passed. -/
theorem goOn_wait_of_due {wake : Time} {age : Nat} {drop : Time → σ → σ} {next : Activity σ α}
    (h : wake ≤ now) : (wait (some wake) age drop next).goOn now s = (next, s) := if_pos h

/-- A wait that is not over stays. -/
theorem goOn_wait_of_early {wake : Time} {age : Nat} {drop : Time → σ → σ} {next : Activity σ α}
    (h : ¬ wake ≤ now) :
    (wait (some wake) age drop next).goOn now s = (wait (some wake) age drop next, s) := if_neg h

theorem Leaves.trans (h : t.Leaves u) (h' : u.Leaves v) : t.Leaves v := by
  induction h with
  | refl t => exact h'
  | act now s _ ih => exact .act now s (ih h')
  | wait _ ih => exact .wait (ih h')

/-- What comes after a change is left of whatever the change is left of. -/
theorem Leaves.tail_act {change : Time → σ → σ} {next : Time → σ → Activity σ α}
    (h : t.Leaves (.act change next)) (now : Time) (s : σ) : t.Leaves (next now s) :=
  h.trans (.act now s (.refl _))

theorem Leaves.tail_wait {wake : Option Time} {age : Nat} {drop : Time → σ → σ}
    {next : Activity σ α} (h : t.Leaves (.wait wake age drop next)) : t.Leaves next :=
  h.trans (.wait (.refl _))

end Activity

/-- Activities over one state. -/
structure Crowd (σ : Type) (α : Type) where
  now : Time := 0
  state : σ
  members : List (Activity σ α) := []

namespace Crowd

variable {σ α ι : Type}

/-- Members are named by their place. -/
inductive Event (ι : Type) where
  | passes (ms : Nat)
  | joins (i : ι)
  | goes (place : Nat)
  | leaves (place : Nat)

/-- Lets the member at a place take one step. -/
def resume (c : Crowd σ α) (place : Nat) : Crowd σ α :=
  match c.members[place]? with
  | none => c
  | some t =>
    { c with
      state := (t.goOn c.now c.state).2
      members := c.members.set place (t.goOn c.now c.state).1 }

/-- Drops the member at a place if it rests. -/
def abort (c : Crowd σ α) (place : Nat) : Crowd σ α :=
  match c.members[place]? with
  | none => c
  | some t =>
    if t.rests then
      { c with state := t.dropped c.now c.state, members := c.members.eraseIdx place }
    else c

/-- What an event does; `start` tells what it is that joins. -/
def step (start : ι → Activity σ α) (c : Crowd σ α) : Event ι → Crowd σ α
  | .passes ms => { c with now := c.now + ms }
  | .joins i => { c with members := c.members ++ [start i] }
  | .goes place => c.resume place
  | .leaves place => c.abort place

def run (start : ι → Activity σ α) (c : Crowd σ α) (events : List (Event ι)) : Crowd σ α :=
  events.foldl (step start) c

open Classical in
/-- How many members are of a kind. -/
noncomputable def number (c : Crowd σ α) (kind : Activity σ α → Prop) : Nat :=
  c.members.countP fun t ↦ kind t

/-- What the events of a run add to a quantity. What is taken from it between two additions does not
count. -/
def gained (start : ι → Activity σ α) (size : σ → Nat) : Crowd σ α → List (Event ι) → Nat
  | _, [] => 0
  | c, e :: events =>
    size (c.step start e).state - size c.state + gained start size (c.step start e) events

end Crowd

end RpcGateway
