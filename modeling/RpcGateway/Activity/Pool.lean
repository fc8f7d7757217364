import RpcGateway.Activity

/-!
# Pools

Activities over one state that go on side by side. Of the activities that wait, the one that is
due first goes on first, and of those due at one instant the one whose alarm was set first. An
activity that has gone on waits for a later instant, so that no instant wakes one of them twice;
this bounds the steps up to any given instant.

An activity can also be run in front of the members of a pool. At an instant that wakes it and some
of them it goes first, and what they have to do then is left for later if it ends there.
-/

namespace RpcGateway

/-- An activity among others. -/
structure Member (σ : Type) (α : Type) where
  /-- Its name, unless another activity has taken that over. -/
  name : Option String
  activity : Activity σ α
  /-- The turns in which its waits began, the last one first. -/
  waits : List Nat := []

namespace Member

variable {σ α : Type}

/-- When a member goes on by itself, and the turn in which that alarm was set. -/
def alarm? (m : Member σ α) : Option (Time × Nat) :=
  m.activity.alarm?.map fun a ↦ (a.1, m.waits.getD a.2 0)

/-- Whether it is over. -/
def hasEnded (m : Member σ α) : Bool :=
  match m.activity with
  | .done _ => true
  | .panic => true
  | _ => false

end Member

structure Pool (σ : Type) (α : Type) where
  now : Time := 0
  state : σ
  /-- How many turns the members have had. -/
  turns : Nat := 0
  members : List (Member σ α) := []

namespace Pool

variable {σ α β : Type}

def member? (p : Pool σ α) (name : String) : Option (Member σ α) :=
  p.members.find? fun m ↦ m.name = some name

/-- An alarm for an earlier instant comes first, and of two for one instant the older one. -/
def isBefore (a b : Time × Nat) : Bool := a.1 < b.1 || (a.1 == b.1 && a.2 < b.2)

/-- The place of the member whose alarm comes first, and that alarm. -/
def nextDue? (place : Nat) : List (Member σ α) → Option (Nat × Time × Nat)
  | [] => none
  | m :: r =>
    match m.alarm?, nextDue? (place + 1) r with
    | some a, some later => if isBefore later.2 a then some later else some (place, a)
    | some a, none => some (place, a)
    | none, later => later

/-- Lets the member at a place go on at an instant. -/
def resume (p : Pool σ α) (place : Nat) (instant : Time) : Pool σ α :=
  match p.members[place]? with
  | none => p
  | some m =>
    let now := max p.now instant
    let r := m.activity.settle 0 now p.state
    let m := { m with activity := r.rest, waits := List.replicate r.ended p.turns ++ m.waits }
    { now, state := r.state, turns := p.turns + 1, members := p.members.set place m }

/-- All that is due up to an instant, unless `stop` holds at the end of an earlier one. -/
def runUntil (stop : Pool σ α → Bool) (limit : Time) : Nat → Pool σ α → Pool σ α
  | 0, p => p
  | fuel + 1, p =>
    match nextDue? 0 p.members with
    | none => p
    | some (place, w, _) =>
      if limit < w || (p.now < w && stop p) then p
      else runUntil stop limit fuel (p.resume place w)

/-- Each instant wakes each member at most once. -/
def steps (p : Pool σ α) (limit : Time) : Nat := (limit - p.now + 1) * (p.members.length + 1)

/-- Lets time pass up to an instant. -/
def advanceTo (p : Pool σ α) (limit : Time) : Pool σ α :=
  let p := runUntil (fun _ ↦ false) limit (p.steps limit) p
  { p with now := max p.now limit }

def advance (p : Pool σ α) (ms : Nat) : Pool σ α := p.advanceTo (p.now + ms)

/-- The members without the name; the activity that had it goes on. -/
def nameless (members : List (Member σ α)) (name : String) : List (Member σ α) :=
  members.map fun m ↦ if m.name = some name then { m with name := none } else m

/-- Starts an activity under a name, after all that is due, and lets it go on to its first wait. -/
def start (p : Pool σ α) (name : String) (t : Activity σ α) : Pool σ α :=
  let p := p.advanceTo p.now
  let r := t.settle 0 p.now p.state
  let m : Member σ α :=
    { name := some name, activity := r.rest, waits := List.replicate (r.ended + 1) p.turns }
  { p with state := r.state, turns := p.turns + 1, members := nameless p.members name ++ [m] }

def hasEnded (name : String) (p : Pool σ α) : Bool :=
  match p.member? name with
  | some m => m.hasEnded
  | none => true

/-- How far ahead an end is waited for. -/
def horizon : Nat := clockEnd

/-- Lets time pass until an activity has ended, or for ever. -/
def untilEnded (p : Pool σ α) (name : String) : Pool σ α :=
  let limit := p.now + horizon
  if p.hasEnded name then p else runUntil (hasEnded name) limit (p.steps limit) p

/-- Lets time pass up to an instant, but leaves what is due then. -/
def advanceBefore (p : Pool σ α) (instant : Time) : Pool σ α :=
  if instant ≤ p.now then p else { p.advanceTo (instant - 1) with now := instant }

/-- Runs an activity to its end in front of the members. -/
def runAhead (p : Pool σ α) : Activity σ β → Outcome β × Pool σ α
  | .done a => (.done a, p)
  | .panic => (.panicked, p)
  | .act change next =>
    runAhead { p with state := change p.now p.state } (next p.now p.state)
  | .wait none _ _ _ => (.stuck, p)
  | .wait (some w) _ _ next => runAhead (p.advanceBefore w) next

def remove (p : Pool σ α) (name : String) : Pool σ α :=
  { p with members := p.members.filter fun m ↦ m.name ≠ some name }

/-- Takes an activity out, undoing what it holds. -/
def abort (p : Pool σ α) (name : String) : Pool σ α :=
  match p.member? name with
  | some m => { p.remove name with state := m.activity.dropped p.now p.state }
  | none => p

/-- The result of an activity that has ended. -/
def result (p : Pool σ α) (name : String) : Outcome α :=
  match (p.member? name).map Member.activity with
  | some (.done a) => .done a
  | some .panic => .panicked
  | _ => .stuck

end Pool

end RpcGateway
