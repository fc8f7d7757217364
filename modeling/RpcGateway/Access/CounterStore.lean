import RpcGateway.Activity
import RpcGateway.Number.Word
import Std.Data.HashMap

/-!
# Counter stores

Counters with an expiry, for counting requests in windows. A counter that has expired counts from
zero again. The expiry is set by the increment that creates the counter and is not moved later.
Expired counters stay in the map until it has grown to twice its size after the last sweep.
-/

namespace RpcGateway.Access

structure Counter where
  /-- Kept in a word of 64 bits, which fewer requests than it can count do not fill. -/
  count : Nat
  expiresAt : Option Time
deriving DecidableEq, Repr

def Counter.isExpired (c : Counter) (now : Time) : Bool :=
  match c.expiresAt with
  | some t => t ≤ now
  | none => false

structure CounterMap where
  counters : Std.HashMap String Counter := ∅
  sweepAt : Nat := 10000

namespace CounterMap

/-- The least size of the map that leads to a sweep. -/
def sweepThreshold : Nat := 10000

def size (m : CounterMap) : Nat := m.counters.size

/-- Drops the counters that have expired. -/
def sweep (m : CounterMap) (now : Time) : CounterMap :=
  let counters := m.counters.filter fun _ c ↦ !c.isExpired now
  ⟨counters, max sweepThreshold (counters.size * 2)⟩

/-- Marks the map as being swept, so that no one else sweeps it. -/
def claim (m : CounterMap) : CounterMap := { m with sweepAt := Word.max64 }

def maybeSweep (m : CounterMap) (now : Time) : CounterMap :=
  if m.counters.size ≤ m.sweepAt then m else m.claim.sweep now

/-- The counter of a key as it is before an increment. -/
def current (m : CounterMap) (now : Time) (key : String) : Counter :=
  match m.counters[key]? with
  | some c => if c.isExpired now then ⟨0, none⟩ else c
  | none => ⟨0, none⟩

/-- One increment; a counter that it creates gets the window, if there is one. -/
def bump (m : CounterMap) (now : Time) (key : String) (window : Option Nat) : Nat × CounterMap :=
  let m := m.maybeSweep now
  let c := m.current now key
  let expiresAt := if c.count = 0 then window.map (now + ·) else c.expiresAt
  (c.count + 1, { m with counters := m.counters.insert key ⟨c.count + 1, expiresAt⟩ })

def increment (m : CounterMap) (now : Time) (key : String) : Nat × CounterMap := m.bump now key none

/-- Gives a counter an expiry unless it has one. -/
def expireIfUnset (m : CounterMap) (now : Time) (key : String) (ttl : Nat) : CounterMap :=
  match m.counters[key]? with
  | some ⟨count, none⟩ => { m with counters := m.counters.insert key ⟨count, some (now + ttl)⟩ }
  | _ => m

/-- Both in one step. -/
def incrementInWindow (m : CounterMap) (now : Time) (key : String) (window : Nat) :
    Nat × CounterMap :=
  m.bump now key (some window)

def close (m : CounterMap) : CounterMap := { m with counters := ∅ }

end CounterMap

inductive StoreError where
  | closed
deriving DecidableEq, Repr

def StoreError.message : StoreError → String
  | closed => "store closed"

/-- A store as its users see it: an increment may take its time, not end at all or fail, an expiry
may fail, and the store may or may not be able to do both in one step. -/
structure CounterStore where
  map : CounterMap := {}
  /-- Whether an increment and its expiry are one step, which is prompt and never fails. -/
  atomic : Bool := true
  /-- How long each increment takes, if it ever ends, by the number of those begun before. -/
  delay : Nat → Option Nat := fun _ ↦ some 0
  /-- Whether an increment fails, by the number of those that ended before. -/
  incrementFails : Nat → Bool := fun _ ↦ false
  /-- Whether an expiry fails, by the number of those asked for before. -/
  expiryFails : Nat → Bool := fun _ ↦ false
  incrementsBegun : Nat := 0
  incrementsEnded : Nat := 0
  expiryCalls : Nat := 0
  closeFails : Bool := false

namespace CounterStore

/-- The name of a store as a resource to be closed. -/
def resourceName : String := "rate_limit_store"

/-- The next `increments` and `expiries` fail, and none after them. -/
def failing (s : CounterStore) (increments expiries : Nat) : CounterStore :=
  { s with
    incrementFails := fun n ↦ decide (n < s.incrementsEnded + increments)
    expiryFails := fun n ↦ decide (n < s.expiryCalls + expiries) }

def incrementStep (key : String) (now : Time) (s : CounterStore) :
    Except StoreError Nat × CounterStore :=
  let ended := { s with incrementsEnded := s.incrementsEnded + 1 }
  if s.incrementFails s.incrementsEnded then (.error .closed, ended)
  else
    let (n, map) := s.map.increment now key
    (.ok n, { ended with map })

/-- An increment takes effect only when it ends. -/
def increment (key : String) : Activity CounterStore (Except StoreError Nat) :=
  .act (fun _ s ↦ { s with incrementsBegun := s.incrementsBegun + 1 }) fun now s ↦
    match s.delay s.incrementsBegun with
    | none => .hang
    | some ms => (Activity.sleepUntil (now + ms)).bind fun _ ↦ .modifyGet (incrementStep key)

def expiryStep (key : String) (ttl : Nat) (now : Time) (s : CounterStore) :
    Except StoreError Unit × CounterStore :=
  let ended := { s with expiryCalls := s.expiryCalls + 1 }
  if s.expiryFails s.expiryCalls then (.error .closed, ended)
  else (.ok (), { ended with map := s.map.expireIfUnset now key ttl })

/-- Whether an expiry of a counter would lie beyond the end of the clock. -/
def expiryBeyondClock (key : String) (ttl : Nat) (now : Time) (s : CounterStore) : Bool :=
  clockEnd ≤ now + ttl && !s.expiryFails s.expiryCalls &&
    ((s.map.counters[key]?).any fun c ↦ c.expiresAt.isNone)

def expireIfUnset (key : String) (ttl : Nat) : Activity CounterStore (Except StoreError Unit) :=
  .act Activity.keep fun now s ↦
    if expiryBeyondClock key ttl now s then
      .act (fun _ s ↦ { s with expiryCalls := s.expiryCalls + 1 }) fun _ _ ↦ .panic
    else .modifyGet (expiryStep key ttl)

/-- An increment and then the expiry, which is tried twice; that it fails does not fail the count.
-/
def incrementThenExpire (key : String) (window : Nat) :
    Activity CounterStore (Except StoreError Nat) :=
  (increment key).bind fun
    | .error e => .done (.error e)
    | .ok n => (expireIfUnset key window).bind fun
      | .ok _ => .done (.ok n)
      | .error _ => (expireIfUnset key window).bind fun _ ↦ .done (.ok n)

/-- Breaks down, with the counter left open, if the clock does not reach the end of a new window. -/
def incrementAtOnce (key : String) (window : Nat) : Activity CounterStore (Except StoreError Nat) :=
  .act Activity.keep fun now s ↦
    if clockEnd ≤ now + window ∧ (s.map.current now key).count = 0 then
      .act (fun now s ↦ { s with map := (s.map.increment now key).2 }) fun _ _ ↦ .panic
    else
      .modifyGet fun now s ↦
        let (n, map) := s.map.incrementInWindow now key window
        (.ok n, { s with map })

/-- Counts one event of a key in its window. -/
def incrementInWindow (key : String) (window : Nat) :
    Activity CounterStore (Except StoreError Nat) :=
  .act Activity.keep fun _ s ↦
    if s.atomic then incrementAtOnce key window else incrementThenExpire key window

/-- Whether closing went well; a store that fails to close keeps its counters. -/
def close (s : CounterStore) : Bool × CounterStore :=
  if s.closeFails then (false, s) else (true, { s with map := s.map.close })

end CounterStore

end RpcGateway.Access
