import RpcGateway.Number.Word

/-!
# Activities

An activity is a computation over a shared state that may wait. It acts on the state at an
instant, waits until a later one, and ends with a result or breaks down. Time is counted in
milliseconds and passes only while every activity waits.

An activity can be dropped while it waits, by a deadline or because nobody wants its result any
more. Each wait therefore carries what has to be undone when it is dropped, and `guarded` adds to
that for all waits of an activity at once. Work that is due at the instant of a deadline is done
in time.

A wait ends at an alarm. That of a deadline is set at the first wait before it and stays while one
wait follows another, so a wait also tells how old its alarm is.
-/

namespace RpcGateway

abbrev Time := Nat

/-- The clock counts seconds in 63 bits; no instant from this one on can be named. -/
def clockEnd : Time := Word.maxSigned64 * 1000

inductive Activity (σ : Type) (α : Type) : Type where
  | done (a : α)
  | panic
  /-- A change of the state; what follows sees the state before it. -/
  | act (change : Time → σ → σ) (next : Time → σ → Activity σ α)
  /-- A wait until an instant, or for ever. Its alarm was set `age` waits ago. -/
  | wait (wake : Option Time) (age : Nat) (drop : Time → σ → σ) (next : Activity σ α)

/-- How an activity that is left alone comes out. -/
inductive Outcome (α : Type) : Type where
  | done (a : α)
  | panicked
  | stuck

namespace Activity

variable {σ τ α β : Type}

instance : Inhabited (Activity σ α) := ⟨.panic⟩

def keep (_ : Time) (s : σ) : σ := s

def bind (t : Activity σ α) (f : α → Activity σ β) : Activity σ β :=
  match t with
  | done a => f a
  | panic => panic
  | act change next => act change fun now s ↦ (next now s).bind f
  | wait wake age drop next => wait wake age drop (next.bind f)

def map (f : α → β) (t : Activity σ α) : Activity σ β := t.bind fun a ↦ done (f a)

instance : Monad (Activity σ) where
  pure := done
  bind := bind

/-- A change of the state with a result. -/
def modifyGet (f : Time → σ → α × σ) : Activity σ α :=
  act (fun t s ↦ (f t s).2) fun t s ↦ done (f t s).1

def sleepUntil (t : Time) : Activity σ Unit := wait (some t) 0 keep (done ())

def sleep (ms : Nat) : Activity σ Unit := act keep fun t _ ↦ sleepUntil (t + ms)

/-- A wait without an end. -/
def hang : Activity σ α := wait none 0 keep panic

/-- What is left of an activity that is dropped at `limit`, `waits` waits after its beginning. -/
def withinAfter (limit : Time) (waits : Nat) : Activity σ α → Activity σ (Option α)
  | done a => done (some a)
  | panic => panic
  | act change next => act change fun t s ↦ withinAfter limit waits (next t s)
  | wait none _ drop _ => wait (some limit) waits drop (act drop fun _ _ ↦ done none)
  | wait (some w) age drop next =>
    if w < limit then wait (some w) age drop (withinAfter limit (waits + 1) next)
    else if w = limit then wait (some w) waits drop (withinAfter limit (waits + 1) next)
    else wait (some limit) waits drop (act drop fun _ _ ↦ done none)

/-- The activity, dropped at `limit` if it is not done by then. -/
def within (limit : Time) (t : Activity σ α) : Activity σ (Option α) := withinAfter limit 0 t

/-- The activity with something to be undone if it is dropped or breaks down. -/
def guarded (undo : Time → σ → σ) : Activity σ α → Activity σ α
  | done a => done a
  | panic => act undo fun _ _ ↦ panic
  | act change next => act change fun t s ↦ guarded undo (next t s)
  | wait wake age drop next => wait wake age (fun t s ↦ undo t (drop t s)) (guarded undo next)

/-- The activity with something to be done at its end, whatever that is. -/
def ending (finish : Time → σ → σ) : Activity σ α → Activity σ α
  | done a => act finish fun _ _ ↦ done a
  | panic => act finish fun _ _ ↦ panic
  | act change next => act change fun t s ↦ ending finish (next t s)
  | wait wake age drop next => wait wake age (fun t s ↦ finish t (drop t s)) (ending finish next)

/-- The activity with an answer in place of a breakdown. -/
def recovering (answer : Activity σ α) : Activity σ α → Activity σ α
  | done a => done a
  | panic => answer
  | act change next => act change fun t s ↦ recovering answer (next t s)
  | wait wake age drop next => wait wake age drop (recovering answer next)

/-- An activity over a part of the state. -/
def onPart (get : σ → τ) (set : τ → σ → σ) : Activity τ α → Activity σ α
  | done a => done a
  | panic => panic
  | act change next =>
    act (fun t s ↦ set (change t (get s)) s) fun t s ↦ onPart get set (next t (get s))
  | wait wake age drop next =>
    wait wake age (fun t s ↦ set (drop t (get s)) s) (onPart get set next)

/-- Where an activity has come to. -/
structure Settled (σ α : Type) where
  state : σ
  /-- What remains of the activity. -/
  rest : Activity σ α
  /-- How many waits have ended on the way. -/
  ended : Nat

/-- Everything that is due by the present instant, after `ended` waits. -/
def settle (ended : Nat) : Activity σ α → Time → σ → Settled σ α
  | done a, _, s => ⟨s, done a, ended⟩
  | panic, _, s => ⟨s, panic, ended⟩
  | act change next, t, s => settle ended (next t s) t (change t s)
  | wait none age drop next, _, s => ⟨s, wait none age drop next, ended⟩
  | wait (some w) age drop next, t, s =>
    if w ≤ t then settle (ended + 1) next t s else ⟨s, wait (some w) age drop next, ended⟩

/-- The activity left alone to its end: the instant and the state then, and how it came out. -/
def run : Activity σ α → Time → σ → Time × σ × Outcome α
  | done a, t, s => (t, s, .done a)
  | panic, t, s => (t, s, .panicked)
  | act change next, t, s => run (next t s) t (change t s)
  | wait none _ _ _, t, s => (t, s, .stuck)
  | wait (some w) _ _ next, t, s => run next (max t w) s

/-- What dropping the activity does to the state. -/
def dropped : Activity σ α → Time → σ → σ
  | wait _ _ drop _, t, s => drop t s
  | _, _, s => s

/-- When a settled activity goes on by itself, and the age of the alarm. -/
def alarm? : Activity σ α → Option (Time × Nat)
  | wait (some w) age _ _ => some (w, age)
  | _ => none

end Activity

end RpcGateway
