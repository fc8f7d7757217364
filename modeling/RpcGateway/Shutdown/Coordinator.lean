import RpcGateway.Activity
import RpcGateway.Shutdown.Broadcast

/-!
# Shutdown

Everything that must be closed before the process ends, in two phases: what drains work in flight,
and what that work needs, which is released only when every drain is over. The closes of a phase
go on side by side. The coordinator waits for the next of them to end until all have, or until the
deadline that both phases share; then it gives up what has not ended. It keeps a journal of the
signals it sends and of the closes that begin and end.

A server is a task that ends some time after the signal to stop. Closing it takes the task over
and waits for its end; a second close finds nothing to wait for. Its end is noticed after the
instant at which it comes, too late if that is the deadline.
-/

namespace RpcGateway.Shutdown

inductive Phase where
  | drain
  | release
deriving DecidableEq, Repr

/-- How a close goes, from its beginning. -/
inductive Closing where
  | lasting (ms : Nat) (succeeds : Bool)
  | endless
deriving DecidableEq, Repr

inductive Resource.Kind where
  /-- A close that starts over each time. -/
  | plain (phase : Phase) (closing : Closing)
  /-- A task that stops once it gets the signal, and whether a close has taken it over. -/
  | server (task : Closing) (taken : Bool)
deriving DecidableEq, Repr

structure Resource where
  name : String
  kind : Resource.Kind
deriving DecidableEq, Repr

inductive ShutdownError where
  | deadlineExceeded (pending : List String)
  | closeFailed (failed : List String)
deriving DecidableEq, Repr

def ShutdownError.message : ShutdownError → String
  | deadlineExceeded pending =>
    "shutdown deadline exceeded, still closing: " ++ String.intercalate ", " pending
  | closeFailed failed => "failed to close: " ++ String.intercalate ", " failed

namespace Resource

def phase (r : Resource) : Phase :=
  match r.kind with
  | .plain phase _ => phase
  | .server _ _ => .drain

/-- When a close that begins at `start` ends, and how; the signal went out at `signalled`. -/
def ending (r : Resource) (signalled start : Time) : Option (Time × Bool) :=
  match r.kind with
  | .plain _ (.lasting ms ok) => some (start + ms, ok)
  | .plain _ .endless => none
  | .server _ true => some (start, true)
  | .server (.lasting ms ok) false => some (max start (signalled + ms), ok)
  | .server .endless false => none

/-- The turns of an instant that are over before the end of a close is noticed. -/
def delay (r : Resource) : Nat :=
  match r.kind with
  | .server _ false => 1
  | _ => 0

/-- The resource after a close of it has begun. -/
def afterClose (r : Resource) : Resource :=
  match r.kind with
  | .server task _ => { r with kind := .server task true }
  | _ => r

end Resource

/-- A close that goes on, and how it will end. -/
structure Close where
  resource : Resource
  ending : Option (Time × Bool)
deriving DecidableEq, Repr

/-- The close of a resource that begins at `start`. -/
def Resource.close (r : Resource) (signalled start : Time) : Close :=
  ⟨r, r.ending signalled start⟩

namespace Close

/-- When the end of a close is noticed, in turns; every instant has two. -/
def noticed (c : Close) : Option Nat := c.ending.map fun e ↦ 2 * e.1 + c.resource.delay

/-- Whether the end of a close is noticed before that of another, if any is. -/
def before (c c' : Close) : Bool :=
  match c.noticed, c'.noticed with
  | _, none => true
  | none, some _ => false
  | some n, some n' => n ≤ n'

/-- How a close ends if that is noticed by the deadline, which comes in the first turn. -/
def endingBy (deadline : Time) (c : Close) : Option (Time × Bool) :=
  c.ending.filter fun e ↦ 2 * e.1 + c.resource.delay ≤ 2 * deadline

end Close

/-- Closes that begin at `start`, the one that ends next first. -/
def closes (signalled start : Time) (rs : List Resource) : List Close :=
  (rs.map fun r ↦ r.close signalled start).mergeSort Close.before

inductive Event where
  | signalled
  | began (r : Resource)
  | ended (r : Resource) (succeeded : Bool)
deriving DecidableEq, Repr

structure Coordinator where
  resources : List Resource
  signal : Broadcast := {}
  /-- When the signal to stop first went out. -/
  signalledAt : Option Time := none
  journal : List (Time × Event) := []

def namesSorted (names : List String) : List String :=
  names.mergeSort fun a b ↦ a ≤ b

/-- The names of resources, each once. -/
def nameSet (rs : List Resource) : List String := namesSorted (rs.map Resource.name).eraseDups

namespace Coordinator

def names (c : Coordinator) : List String := c.resources.map Resource.name

def drains (c : Coordinator) : List Resource := c.resources.filter fun r ↦ r.phase = .drain

def releases (c : Coordinator) : List Resource := c.resources.filter fun r ↦ r.phase = .release

def note (entries : List (Time × Event)) (c : Coordinator) : Coordinator :=
  { c with journal := c.journal ++ entries }

def trigger (now : Time) (c : Coordinator) : Coordinator :=
  { c.note [(now, .signalled)] with
    signal := c.signal.trigger
    signalledAt := some (c.signalledAt.getD now) }

/-- Closes begin, side by side. -/
def begin (rs : List Resource) (now : Time) (c : Coordinator) : Coordinator :=
  { c.note (rs.map fun r ↦ (now, .began r)) with
    resources := c.resources.map fun r ↦ if r ∈ rs then r.afterClose else r }

/-- Waits for one close after the other, and tells which have failed. At the deadline it gives up,
and tells which are pending. -/
def awaitAll (deadline : Time) (pending failed : List String) :
    List Close → Activity Coordinator (Except (List String) (List String))
  | [] => .done (.ok failed)
  | c :: cs =>
    match c.endingBy deadline with
    | some (finish, ok) =>
      let pending := pending.filter fun n ↦ n ≠ c.resource.name
      let failed := if ok then failed else failed ++ [c.resource.name]
      (Activity.sleepUntil finish).bind fun _ ↦
        .act (fun now ↦ note [(now, .ended c.resource ok)]) fun _ _ ↦
          awaitAll deadline pending failed cs
    | none => (Activity.sleepUntil deadline).bind fun _ ↦ .done (.error pending)

/-- Closes resources side by side until the deadline. -/
def closeAll (deadline : Time) (rs : List Resource) :
    Activity Coordinator (Except (List String) (List String)) :=
  .act (begin rs) fun now c ↦
    awaitAll deadline (nameSet rs) [] (closes (c.signalledAt.getD now) now rs)

/-- Releases what nothing uses any more, and says how the shutdown went. -/
def release (deadline : Time) (rs : List Resource) (failed : List String) :
    Activity Coordinator (Except ShutdownError Unit) :=
  (closeAll deadline rs).bind fun
    | .error pending => .done (.error (.deadlineExceeded pending))
    | .ok more =>
      let failed := failed ++ more
      .done (if failed.isEmpty then .ok () else .error (.closeFailed (namesSorted failed)))

/-- Drains, and then releases. -/
def drain (deadline : Time) (drains releases : List Resource) :
    Activity Coordinator (Except ShutdownError Unit) :=
  (closeAll deadline drains).bind fun
    | .error pending =>
      let pending := namesSorted (pending ++ releases.map Resource.name)
      .done (.error (.deadlineExceeded pending))
    | .ok failed => release deadline releases failed

/-- Sends the signal and closes everything within a time that starts now. -/
def shutdown (timeout : Nat) : Activity Coordinator (Except ShutdownError Unit) :=
  .act Activity.keep fun now c ↦
    if clockEnd ≤ now + timeout then .panic
    else .act trigger fun _ _ ↦ drain (now + timeout) c.drains c.releases

end Coordinator

end RpcGateway.Shutdown
