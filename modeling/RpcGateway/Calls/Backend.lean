import RpcGateway.Activity
import RpcGateway.Rpc.Error
import RpcGateway.Rpc.Request

/-!
# Backends

A backend as far as the gateway can tell: what it replies to each request, and how often each of its
operations has been called. A reply may take its time, fail, break down or never come.
-/

namespace RpcGateway.Calls

open Json

inductive Answer where
  | ok (payload : Value)
  | error (e : Rpc.Error)
  | panic
  | hang

structure Reply where
  delayMs : Option Nat := none
  answer : Answer

structure Backend where
  /-- The reply to a request, by the number of earlier calls of its operation. -/
  reply : Rpc.Request → Nat → Reply
  /-- How often each operation has been called. -/
  calls : List (String × Nat) := []

namespace Backend

def lookup? (table : List (String × β)) (key : String) : Option β :=
  (table.find? fun e ↦ e.1 = key).map Prod.snd

def callCount (b : Backend) (operation : String) : Nat := (lookup? b.calls operation).getD 0

def setCount (calls : List (String × Nat)) (operation : String) (n : Nat) : List (String × Nat) :=
  match calls with
  | [] => [(operation, n)]
  | (o, m) :: r => if o = operation then (o, n) :: r else (o, m) :: setCount r operation n

/-- What was asked, without the payload. -/
def echo (r : Rpc.Request) : Value :=
  Value.ofFields [("operation", .string r.operation), ("params", Rpc.Request.paramsJson r.params),
    ("identity", Value.ofOption (fun i ↦ Value.ofFields i.fields) r.identity)]

/-- A backend that always repeats what it was asked. -/
def echoing : Backend where
  reply r _ := { answer := .ok (echo r) }

def anyOperation : String := "*"

def repliesTo (table : List (String × List Reply)) (operation : String) : List Reply :=
  ((lookup? table operation).or (lookup? table anyOperation)).getD []

/-- A backend whose replies are listed by operation. The last one listed is given for ever, and an
operation without replies of its own gets those of `anyOperation`. -/
def ofReplies (table : List (String × List Reply)) : Backend where
  reply r n :=
    let replies := repliesTo table r.operation
    ((replies[n]?).or replies.getLast?).getD (echoing.reply r n)

/-- The reply to the next call. -/
def nextReply (b : Backend) (r : Rpc.Request) : Reply := b.reply r (b.callCount r.operation)

def noted (b : Backend) (operation : String) : Backend :=
  { b with calls := setCount b.calls operation (b.callCount operation + 1) }

end Backend

namespace Reply

variable {σ : Type}

/-- One attempt of a call that is answered so. -/
def attempt (r : Reply) : Activity σ (Except Rpc.Error Value) :=
  let answer : Activity σ (Except Rpc.Error Value) := match r.answer with
    | .ok v => .done (.ok v)
    | .error e => .done (.error e)
    | .panic => .panic
    | .hang => .hang
  match r.delayMs with
  | some ms => (Activity.sleep ms).bind fun _ ↦ answer
  | none => answer

end Reply

end RpcGateway.Calls
