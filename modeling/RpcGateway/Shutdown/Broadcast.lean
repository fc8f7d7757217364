/-!
# Broadcasts

A signal that any number of listeners wait for. The channel holds one message: a listener that
missed some is told how many before it gets the last one. A message that nobody listens for is not
sent.
-/

namespace RpcGateway.Shutdown

structure Broadcast where
  /-- How many messages have been sent. -/
  sent : Nat := 0
  /-- The listeners, with the number of messages that each has seen or missed. -/
  listeners : List (String × Nat) := []
deriving DecidableEq, Repr

inductive Received where
  | message
  | empty
  | lagged (missed : Nat)
  | closed
deriving DecidableEq, Repr

namespace Broadcast

def listenerCount (b : Broadcast) : Nat := b.listeners.length

def drop (b : Broadcast) (id : String) : Broadcast :=
  { b with listeners := b.listeners.filter fun l ↦ l.1 ≠ id }

def subscribe (b : Broadcast) (id : String) : Broadcast :=
  { b with listeners := (b.drop id).listeners ++ [(id, b.sent)] }

def trigger (b : Broadcast) : Broadcast :=
  if b.listeners.isEmpty then b else { b with sent := b.sent + 1 }

def moveTo (b : Broadcast) (id : String) (seen : Nat) : Broadcast :=
  { b with listeners := b.listeners.map fun l ↦ if l.1 = id then (id, seen) else l }

def receive (b : Broadcast) (id : String) : Received × Broadcast :=
  match b.listeners.find? fun l ↦ l.1 = id with
  | none => (.closed, b)
  | some (_, seen) =>
    if b.sent ≤ seen then (.empty, b)
    else if b.sent = seen + 1 then (.message, b.moveTo id b.sent)
    else (.lagged (b.sent - 1 - seen), b.moveTo id (b.sent - 1))

end Broadcast

end RpcGateway.Shutdown
