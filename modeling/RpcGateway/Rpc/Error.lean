import RpcGateway.Json.Value
import RpcGateway.Rpc.Code

/-!
# RPC errors

The error of a backend call, and its JSON form. It is written as an object of a code and a
message. It is read from such an object, in which the message may be missing and other fields are
passed over unread, or from an array of the code and the message; a code is its name, or an object
that maps its name to null.
-/

namespace RpcGateway.Rpc

structure Error where
  code : Code
  message : String
deriving DecidableEq, Repr

namespace Error

open Json

def unavailable (message : String) : Error := ⟨.unavailable, message⟩

def retryable (e : Error) : Bool := e.code.retryable

def text (e : Error) : String := e.code.name ++ ": " ++ e.message

def json (e : Error) : Value :=
  record [("code", .string e.code.name), ("message", .string e.message)]

def codeOfName? (content : Bytes) : Option Code := (Quoted.decode? content).bind Code.ofName?

def codeOfTree? : Tree → Option Code
  | .leaf (.string content) => codeOfName? content
  | .object [(name, .leaf .null)] => codeOfName? name
  | _ => none

def messageOfTree? : Tree → Option String
  | .leaf (.string content) => Quoted.decode? content
  | _ => none

/-- The fields of an error that have been read. -/
structure Fields where
  code : Option Code := none
  message : Option String := none

/-- One field; a known one may come only once. -/
def Fields.read? (f : Fields) (name : Bytes) (t : Tree) : Option Fields := do
  let name ← Quoted.decode? name
  if name = "code" then
    if f.code.isSome then none
    else
      let c ← codeOfTree? t
      return { f with code := some c }
  else if name = "message" then
    if f.message.isSome then none
    else
      let m ← messageOfTree? t
      return { f with message := some m }
  else return f

def Fields.readAll? : Fields → List (Bytes × Tree) → Option Fields
  | f, [] => some f
  | f, (name, t) :: r => (f.read? name t).bind fun f ↦ readAll? f r

def ofTree? : Tree → Option Error
  | .object fields =>
    (Fields.readAll? {} fields).bind fun f ↦ f.code.map fun c ↦ ⟨c, f.message.getD ""⟩
  | .array [c] => (codeOfTree? c).map fun c ↦ ⟨c, ""⟩
  | .array [c, m] => do
    let c ← codeOfTree? c
    let m ← messageOfTree? m
    return ⟨c, m⟩
  | _ => none

/-- The error that a JSON text describes. -/
def parse? (text : Bytes) : Option Error := (Tree.read? text).bind ofTree?

def render (e : Error) : Bytes := e.json.render

end Error

end RpcGateway.Rpc
