import RpcGateway.Json.Token

/-!
# JSON trees

The shape of a JSON text: arrays, objects and leaves as written. A tree keeps the fields of an
object in order, repeated names included.
-/

namespace RpcGateway.Json

inductive Leaf where
  | null
  | bool (b : Bool)
  | number (lexeme : Bytes)
  | string (content : Bytes)
deriving DecidableEq, Repr

inductive Tree where
  | leaf (l : Leaf)
  | array (elements : List Tree)
  | object (fields : List (Bytes × Tree))
deriving Repr, Inhabited

namespace Tree

/-- An array or object that is still open, with what it holds so far, last first. -/
inductive Frame where
  | array (elements : List Tree)
  | object (fields : List (Bytes × Tree)) (name : Bytes)

/-- What may come next; `orEnd` allows the closing bracket of an array or object just opened. -/
inductive Expect where
  | value (orEnd : Bool)
  | name (fields : List (Bytes × Tree)) (orEnd : Bool)
  | colon (fields : List (Bytes × Tree)) (name : Bytes)
  | next
  | nothing (result : Tree)

structure Build where
  frames : List Frame := []
  expect : Expect := .value false

/-- A finished value goes into the innermost open frame. -/
def Build.put (frames : List Frame) (t : Tree) : Build :=
  match frames with
  | [] => ⟨[], .nothing t⟩
  | .array elements :: r => ⟨.array (t :: elements) :: r, .next⟩
  | .object fields name :: r => ⟨.object ((name, t) :: fields) [] :: r, .next⟩

/-- The first token of a value. -/
def Build.begin? (frames : List Frame) : Token → Option Build
  | .null => some (put frames (.leaf .null))
  | .true => some (put frames (.leaf (.bool true)))
  | .false => some (put frames (.leaf (.bool false)))
  | .number lexeme => some (put frames (.leaf (.number lexeme)))
  | .string content => some (put frames (.leaf (.string content)))
  | .beginArray => some ⟨.array [] :: frames, .value true⟩
  | .beginObject => some ⟨frames, .name [] true⟩
  | _ => none

def Build.step? (s : Build) (t : Token) : Option Build :=
  match s.expect, s.frames, t with
  | .value true, .array [] :: r, .endArray => some (put r (.array []))
  | .value _, frames, t => begin? frames t
  | .name fields _, frames, .string name => some ⟨frames, .colon fields name⟩
  | .name [] true, frames, .endObject => some (put frames (.object []))
  | .colon fields name, frames, .colon => some ⟨.object fields name :: frames, .value false⟩
  | .next, .array elements :: r, .comma => some ⟨.array elements :: r, .value false⟩
  | .next, .array elements :: r, .endArray => some (put r (.array elements.reverse))
  | .next, .object fields _ :: r, .comma => some ⟨r, .name fields false⟩
  | .next, .object fields _ :: r, .endObject => some (put r (.object fields.reverse))
  | _, _, _ => none

def Build.run? : Build → List Token → Option Build
  | s, [] => some s
  | s, t :: r =>
    match s.step? t with
    | some s => run? s r
    | none => none

def Build.finish? (s : Build) : Option Tree :=
  match s.expect with
  | .nothing t => some t
  | _ => none

def ofTokens? (ts : List Token) : Option Tree := (Build.run? {} ts).bind Build.finish?

/-- The tree of a JSON text. -/
def read? (text : Bytes) : Option Tree := (Token.scan? text).bind ofTokens?

end Tree

end RpcGateway.Json
