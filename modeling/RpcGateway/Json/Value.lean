import RpcGateway.Json.Number
import RpcGateway.Json.Quoted
import RpcGateway.Json.Tree

/-!
# JSON values

The value of a JSON text. An object is a list of fields sorted by the octets of their names, each
name once: of fields with one name the last counts. Values nest at most `maxDepth` deep. `render`
writes a value without blanks.
-/

namespace RpcGateway.Json

inductive Value where
  | null
  | bool (b : Bool)
  | number (n : Number)
  | string (s : String)
  | array (elements : List Value)
  | object (fields : List (String × Value))
deriving Repr, Inhabited

namespace Value

def maxDepth : Nat := 127

/-- Comparison by octets. -/
def bytesLt : Bytes → Bytes → Bool
  | [], [] => false
  | [], _ :: _ => true
  | _ :: _, [] => false
  | a :: r, b :: s => if a < b then true else if b < a then false else bytesLt r s

def nameLt (a b : String) : Bool := bytesLt (Utf8.encode a) (Utf8.encode b)

/-- Sets the value of a name in a sorted list of fields. -/
def put (fields : List (String × Value)) (name : String) (v : Value) : List (String × Value) :=
  match fields with
  | [] => [(name, v)]
  | (n, w) :: r =>
    if n = name then (name, v) :: r
    else if nameLt name n then (name, v) :: (n, w) :: r
    else (n, w) :: put r name v

/-- The object with the given fields, of which the last with a name counts. -/
def ofFields (fields : List (String × Value)) : Value :=
  object (fields.foldl (fun acc f ↦ put acc f.1 f.2) [])

def get? (v : Value) (name : String) : Option Value :=
  match v with
  | object fields => (fields.find? fun f ↦ f.1 = name).map Prod.snd
  | _ => none

def string? : Value → Option String
  | string s => some s
  | _ => none

def int (n : Int) : Value := number (.int n)

def nat (n : Nat) : Value := number (.int n)

def strings (xs : List String) : Value := array (xs.map string)

def ofOption (f : α → Value) : Option α → Value
  | some a => f a
  | none => null

def ofLeaf? : Leaf → Option Value
  | .null => some null
  | .bool b => some (bool b)
  | .number lexeme => (Number.ofLexeme? lexeme).map number
  | .string content => (Quoted.decode? content).map string

mutual

/-- The value of a tree that nests at most `depth` deep. -/
def ofTree? (depth : Nat) : Tree → Option Value
  | .leaf l => ofLeaf? l
  | .array elements => if depth = 0 then none else (elementsOf? (depth - 1) elements).map array
  | .object fields => if depth = 0 then none else (fieldsOf? (depth - 1) fields).map ofFields

def elementsOf? (depth : Nat) : List Tree → Option (List Value)
  | [] => some []
  | t :: r => do
    let v ← ofTree? depth t
    let vs ← elementsOf? depth r
    return v :: vs

def fieldsOf? (depth : Nat) : List (Bytes × Tree) → Option (List (String × Value))
  | [] => some []
  | (name, t) :: r => do
    let name ← Quoted.decode? name
    let v ← ofTree? depth t
    let vs ← fieldsOf? depth r
    return (name, v) :: vs

end

/-- The value of a JSON text. -/
def parse? (text : Bytes) : Option Value := (Tree.read? text).bind (ofTree? maxDepth)

/-- The lists of tokens with a comma between any two. -/
def separated : List (List Token) → List Token
  | [] => []
  | [ts] => ts
  | ts :: r => ts ++ .comma :: separated r

mutual

def tokens : Value → List Token
  | null => [.null]
  | bool b => [if b then .true else .false]
  | number n => [.number n.text]
  | string s => [.string (Quoted.encode s)]
  | array elements => .beginArray :: separated (elementTokens elements) ++ [.endArray]
  | object fields => .beginObject :: separated (fieldTokens fields) ++ [.endObject]

def elementTokens : List Value → List (List Token)
  | [] => []
  | v :: r => tokens v :: elementTokens r

def fieldTokens : List (String × Value) → List (List Token)
  | [] => []
  | (name, v) :: r => (.string (Quoted.encode name) :: .colon :: tokens v) :: fieldTokens r

end

/-- The text of a value, without blanks. -/
def render (v : Value) : Bytes := v.tokens.flatMap Token.text

end Value

/-- A record: an object whose fields stay in the order given. -/
def record (fields : List (String × Value)) : Value := .object fields

end RpcGateway.Json
