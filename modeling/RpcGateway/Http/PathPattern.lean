import RpcGateway.Text.Pieces

/-!
# Path patterns

A pattern is literal text with parameters in braces. A parameter takes the rest of its segment,
and one with a star the rest of the path; a doubled brace stands for itself. Of two patterns, one
that goes on with literal text is tried before one with a parameter. Two patterns conflict if
neither comes before the other for some path.
-/

namespace RpcGateway.Http

inductive PathPiece where
  | literal (c : Char)
  | param (name : List Char)
  | rest (name : List Char)
deriving DecidableEq, Repr

abbrev PathPattern := List PathPiece

namespace PathPattern

/-- The characters of a pattern; the flag marks a brace that stands for itself. -/
def unescape : List Char → List (Char × Bool)
  | '\x7b' :: '\x7b' :: r => ('\x7b', true) :: unescape r
  | '\x7d' :: '\x7d' :: r => ('\x7d', true) :: unescape r
  | c :: r => (c, false) :: unescape r
  | [] => []

/-- What a name between braces stands for, with what follows it. -/
def close? (name : List Char) (after : List (Char × Bool)) (more : Option PathPattern) :
    Option PathPattern :=
  match name with
  | '*' :: name =>
    if name.isEmpty || !after.isEmpty then none else some [.rest name]
  | _ =>
    match after with
    | [] => some [.param name]
    | (c, _) :: _ => if c = '/' then more.map (.param name :: ·) else none

/-- The pieces of a pattern; `name` is what has been read of a name between braces, last first. -/
def pieces? (name : Option (List Char)) : List (Char × Bool) → Option PathPattern
  | [] => if name.isNone then some [] else none
  | (c, escaped) :: r =>
    match name with
    | none =>
      if c = '\x7b' && !escaped then pieces? (some []) r
      else if c = '\x7d' && !escaped then none
      else (pieces? none r).map (.literal c :: ·)
    | some [] => if c = '\x7d' then none else pieces? (some [c]) r
    | some n =>
      if c = '\x7d' && !escaped then close? n.reverse r (pieces? none r)
      else if c = '*' || c = '/' then none
      else pieces? (some (c :: n)) r

/-- How many parameters a pattern may have, one for the rest of the path apart. -/
def maxParams : Nat := 25

def isParam : PathPiece → Bool
  | .param _ => true
  | _ => false

/-- Segments may not begin with the marks of an older notation. -/
def hasOldMark (path : List Char) : Bool :=
  (Text.splitOn '/' path).any fun s ↦ s.head? == some ':' || s.head? == some '*'

def parse? (path : List Char) : Option PathPattern :=
  if path.head? != some '/' || hasOldMark path then none
  else match pieces? none (unescape path) with
    | some p => if maxParams < (p.filter isParam).length then none else some p
    | none => none

def conflicts : PathPattern → PathPattern → Bool
  | [], [] => true
  | .literal c :: p, .literal d :: q => c == d && conflicts p q
  | .param _ :: p, .param _ :: q => conflicts p q
  | .param _ :: _, .rest _ :: _ => true
  | .rest _ :: _, .param _ :: _ => true
  | .rest _ :: _, .rest _ :: _ => true
  | _, _ => false

abbrev Captures := List (String × String)

/-- A pattern of which the front has been matched. -/
structure Candidate (ρ : Type) where
  left : PathPattern
  captured : Captures := []
  target : ρ

variable {ρ : Type}

/-- The candidates that go on with a literal character. -/
def afterLiteral (c : Char) (cs : List (Candidate ρ)) : List (Candidate ρ) :=
  cs.filterMap fun k ↦ match k.left with
    | .literal d :: left => if c = d then some { k with left } else none
    | _ => none

/-- The candidates that go on with a parameter. -/
def afterParam (segment : List Char) (cs : List (Candidate ρ)) : List (Candidate ρ) :=
  cs.filterMap fun k ↦ match k.left with
    | .param name :: left =>
      some { k with
        left
        captured := k.captured ++ [(String.ofList name, String.ofList segment)] }
    | _ => none

/-- The match of the first candidate that takes the rest of the path. -/
def takeRest? (path : List Char) (cs : List (Candidate ρ)) : Option (ρ × Captures) :=
  cs.findSome? fun k ↦ match k.left with
    | .rest name :: _ => some (k.target, k.captured ++ [(String.ofList name, String.ofList path)])
    | _ => none

def complete? (cs : List (Candidate ρ)) : Option (ρ × Captures) :=
  (cs.find? fun k ↦ k.left.isEmpty).map fun k ↦ (k.target, k.captured)

/-- Literal text first, then parameters, then the rest of the path. Each step takes one piece of
every candidate, so that `fuel` need be no more than the longest pattern. -/
def search (fuel : Nat) (cs : List (Candidate ρ)) (path : List Char) : Option (ρ × Captures) :=
  match path with
  | [] => complete? cs
  | c :: r =>
    match fuel with
    | 0 => none
    | fuel + 1 =>
      if cs.isEmpty then none
      else
        let path := c :: r
        ((search fuel (afterLiteral c cs) r).or
          (search fuel (afterParam (path.takeWhile (· != '/')) cs) (path.dropWhile (· != '/')))).or
          (takeRest? path cs)

/-- The target of the pattern that a path matches, and what its parameters take. -/
def find? (table : List (PathPattern × ρ)) (path : List Char) : Option (ρ × Captures) :=
  search ((table.map fun e ↦ e.1.length).foldl max 0)
    (table.map fun e ↦ { left := e.1, target := e.2 }) path

end PathPattern

end RpcGateway.Http
