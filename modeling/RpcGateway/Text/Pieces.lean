/-!
# Pieces of a text

Cutting and trimming, for lists of characters and lists of octets alike.
-/

namespace RpcGateway.Text

/-- The pieces between the separators; there is one more of them than there are separators. -/
def splitOn [DecidableEq α] (separator : α) : List α → List (List α)
  | [] => [[]]
  | a :: r =>
    if a = separator then [] :: splitOn separator r
    else match splitOn separator r with
      | piece :: pieces => (a :: piece) :: pieces
      | [] => [[a]]

/-- What stands before and after the first separator. -/
def splitOnce? [DecidableEq α] (separator : α) : List α → Option (List α × List α)
  | [] => none
  | a :: r =>
    if a = separator then some ([], r) else (splitOnce? separator r).map fun p ↦ (a :: p.1, p.2)

/-- What stands before and after the last separator. -/
def splitLast? [DecidableEq α] (separator : α) (s : List α) : Option (List α × List α) :=
  (splitOnce? separator s.reverse).map fun p ↦ (p.2.reverse, p.1.reverse)

def trimStart (p : α → Bool) (s : List α) : List α := s.dropWhile p

def trimEnd (p : α → Bool) (s : List α) : List α := (s.reverse.dropWhile p).reverse

def trim (p : α → Bool) (s : List α) : List α := trimEnd p (trimStart p s)

/-- The pieces with the separator between any two. -/
def join (separator : List α) : List (List α) → List α
  | [] => []
  | [s] => s
  | s :: r => s ++ separator ++ join separator r

def isDigit (c : Char) : Bool := '0' ≤ c && c ≤ '9'

def isHexDigit (c : Char) : Bool := isDigit c || ('a' ≤ c && c ≤ 'f') || ('A' ≤ c && c ≤ 'F')

def hexValue (c : Char) : Nat :=
  if isDigit c then c.toNat - 0x30 else if c ≤ 'F' then c.toNat - 0x37 else c.toNat - 0x57

/-- The number with the given digits, the first digit the highest. -/
def ofDigits (radix : Nat) (digits : List Char) : Nat :=
  digits.foldl (fun n c ↦ n * radix + hexValue c) 0

/-- A decimal number of at most `max`; a plus sign may stand in front. -/
def unsigned? (max : Nat) (s : List Char) : Option Nat :=
  let digits := match s with
    | '+' :: r => r
    | _ => s
  if digits.isEmpty || !digits.all isDigit then none
  else
    let n := ofDigits 10 digits
    if n ≤ max then some n else none

def lower (s : String) : String := String.ofList (s.toList.map Char.toLower)

end RpcGateway.Text
