import RpcGateway.Json.Value
import RpcGateway.Number.Word
import RpcGateway.Toml.Quoted

/-!
# TOML scalars

Numbers, dates and truth values. Digits may be set apart by single underscores. An integer has at
most 64 bits with its sign and may be written in hexadecimal, octal or binary; a float may not
exceed every double, unless it is negative or written as infinity. A date counts as an object of
its own text, and a float that is no finite number as null.
-/

namespace RpcGateway.Toml

open Json Text

/-- Digits with single underscores between them; underscores are dropped. -/
def moreDigits? (isDig : Char → Bool) (read : List Char) :
    List Char → Option (List Char × List Char)
  | [] => some (read.reverse, [])
  | '_' :: c :: r => if isDig c then moreDigits? isDig (c :: read) r else none
  | c :: r =>
    if c = '_' then none
    else if isDig c then moreDigits? isDig (c :: read) r
    else some (read.reverse, c :: r)

def digits? (isDig : Char → Bool) : List Char → Option (List Char × List Char)
  | [] => none
  | c :: r => if isDig c then moreDigits? isDig [c] r else none

/-- An optional sign; true stands for minus. -/
def sign : List Char → Bool × List Char
  | '+' :: r => (false, r)
  | '-' :: r => (true, r)
  | s => (false, s)

/-- Decimal digits without a leading zero, or a zero. -/
def decimal? : List Char → Option (List Char × List Char)
  | '0' :: r => some (['0'], r)
  | s => digits? isDigit s

def isOctal (c : Char) : Bool := '0' ≤ c && c ≤ '7'

def isBinary (c : Char) : Bool := c == '0' || c == '1'

def inRange (n : Int) : Bool := -(Word.maxSigned64 : Int) - 1 ≤ n && n ≤ Word.maxSigned64

def based? (radix : Nat) (isDig : Char → Bool) (s : List Char) : Option (Value × List Char) := do
  let (ds, r) ← digits? isDig s
  let n : Int := ofDigits radix ds
  if inRange n then return (.int n, r) else none

def integer? : List Char → Option (Value × List Char)
  | '0' :: 'x' :: r => based? 16 isHexDigit r
  | '0' :: 'o' :: r => based? 8 isOctal r
  | '0' :: 'b' :: r => based? 2 isBinary r
  | s => do
    let (negative, s) := sign s
    let (ds, r) ← decimal? s
    let n : Int := if negative then -(ofDigits 10 ds : Int) else ofDigits 10 ds
    if inRange n then return (.int n, r) else none

def exponent? : List Char → Option (Int × List Char)
  | c :: r =>
    if c = 'e' ∨ c = 'E' then do
      let (negative, r) := sign r
      let (ds, r) ← digits? isDigit r
      return (if negative then -(ofDigits 10 ds : Int) else ofDigits 10 ds, r)
    else none
  | [] => none

/-- The double nearest to `n * 10 ^ e`; exponents far beyond the doubles are not multiplied out. -/
def double? (negative : Bool) (n : Nat) (e : Int) : Option Binary64 :=
  let top := e + (Nat.toDigits 10 n).length
  if n = 0 ∨ top < -400 then some (Binary64.zero negative)
  else if 400 < top then none
  else if 0 ≤ e then Binary64.ofRatio? negative (n * Nat.pow 10 e.toNat) 1
  else Binary64.ofRatio? negative n (Nat.pow 10 (-e).toNat)

def floatValue? (negative : Bool) (ds fraction : List Char) (e : Int) : Option Value :=
  match double? negative (ofDigits 10 (ds ++ fraction)) (e - fraction.length) with
  | some x => some (.number (.float x))
  | none => if negative then some .null else none

def float? (s : List Char) : Option (Value × List Char) := do
  let (negative, s) := sign s
  match s with
  | 'i' :: 'n' :: 'f' :: r => return (.null, r)
  | 'n' :: 'a' :: 'n' :: r => return (.null, r)
  | _ =>
    let (ds, s) ← decimal? s
    match s with
    | '.' :: s =>
      let (fraction, s) ← digits? isDigit s
      match exponent? s with
      | some (e, s) => return (← floatValue? negative ds fraction e, s)
      | none => return (← floatValue? negative ds fraction 0, s)
    | _ =>
      let (e, s) ← exponent? s
      return (← floatValue? negative ds [] e, s)

/-- Two digits up to `max`. -/
def two? (max : Nat) : List Char → Option (Nat × List Char)
  | a :: b :: r =>
    let n := ofDigits 10 [a, b]
    if isDigit a && isDigit b && n ≤ max then some (n, r) else none
  | _ => none

def skip? (c : Char) : List Char → Option (List Char)
  | [] => none
  | d :: r => if d = c then some r else none

def isLeap (year : Nat) : Bool := year % 4 == 0 && (year % 100 != 0 || year % 400 == 0)

def daysIn (year month : Nat) : Nat :=
  if month = 2 then (if isLeap year then 29 else 28)
  else if [4, 6, 9, 11].contains month then 30
  else 31

def date? (s : List Char) : Option (List Char) := do
  let (century, s) ← two? 99 s
  let (year, s) ← two? 99 s
  let s ← skip? '-' s
  let (month, s) ← two? 12 s
  let s ← skip? '-' s
  let (day, s) ← two? 31 s
  if 1 ≤ month ∧ 1 ≤ day ∧ day ≤ daysIn (century * 100 + year) month then return s else none

def time? (s : List Char) : Option (List Char) := do
  let (_, s) ← two? 23 s
  let s ← skip? ':' s
  let (_, s) ← two? 59 s
  let s ← skip? ':' s
  let (_, s) ← two? 60 s
  match s with
  | '.' :: c :: r => return if isDigit c then r.dropWhile isDigit else s
  | _ => return s

/-- An optional distance from universal time. -/
def offset? (s : List Char) : Option (List Char) :=
  match s with
  | c :: r =>
    if c = 'Z' ∨ c = 'z' then some r
    else if c = '+' ∨ c = '-' then do
      let (_, r) ← two? 23 r
      let r ← skip? ':' r
      let (_, r) ← two? 59 r
      return r
    else some s
  | [] => some s

def dateTime? (s : List Char) : Option (List Char) :=
  match date? s with
  | none => time? s
  | some r =>
    match r with
    | c :: t =>
      if c = 'T' ∨ c = 't' ∨ c = ' ' then
        match time? t with
        | some t => offset? t
        | none => some r
      else some r
    | [] => some r

def date (consumed : List Char) : Value := .object [("datetime", .string (String.ofList consumed))]

def number? (s : List Char) : Option (Value × List Char) :=
  match dateTime? s with
  | some r => some (date (s.take (s.length - r.length)), r)
  | none => (float? s).or (integer? s)

def scalar? (s : List Char) : Option (Value × List Char) :=
  match s with
  | 't' :: 'r' :: 'u' :: 'e' :: r => some (.bool true, r)
  | 'f' :: 'a' :: 'l' :: 's' :: 'e' :: r => some (.bool false, r)
  | 'i' :: 'n' :: 'f' :: r => some (.null, r)
  | 'n' :: 'a' :: 'n' :: r => some (.null, r)
  | c :: _ =>
    if c = '\x22' ∨ c = '\x27' then (string? s).map fun p ↦ (.string p.1, p.2)
    else if c = '+' ∨ c = '-' ∨ isDigit c then number? s
    else none
  | [] => none

end RpcGateway.Toml
