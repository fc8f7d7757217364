import RpcGateway.Json.Token
import RpcGateway.Number.Shortest
import RpcGateway.Number.Word

/-!
# JSON numbers

An integer that fits in 64 bits, signed or unsigned, is kept; any other number is a double. A double
is read from at most 64 bits of its digits: the digits after those only move the decimal point, and
the power of ten is multiplied or divided in at the end, so that a long number may miss the nearest
double. It is written with the fewest digits that read back.
-/

namespace RpcGateway.Json

inductive Number where
  | int (n : Int)
  | float (x : Binary64)
deriving DecidableEq, Repr

namespace Number

def digitValue (b : UInt8) : Nat := b.toNat - 0x30

/-- The double of the power of ten, for exponents up to 308. -/
def powerOfTen (k : Nat) : Binary64 := (Binary64.ofNat? (Nat.pow 10 k)).getD (Binary64.zero false)

/-- Division by `10 ^ 308` until the exponent is in reach; each round moves the exponent by 308, so
`fuel` need be no more than the exponent's magnitude. -/
def scaleDown? (x : Binary64) (exponent : Nat) : Nat → Option Binary64
  | 0 => some x
  | fuel + 1 =>
    if exponent ≤ 308 then x.div? (powerOfTen exponent)
    else if x.isZero then some x
    else (x.div? (powerOfTen 308)).bind fun y ↦ scaleDown? y (exponent - 308) fuel

/-- `significand * 10 ^ exponent`, or nothing if it exceeds every double. -/
def ofParts? (significand : Nat) (exponent : Int) : Option Binary64 :=
  (Binary64.ofNat? significand).bind fun x ↦
    if 0 ≤ exponent then
      if exponent ≤ 308 then x.mul? (powerOfTen exponent.toNat)
      else if x.isZero then some x
      else none
    else scaleDown? x (-exponent).toNat ((-exponent).toNat / 308 + 1)

/-- Digits taken into a significand while it fits in 64 bits, and how many were left over. -/
def takeDigits (significand : Nat) : Bytes → Nat × Bytes
  | [] => (significand, [])
  | b :: r =>
    let more := significand * 10 + digitValue b
    if more ≤ Word.max64 then takeDigits more r else (significand, b :: r)

/-- The digits of an exponent, or nothing above 32 bits. -/
def exponentValue? (acc : Nat) : Bytes → Option Nat
  | [] => some acc
  | b :: r =>
    let more := acc * 10 + digitValue b
    if more ≤ Word.maxSigned32 then exponentValue? more r else none

/-- An exponent beyond 32 bits leaves zero, or nothing if the number grows. -/
def withExponent? (significand : Nat) (start : Int) (s : Bytes) : Option Binary64 :=
  let (negative, digits) := match s with
    | b :: r => if b == 0x2D then (true, r) else if b == 0x2B then (false, r) else (false, s)
    | [] => (false, [])
  match exponentValue? 0 digits with
  | none => if significand ≠ 0 ∧ !negative then none else some (Binary64.zero false)
  | some e =>
    let limit : Int := Word.maxSigned32
    let e : Int := if negative then max (-limit - 1) (start - e) else min limit (start + e)
    ofParts? significand e

/-- What follows the integer digits, `start` of which were left over. -/
def tail? (significand : Nat) (start : Nat) : Bytes → Option Binary64
  | [] => ofParts? significand start
  | b :: r =>
    if b == 0x2E then
      let digits := r.takeWhile Token.isDigit
      let rest := r.dropWhile Token.isDigit
      let (m, left) := takeDigits significand digits
      let e : Int := (start : Int) - (digits.length - left.length : Nat)
      match rest with
      | [] => ofParts? m e
      | _ :: s => withExponent? m e s
    else withExponent? significand start r

def floatMagnitude? (s : Bytes) : Option Binary64 :=
  let digits := s.takeWhile Token.isDigit
  let (m, left) := takeDigits 0 digits
  tail? m left.length (s.dropWhile Token.isDigit)

/-- The number that a lexeme of JSON's grammar denotes, or nothing if it exceeds every double. -/
def ofLexeme? (s : Bytes) : Option Number :=
  let negative := s.head? == some 0x2D
  let magnitude := if negative then s.tail else s
  let float := (floatMagnitude? magnitude).map fun x ↦ Number.float (if negative then x.neg else x)
  let (m, left) := takeDigits 0 magnitude
  if magnitude.all Token.isDigit && left.isEmpty then
    if negative then
      if 0 < m ∧ m ≤ Word.maxSigned64 + 1 then some (.int (-m)) else float
    else some (.int m)
  else float

def decimalDigits (n : Nat) : Bytes := (Nat.toDigits 10 n).map fun c ↦ UInt8.ofNat c.toNat

def integerText (n : Int) : Bytes :=
  if n < 0 then 0x2D :: decimalDigits n.natAbs else decimalDigits n.natAbs

def zeros (n : Nat) : Bytes := List.replicate n 0x30

/-- Plain notation for a first digit between the fifth decimal place and the sixteenth place before
the point, and always a point or an exponent. -/
def magnitudeText (x : Binary64) : Bytes :=
  let d := x.shortest
  let digits := decimalDigits d.digits
  let top := d.exponent + digits.length - 1
  if x.isZero then [0x30, 0x2E, 0x30]
  else if 0 ≤ d.exponent ∧ top ≤ 15 then digits ++ zeros d.exponent.toNat ++ [0x2E, 0x30]
  else if 0 ≤ top ∧ top ≤ 15 then
    digits.take (top.toNat + 1) ++ 0x2E :: digits.drop (top.toNat + 1)
  else if -5 ≤ top ∧ top < 0 then [0x30, 0x2E] ++ zeros ((-top).toNat - 1) ++ digits
  else
    let exponent := if 0 ≤ top then 0x2B :: integerText top else integerText top
    match digits with
    | first :: [] => first :: 0x65 :: exponent
    | first :: rest => first :: 0x2E :: rest ++ 0x65 :: exponent
    | [] => []

def text : Number → Bytes
  | int n => integerText n
  | float x => if x.negative then 0x2D :: magnitudeText x else magnitudeText x

end Number

end RpcGateway.Json
