import RpcGateway.Number.Word
import RpcGateway.Text.Pieces

/-!
# Socket addresses

An address and a port, `1.2.3.4:80` or `[2001:db8::1]:80`. Octets are written without leading zeros;
a run of zero groups of a long address may be left out once, its last two groups may be written as
four octets, and a numeric scope may follow it. `Ip.text` writes an address in its shortest form.
-/

namespace RpcGateway.Net

inductive Ip where
  | v4 (octets : List Nat)
  | v6 (groups : List Nat)
deriving DecidableEq, Repr

structure SocketAddress where
  ip : Ip
  port : Nat
deriving DecidableEq, Repr

namespace SocketAddress

open Text

def digitOf (radix : Nat) (c : Char) : Bool := if radix = 16 then isHexDigit c else isDigit c

/-- A number of the given radix up to `max`, at the front of a text. -/
def number? (radix max : Nat) (maxDigits : Option Nat) (leadingZeros : Bool) (s : List Char) :
    Option (Nat × List Char) :=
  let digits := s.takeWhile (digitOf radix)
  let n := ofDigits radix digits
  if digits.isEmpty || max < n then none
  else if maxDigits.any fun m ↦ m < digits.length then none
  else if !leadingZeros && digits.head? == some '0' && 1 < digits.length then none
  else some (n, s.dropWhile (digitOf radix))

def char? (c : Char) : List Char → Option (List Char)
  | [] => none
  | d :: r => if d = c then some r else none

def octet? (s : List Char) : Option (Nat × List Char) := number? 10 255 (some 3) false s

def ipv4? (s : List Char) : Option (List Nat × List Char) := do
  let (a, s) ← octet? s
  let (b, s) ← (char? '.' s).bind octet?
  let (c, s) ← (char? '.' s).bind octet?
  let (d, s) ← (char? '.' s).bind octet?
  return ([a, b, c, d], s)

def port? (s : List Char) : Option Nat :=
  match (char? ':' s).bind (number? 10 Word.max16 none true) with
  | some (n, []) => some n
  | _ => none

/-- Groups up to `limit`, a colon before each but the first; the flag tells whether they end in four
octets. -/
def groups (first : Bool) : Nat → List Char → List Nat × Bool × List Char
  | 0, s => ([], false, s)
  | limit + 1, s =>
    let start := if first then some s else char? ':' s
    let tail := if 0 < limit then start.bind ipv4? else none
    match tail with
    | some ([a, b, c, d], r) => ([a * 256 + b, c * 256 + d], true, r)
    | _ =>
      match start.bind (number? 16 Word.max16 (some 4) true) with
      | some (g, r) =>
        let (gs, octets, r) := groups false limit r
        (g :: gs, octets, r)
      | none => ([], false, s)

def ipv6? (s : List Char) : Option (List Nat × List Char) :=
  let (front, octets, r) := groups true 8 s
  if front.length = 8 then some (front, r)
  else if octets then none
  else do
    let r ← char? ':' r
    let r ← char? ':' r
    let (back, _, r) := groups true (7 - front.length) r
    return (front ++ List.replicate (8 - front.length - back.length) 0 ++ back, r)

def scope? (s : List Char) : Option (List Char) :=
  match char? '%' s with
  | none => some s
  | some r => (number? 10 Word.max32 none true r).map Prod.snd

def parse? (text : String) : Option SocketAddress :=
  let s := text.toList
  match ipv4? s with
  | some (octets, r) => (port? r).map fun p ↦ ⟨.v4 octets, p⟩
  | none => do
    let s ← char? '[' s
    let (groups, s) ← ipv6? s
    let s ← scope? s
    let s ← char? ']' s
    let p ← port? s
    return ⟨.v6 groups, p⟩

end SocketAddress

namespace Ip

def decimal (n : Nat) : List Char := Nat.toDigits 10 n

def octetText (octets : List Nat) : List Char := Text.join ['.'] (octets.map decimal)

def groupText (groups : List Nat) : List Char := Text.join [':'] (groups.map (Nat.toDigits 16))

/-- How many zero groups stand in front. -/
def zeroRun (groups : List Nat) : Nat := (groups.takeWhile (· == 0)).length

/-- The place and the length of the first of the longest runs of zero groups. -/
def longestZeroRun (place : Nat) : List Nat → Nat × Nat
  | [] => (place, 0)
  | g :: r =>
    let here := zeroRun (g :: r)
    let (p, n) := longestZeroRun (place + 1) r
    if n ≤ here then (place, here) else (p, n)

def text : Ip → String
  | v4 octets => String.ofList (octetText octets)
  | v6 groups =>
    match groups with
    | [0, 0, 0, 0, 0, 0xFFFF, g, h] =>
      String.ofList ([':', ':', 'f', 'f', 'f', 'f', ':'] ++
        octetText [g / 256, g % 256, h / 256, h % 256])
    | _ =>
      let (p, n) := longestZeroRun 0 groups
      if 1 < n then
        String.ofList (groupText (groups.take p) ++ [':', ':'] ++ groupText (groups.drop (p + n)))
      else String.ofList (groupText groups)

end Ip

end RpcGateway.Net
