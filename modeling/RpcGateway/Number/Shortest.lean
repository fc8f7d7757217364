import RpcGateway.Number.Binary64

/-!
# Shortest decimals

The fewest decimal digits that read back as a given double, and of those the nearest. A double
stands for the interval of reals that round to it, whose ends belong to it when its significand is
even. For one digit, two digits and so on the two neighbours on that decimal grid are tried.
-/

namespace RpcGateway.Binary64

/-- `digits * 10 ^ exponent` -/
structure Decimal where
  digits : Nat
  exponent : Int
deriving DecidableEq, Repr

/-- The double and the ends of its interval, over one denominator. -/
structure Neighbourhood where
  value : Nat
  low : Nat
  high : Nat
  denominator : Nat
  closed : Bool

def neighbourhood (x : Binary64) : Neighbourhood :=
  let unit := x.exponent - 2
  let scale := if 0 ≤ unit then Nat.pow 2 unit.toNat else 1
  let gap := if x.significand = leastNormal ∧ minExponent < x.exponent then 1 else 2
  { value := 4 * x.significand * scale
    low := (4 * x.significand - gap) * scale
    high := (4 * x.significand + 2) * scale
    denominator := if 0 ≤ unit then 1 else Nat.pow 2 (-unit).toNat
    closed := x.significand % 2 == 0 }

/-- Both sides of a comparison of `c * 10 ^ k` with a numerator over `d`. -/
def onGrid (c : Nat) (k : Int) (d n : Nat) : Nat × Nat :=
  if 0 ≤ k then (c * Nat.pow 10 k.toNat * d, n) else (c * d, n * Nat.pow 10 (-k).toNat)

def Neighbourhood.contains (h : Neighbourhood) (c : Nat) (k : Int) : Bool :=
  let (a, l) := onGrid c k h.denominator h.low
  let (b, u) := onGrid c k h.denominator h.high
  if h.closed then l ≤ a && b ≤ u else l < a && b < u

def Neighbourhood.distance (h : Neighbourhood) (c : Nat) (k : Int) : Nat :=
  let (a, v) := onGrid c k h.denominator h.value
  (a - v) + (v - a)

/-- The least `j ≤ fuel` with `d ≤ n * 10 ^ j`. -/
def leadingZeros (n d : Nat) : Nat → Nat
  | 0 => 0
  | fuel + 1 => if d ≤ n then 0 else leadingZeros (n * 10) d fuel + 1

/-- The exponent of the first decimal digit of `n / d`. -/
def floorLog10 (n d : Nat) : Int :=
  if d ≤ n then ((Nat.toDigits 10 (n / d)).length : Int) - 1 else -(leadingZeros n d 400 : Int)

def Neighbourhood.candidate? (h : Neighbourhood) (k : Int) : Option Decimal :=
  let (n, d) :=
    if 0 ≤ k then (h.value, h.denominator * Nat.pow 10 k.toNat)
    else (h.value * Nat.pow 10 (-k).toNat, h.denominator)
  let below := n / d
  let above := below + 1
  match h.contains below k && below != 0, h.contains above k with
  | false, false => none
  | true, false => some ⟨below, k⟩
  | false, true => some ⟨above, k⟩
  | true, true =>
    let l := h.distance below k
    let u := h.distance above k
    some ⟨if l < u ∨ (l = u ∧ below % 2 = 0) then below else above, k⟩

def Neighbourhood.search (h : Neighbourhood) (top : Int) (count : Nat) : Nat → Decimal
  | 0 => ⟨0, 0⟩
  | fuel + 1 =>
    match h.candidate? (top - count + 1) with
    | some c => c
    | none => h.search top (count + 1) fuel

def dropZeros (digits : Nat) (exponent : Int) : Nat → Decimal
  | 0 => ⟨digits, exponent⟩
  | fuel + 1 =>
    if digits % 10 = 0 then dropZeros (digits / 10) (exponent + 1) fuel else ⟨digits, exponent⟩

/-- The shortest decimal of the magnitude, without a trailing zero. -/
def shortest (x : Binary64) : Decimal :=
  if x.isZero then ⟨0, 0⟩
  else
    let h := x.neighbourhood
    let d := h.search (floorLog10 h.value h.denominator) 1 18
    dropZeros d.digits d.exponent 400

end RpcGateway.Binary64
