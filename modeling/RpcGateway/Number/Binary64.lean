/-!
# Double-precision numbers

A finite binary number is `significand * 2 ^ exponent` with a sign of its own. Every operation is
carried out on integers and rounded once, to nearest with ties to the even significand; `none`
stands for a result above the largest finite number.
-/

namespace RpcGateway

structure Binary64 where
  negative : Bool
  significand : Nat
  exponent : Int
deriving DecidableEq, Repr, Inhabited

namespace Binary64

def minExponent : Int := -1074

def maxExponent : Int := 971

/-- The least significand of a number that is not subnormal. -/
def leastNormal : Nat := 4503599627370496

def zero (negative : Bool) : Binary64 := ⟨negative, 0, minExponent⟩

def isZero (x : Binary64) : Bool := x.significand == 0

/-- The integer nearest to `n / d`, the even one of two. -/
def divRoundEven (n d : Nat) : Nat :=
  let q := n / d
  let r := n % d
  if 2 * r < d then q else if d < 2 * r then q + 1 else q + q % 2

/-- The quotient `n / d` counted in units of `2 ^ e`, as a quotient again. -/
def inUnits (n d : Nat) (e : Int) : Nat × Nat :=
  if 0 ≤ e then (n, d * Nat.pow 2 e.toNat) else (n * Nat.pow 2 (-e).toNat, d)

/-- The double nearest to `n / d`. -/
def ofRatio? (negative : Bool) (n d : Nat) : Option Binary64 :=
  if n = 0 then some (zero negative)
  else
    let guess := max minExponent ((n.log2 : Int) - d.log2 - 53)
    let (n₀, d₀) := inUnits n d guess
    let e := if 2 * leastNormal ≤ n₀ / d₀ then guess + 1 else guess
    let (n₁, d₁) := inUnits n d e
    let q := divRoundEven n₁ d₁
    let (m, e) := if q = 2 * leastNormal then (leastNormal, e + 1) else (q, e)
    if maxExponent < e then none else some ⟨negative, m, e⟩

/-- The magnitude as a quotient of integers. -/
def ratio (x : Binary64) : Nat × Nat :=
  if 0 ≤ x.exponent then (x.significand * Nat.pow 2 x.exponent.toNat, 1)
  else (x.significand, Nat.pow 2 (-x.exponent).toNat)

def ofNat? (n : Nat) : Option Binary64 := ofRatio? false n 1

def mul? (x y : Binary64) : Option Binary64 :=
  let (n, d) := x.ratio
  let (n', d') := y.ratio
  ofRatio? (x.negative != y.negative) (n * n') (d * d')

/-- The quotient by a number that is not zero. -/
def div? (x y : Binary64) : Option Binary64 :=
  let (n, d) := x.ratio
  let (n', d') := y.ratio
  ofRatio? (x.negative != y.negative) (n * d') (d * n')

/-- The sum of two magnitudes. -/
def addMagnitudes? (x y : Binary64) : Option Binary64 :=
  let (n, d) := x.ratio
  let (n', d') := y.ratio
  ofRatio? false (n * d' + n' * d) (d * d')

def neg (x : Binary64) : Binary64 := { x with negative := !x.negative }

end Binary64

end RpcGateway
