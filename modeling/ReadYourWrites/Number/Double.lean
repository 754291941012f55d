-- Numbers in double precision, without their signs: a significand below 2⁵³ and a power of two. The
-- result of an operation is the number nearest to the exact result; of two that are equally near,
-- the one with the even significand.

namespace ReadYourWrites

structure Double where
  significand : Nat
  exponent : Int
deriving DecidableEq, Repr

namespace Double

def leastExponent : Int :=
  -1074

def greatestExponent : Int :=
  971

def zero : Double :=
  ⟨0, leastExponent⟩

def isZero (x : Double) : Bool :=
  x.significand == 0

-- The number is `numerator / denominator`.
def numerator (x : Double) : Nat :=
  x.significand * Nat.pow 2 x.exponent.toNat

def denominator (x : Double) : Nat :=
  Nat.pow 2 (-x.exponent).toNat

-- The quotient, rounded to the nearest integer, and to the even one of two.
def roundDiv (n d : Nat) : Nat :=
  let q := n / d
  let r := n % d
  if 2 * r < d ∨ (2 * r = d ∧ q % 2 = 0) then q else q + 1

-- The exponent of the greatest power of two that does not exceed `n / d`.
def log2Ratio (n d : Nat) : Int :=
  let k : Int := (n.log2 : Int) - (d.log2 : Int)
  if d * Nat.pow 2 k.toNat ≤ n * Nat.pow 2 (-k).toNat then k else k - 1

-- The number nearest to `n / d`, unless that is too great for any.
def ofRatio (n d : Nat) : Option Double :=
  if n = 0 then some zero
  else
    let e := max (log2Ratio n d - 52) leastExponent
    let q := roundDiv (n * Nat.pow 2 (-e).toNat) (d * Nat.pow 2 e.toNat)
    let (q, e) := if q = Nat.pow 2 53 then (Nat.pow 2 52, e + 1) else (q, e)
    if greatestExponent < e then none else some ⟨q, e⟩

def ofNat (n : Nat) : Option Double :=
  ofRatio n 1

def mul (x y : Double) : Option Double :=
  ofRatio (x.numerator * y.numerator) (x.denominator * y.denominator)

def div (x y : Double) : Option Double :=
  ofRatio (x.numerator * y.denominator) (x.denominator * y.numerator)

-- The greatest power of ten that is a number.
def greatestTen : Nat :=
  308

def tenTo (k : Nat) : Option Double :=
  ofNat (Nat.pow 10 k)

-- A significand times a power of ten. Both are rounded before they are multiplied, and a quotient
-- is taken in several steps if its power of ten is too great for one.
def scale (x : Double) (exponent : Int) : Option Double :=
  if 0 ≤ exponent then
    if x.isZero then some x
    else if exponent ≤ greatestTen then (tenTo exponent.toNat).bind x.mul
    else none
  else if exponent < -greatestTen then
    if x.isZero then some x
    else (tenTo greatestTen).bind fun ten => (x.div ten).bind (scale · (exponent + greatestTen))
  else (tenTo (-exponent).toNat).bind x.div
termination_by (-exponent).toNat
decreasing_by
  simp only [greatestTen] at *
  omega

end Double

end ReadYourWrites
