import ReadYourWrites.Number.Double

-- Numbers in double precision as text: the fewest digits that stand for no other number, and of
-- those the nearest, with an even last digit if two are equally near. Numbers that are neither very
-- great nor very small are written with a point and a digit on each side of it, all others with an
-- exponent.

namespace ReadYourWrites.Double

-- A whole number times a power of ten.
structure Decimal where
  digits : Nat
  exponent : Int
deriving DecidableEq, Repr

-- A quarter of the distance to the next greater number. The number itself is four significands of
-- these.
def quarter (x : Double) : Int :=
  x.exponent - 2

-- How many quarters below and above a number its neighbours take over. The neighbour below a power
-- of two is nearer than the one above.
def reachBelow (x : Double) : Nat :=
  if x.significand = Nat.pow 2 52 ∧ leastExponent < x.exponent then 1 else 2

def reachAbove : Nat :=
  2

-- A decimal and a number of quarters of `x` in a common unit.
def unitsOfDecimal (x : Double) (d : Decimal) : Nat :=
  d.digits * Nat.pow 10 d.exponent.toNat * Nat.pow 2 (-x.quarter).toNat

def unitsOfQuarters (x : Double) (d : Decimal) (quarters : Nat) : Nat :=
  quarters * Nat.pow 2 x.quarter.toNat * Nat.pow 10 (-d.exponent).toNat

-- Whether a decimal stands for the number. Decimals half way to a neighbour stand for the one with
-- the even significand.
def isDecimal (x : Double) (d : Decimal) : Bool :=
  let here := x.unitsOfDecimal d
  let low := x.unitsOfQuarters d (4 * x.significand - x.reachBelow)
  let high := x.unitsOfQuarters d (4 * x.significand + reachAbove)
  if x.significand % 2 = 0 then low ≤ here && here ≤ high else low < here && here < high

-- How far a decimal is from the number.
def distance (x : Double) (d : Decimal) : Nat :=
  let here := x.unitsOfDecimal d
  let exact := x.unitsOfQuarters d (4 * x.significand)
  (here - exact) + (exact - here)

-- The power of ten of the first digit.
def leadingExponent (x : Double) : Int :=
  if x.denominator ≤ x.numerator then
    (Nat.toDigits 10 (x.numerator / x.denominator)).length - 1
  else
    match (List.range 400).find? fun k => x.denominator ≤ x.numerator * Nat.pow 10 k with
    | some k => -k
    | none => 0

-- The two decimals next to the number whose last digit stands for a given power of ten.
def neighbours (x : Double) (exponent : Int) : Decimal × Decimal :=
  let one : Decimal := ⟨1, exponent⟩
  let n := x.unitsOfQuarters one (4 * x.significand) / x.unitsOfDecimal one
  (⟨n, exponent⟩, ⟨n + 1, exponent⟩)

-- The nearer one of two neighbours, and the even one if both are equally near.
def nearer (x : Double) (below above : Decimal) : Decimal :=
  match compare (x.distance below) (x.distance above) with
  | .lt => below
  | .eq => if below.digits % 2 = 0 then below else above
  | .gt => above

-- The decimal of so many digits that stands for the number, if there is one.
def decimalOf (x : Double) (count : Nat) : Option Decimal :=
  let (below, above) := x.neighbours (x.leadingExponent + 1 - count)
  match x.isDecimal below, x.isDecimal above with
  | true, true => some (x.nearer below above)
  | true, false => some below
  | false, true => some above
  | false, false => none

-- Seventeen digits are always enough.
def shortest (x : Double) : Decimal :=
  ((List.range 17).findSome? fun n => x.decimalOf (n + 1)).getD ⟨0, 0⟩

def dropZeros (digits : List Char) : List Char :=
  (digits.reverse.dropWhile (· = '0')).reverse

def zeros (n : Nat) : List Char :=
  List.replicate n '0'

-- The exponents of the first digit with which a number is written without one.
def isPlainExponent (exponent : Int) : Bool :=
  -5 ≤ exponent && exponent ≤ 15

-- Digits, of which the first stands for the given power of ten, with a point among them.
def plainText (digits : List Char) (exponent : Int) : List Char :=
  if exponent < 0 then ['0', '.'] ++ zeros (-exponent - 1).toNat ++ digits
  else
    let whole := exponent.toNat + 1
    if digits.length ≤ whole then digits ++ zeros (whole - digits.length) ++ ['.', '0']
    else digits.take whole ++ ['.'] ++ digits.drop whole

-- Digits with an exponent, which has a sign and two digits at least.
def exponentText (digits : List Char) (exponent : Int) : List Char :=
  let size := Nat.toDigits 10 exponent.natAbs
  digits.take 1 ++ (if digits.length = 1 then [] else ['.'] ++ digits.drop 1) ++ ['e'] ++
    [if exponent < 0 then '-' else '+'] ++ zeros (2 - size.length) ++ size

def text (x : Double) : List Char :=
  if x.isZero then ['0', '.', '0']
  else
    let d := x.shortest
    let all := Nat.toDigits 10 d.digits
    let exponent := d.exponent + (all.length - 1 : Nat)
    let digits := dropZeros all
    if isPlainExponent exponent then plainText digits exponent else exponentText digits exponent

end ReadYourWrites.Double
