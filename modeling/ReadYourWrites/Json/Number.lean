import ReadYourWrites.Json.Basic
import ReadYourWrites.Number.Shortest
import ReadYourWrites.Text.Numeral

-- The values of numbers in JSON texts. A whole number that a word of 64 bits holds is an integer.
-- Any other number is taken in double precision.

namespace ReadYourWrites.Json

open Text (isDigit ofDigits wordBound)

-- The leading digits of a number as far as they fit in a word of 64 bits, and the power of ten that
-- belongs to the last of them.
structure Scaled where
  significand : Nat
  exponent : Int

namespace Scaled

def digitValue (c : Char) : Nat :=
  c.toNat - '0'.toNat

-- Takes in the digits before the point. From the first one on that does not fit each digit is left
-- out and counted.
def whole (s : Scaled) : List Char → Scaled
  | [] => s
  | c :: cs =>
    let next := 10 * s.significand + digitValue c
    if next < wordBound then whole { s with significand := next } cs
    else { s with exponent := s.exponent + (c :: cs).length }

-- Takes in the digits after the point, up to the first one that does not fit.
def fraction (s : Scaled) : List Char → Scaled
  | [] => s
  | c :: cs =>
    let next := 10 * s.significand + digitValue c
    if next < wordBound then fraction ⟨next, s.exponent - 1⟩ cs else s

end Scaled

-- The power of ten that stands at the end of a number.
def exponentOf (cs : List Char) : Int :=
  match cs with
  | [] => 0
  | '-' :: cs => -(ofDigits cs : Int)
  | '+' :: cs => ofDigits cs
  | cs => ofDigits cs

-- A number in double precision, unless it is too great.
def decimal? (negative : Bool) (s : Scaled) : Option Json := do
  let x ← (← Double.ofNat s.significand).scale s.exponent
  return .decimal (.ofList ((if negative then ['-'] else []) ++ x.text))

-- The value of a number by its text.
def ofNumber? (text : List Char) : Option Json :=
  let negative := text.head? == some '-'
  let text := if negative then text.tail else text
  let digits := text.takeWhile isDigit
  let s := Scaled.whole ⟨0, 0⟩ digits
  match text.dropWhile isDigit with
  | [] =>
    if s.exponent ≠ 0 then decimal? negative s
    else if !negative then some (.integer s.significand)
    else if s.significand ≠ 0 ∧ s.significand ≤ 9_223_372_036_854_775_808 then
      some (.integer (-s.significand))
    else decimal? negative s
  | '.' :: rest =>
    let s := s.fraction (rest.takeWhile isDigit)
    let exponent := exponentOf ((rest.dropWhile isDigit).drop 1)
    decimal? negative { s with exponent := s.exponent + exponent }
  | _ :: rest => decimal? negative { s with exponent := s.exponent + exponentOf rest }

end ReadYourWrites.Json
