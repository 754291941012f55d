-- Lengths of time in nanoseconds, and how they are written: in the largest of the units s, ms, µs
-- and ns that the length reaches, with no trailing zeros after the point.

namespace ReadYourWrites

structure Span where
  nanos : Nat
deriving DecidableEq, Repr

namespace Span

def ofSeconds (n : Nat) : Span :=
  ⟨n * 1_000_000_000⟩

def ofMillis (n : Nat) : Span :=
  ⟨n * 1_000_000⟩

-- The least number of whole milliseconds that is not shorter.
def millis (s : Span) : Nat :=
  (s.nanos + 999_999) / 1_000_000

-- The longer of two.
def max (a b : Span) : Span :=
  ⟨Max.max a.nanos b.nanos⟩

-- `n` hundredths, thousandths and so on as digits: `places` of them, less the trailing zeros.
def fraction (places n : Nat) : List Char :=
  let digits := Nat.toDigits 10 n
  let padded := List.replicate (places - digits.length) '0' ++ digits
  (padded.reverse.dropWhile (· = '0')).reverse

def inUnit (s : Span) (places : Nat) (name : String) : String :=
  let unit := Nat.pow 10 places
  let rest := fraction places (s.nanos % unit)
  toString (s.nanos / unit) ++ (if rest = [] then "" else "." ++ .ofList rest) ++ name

def text (s : Span) : String :=
  if 1_000_000_000 ≤ s.nanos then s.inUnit 9 "s"
  else if 1_000_000 ≤ s.nanos then s.inUnit 6 "ms"
  else if 1_000 ≤ s.nanos then s.inUnit 3 "µs"
  else s.inUnit 0 "ns"

end Span

end ReadYourWrites
