-- Decimal numerals. `readWord` reads the numerals of the naturals below 2⁶⁴, with leading zeros and
-- one leading plus sign allowed.

namespace ReadYourWrites.Text

def isDigit (c : Char) : Bool :=
  '0' ≤ c && c ≤ '9'

-- The value of a sequence of digits.
def ofDigits (cs : List Char) : Nat :=
  cs.foldl (fun n c => 10 * n + (c.toNat - '0'.toNat)) 0

-- The value of a numeral that has ASCII digits only, and one of them at least.
def readNat (cs : List Char) : Option Nat :=
  if cs ≠ [] ∧ cs.all isDigit then some (ofDigits cs) else none

-- The first integer that a word of 64 bits cannot hold.
def wordBound : Nat :=
  UInt64.size

def dropPlus : List Char → List Char
  | '+' :: cs => cs
  | cs => cs

-- The value of a numeral below 2⁶⁴.
def readWord (text : String) : Option Nat :=
  (readNat (dropPlus text.toList)).filter (· < wordBound)

end ReadYourWrites.Text
