import ReadYourWrites.Text.Blank
import ReadYourWrites.Text.Numeral
import ReadYourWrites.Time.Civil

-- Points in time to the second, in UTC. They are read from RFC 3339 texts, loosely: numbers may
-- have fewer digits, white space may stand around them, and a space may stand for the letter T. A
-- time with another offset is moved to UTC, a fraction of a second is cut off, and second 60 is
-- kept.

namespace ReadYourWrites

structure Timestamp where
  time : CivilTime
  valid : time.IsValid
deriving DecidableEq, Repr

namespace Timestamp

open Text (isDigit ofDigits trimStart)

def ofCivil? (time : CivilTime) : Option Timestamp :=
  if valid : time.IsValid then some ⟨time, valid⟩ else none

-- A number of one digit at least and `most` digits at most, and what follows it.
def scanNumber (most : Nat) (cs : List Char) : Option (Nat × List Char) :=
  let digits := (cs.take most).takeWhile isDigit
  if digits = [] then none else some (ofDigits digits, cs.drop digits.length)

-- A year. With a sign it may have any number of digits.
def scanYear (cs : List Char) : Option (Int × List Char) :=
  match trimStart cs with
  | '-' :: cs => (scanNumber cs.length cs).map fun (n, cs) => (-(n : Int), cs)
  | '+' :: cs => (scanNumber cs.length cs).map fun (n, cs) => ((n : Int), cs)
  | cs => (scanNumber 4 cs).map fun (n, cs) => ((n : Int), cs)

-- A number of two digits at most, after white space.
def scanPart (cs : List Char) : Option (Nat × List Char) :=
  scanNumber 2 (trimStart cs)

-- A mark after white space.
def scanMark (mark : Char) (cs : List Char) : Option (List Char) :=
  match trimStart cs with
  | c :: cs => if c = mark then some cs else none
  | [] => none

-- The letter T or a space between date and time.
def scanMiddle : List Char → Option (List Char)
  | c :: cs => if c = 'T' ∨ c = 't' ∨ c = ' ' then some cs else none
  | [] => none

-- A fraction of a second, which need not be there.
def scanFraction : List Char → Option (List Char)
  | '.' :: cs => if cs.takeWhile isDigit = [] then none else some (cs.dropWhile isDigit)
  | cs => some cs

def dropSeparators (cs : List Char) : List Char :=
  cs.dropWhile fun c => c = ':' || Text.isBlank c

def hoursAndMinutes (cs : List Char) : Option (Nat × List Char) :=
  match cs with
  | a :: b :: rest =>
    match dropSeparators rest with
    | c :: d :: rest =>
      let hours := ofDigits [a, b]
      let minutes := ofDigits [c, d]
      if [a, b, c, d].all isDigit ∧ minutes ≤ 59 ∧ hours ≤ 23 then
        some (hours * 60 + minutes, rest)
      else none
    | _ => none
  | _ => none

-- The minutes by which a local time is ahead of UTC.
def scanOffset (cs : List Char) : Option (Int × List Char) :=
  match cs with
  | 'Z' :: cs | 'z' :: cs => some (0, cs)
  | '+' :: cs => (hoursAndMinutes cs).map fun (n, cs) => ((n : Int), cs)
  | '-' :: cs | '\u2212' :: cs => (hoursAndMinutes cs).map fun (n, cs) => (-(n : Int), cs)
  | cs => if (cs.take 3).map Char.toUpper = ['U', 'T', 'C'] then some (0, cs.drop 3) else none

def read (text : String) : Option Timestamp := do
  let (year, cs) ← scanYear text.toList
  let (month, cs) ← scanPart (← scanMark '-' cs)
  let (day, cs) ← scanPart (← scanMark '-' cs)
  let (hour, cs) ← scanPart (← scanMiddle cs)
  let (minute, cs) ← scanPart (← scanMark ':' cs)
  let (second, cs) ← scanPart (← scanMark ':' cs)
  let (offset, cs) ← scanOffset (trimStart (← scanFraction cs))
  guard (trimStart cs).isEmpty
  let here ← ofCivil? { year, month, day, hour, minute, second }
  ofCivil? (here.time.toUtc offset)

def padded (places n : Nat) : String :=
  let digits := Nat.toDigits 10 n
  .ofList (List.replicate (places - digits.length) '0' ++ digits)

-- Years of more than four digits, and years before zero, are written with a sign.
def yearText (year : Int) : String :=
  if year < 0 then "-" ++ padded 4 year.natAbs
  else if 9999 < year then "+" ++ padded 4 year.natAbs
  else padded 4 year.natAbs

def text (t : Timestamp) : String :=
  yearText t.time.year ++ "-" ++ padded 2 t.time.month ++ "-" ++ padded 2 t.time.day ++ "T" ++
    padded 2 t.time.hour ++ ":" ++ padded 2 t.time.minute ++ ":" ++ padded 2 t.time.second ++ "Z"

end Timestamp

end ReadYourWrites
