-- Dates of the calendar with a time of day, to the second. The sixtieth second of a minute counts.

namespace ReadYourWrites

structure CivilTime where
  year : Int
  month : Nat
  day : Nat
  hour : Nat
  minute : Nat
  second : Nat
deriving DecidableEq, Repr

namespace CivilTime

def isLeap (year : Int) : Bool :=
  year % 4 == 0 && (year % 100 != 0 || year % 400 == 0)

def daysIn (year : Int) (month : Nat) : Nat :=
  if month = 2 then if isLeap year then 29 else 28
  else if month = 4 ∨ month = 6 ∨ month = 9 ∨ month = 11 then 30
  else 31

def firstYear : Int :=
  -262143

def lastYear : Int :=
  262142

-- The calendar has the date, and the clock shows the time.
structure IsValid (t : CivilTime) : Prop where
  year : firstYear ≤ t.year ∧ t.year ≤ lastYear
  month : 1 ≤ t.month ∧ t.month ≤ 12
  day : 1 ≤ t.day ∧ t.day ≤ daysIn t.year t.month
  hour : t.hour ≤ 23
  minute : t.minute ≤ 59
  second : t.second ≤ 60

theorem isValid_iff (t : CivilTime) : t.IsValid ↔
    (firstYear ≤ t.year ∧ t.year ≤ lastYear) ∧ (1 ≤ t.month ∧ t.month ≤ 12) ∧
      (1 ≤ t.day ∧ t.day ≤ daysIn t.year t.month) ∧ t.hour ≤ 23 ∧ t.minute ≤ 59 ∧ t.second ≤ 60 :=
  ⟨fun h => ⟨h.year, h.month, h.day, h.hour, h.minute, h.second⟩,
    fun ⟨y, m, d, h, n, s⟩ => ⟨y, m, d, h, n, s⟩⟩

instance (t : CivilTime) : Decidable t.IsValid :=
  decidable_of_iff _ t.isValid_iff.symm

def nextDay (t : CivilTime) : CivilTime :=
  if t.day < daysIn t.year t.month then { t with day := t.day + 1 }
  else if t.month < 12 then { t with month := t.month + 1, day := 1 }
  else { t with year := t.year + 1, month := 1, day := 1 }

def previousDay (t : CivilTime) : CivilTime :=
  if 1 < t.day then { t with day := t.day - 1 }
  else if 1 < t.month then { t with month := t.month - 1, day := daysIn t.year (t.month - 1) }
  else { t with year := t.year - 1, month := 12, day := 31 }

def withMinuteOfDay (t : CivilTime) (minutes : Int) : CivilTime :=
  { t with hour := minutes.toNat / 60, minute := minutes.toNat % 60 }

-- Moves a local time that is `offset` minutes ahead of UTC to UTC. Less than a day lies between.
def toUtc (t : CivilTime) (offset : Int) : CivilTime :=
  let minutes : Int := t.hour * 60 + t.minute - offset
  if minutes < 0 then t.previousDay.withMinuteOfDay (minutes + 1440)
  else if 1440 ≤ minutes then t.nextDay.withMinuteOfDay (minutes - 1440)
  else t.withMinuteOfDay minutes

end CivilTime

end ReadYourWrites
