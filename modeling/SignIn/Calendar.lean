/-!
# The calendar

A moment is a day of the Gregorian calendar, which is carried on to all years, with a second of the
day and nanoseconds beyond it. The calendar reaches from the year -262143 to the year 262142. A
span of time is added on the clock first. The whole days that the clock does not hold are then added
to the day: within its year if they fit there, and else in the cycle of 400 years after which the
calendar repeats itself.

All of this is computed in words. A result that does not fit its word is an overflow, which stops
the program, unless the program asks whether it fits.
-/

namespace SignIn

/-! ## Words -/

/-- A result that does not fit its word. -/
structure Overflow where
  value : Int
  deriving DecidableEq

namespace Word

/-- Whether a word of so many bits, the sign among them, can hold a number. -/
def Fits (bits : Nat) (n : Int) : Prop :=
  -(Nat.pow 2 (bits - 1) : Int) ≤ n ∧ n < (Nat.pow 2 (bits - 1) : Int)

instance (bits : Nat) (n : Int) : Decidable (Fits bits n) := inferInstanceAs (Decidable (_ ∧ _))

def hold (bits : Nat) (n : Int) : Except Overflow Int :=
  if Fits bits n then .ok n else .error ⟨n⟩

def hold? (bits : Nat) (n : Int) : Option Int := if Fits bits n then some n else none

end Word

/-! ## Days -/

namespace Calendar

def firstYear : Int := -262143

def lastYear : Int := 262142

/-- The years with a leap day. -/
def IsLeap (year : Int) : Prop := year % 4 = 0 ∧ (year % 100 ≠ 0 ∨ year % 400 = 0)

instance (year : Int) : Decidable (IsLeap year) := inferInstanceAs (Decidable (_ ∧ _))

def daysIn (year : Int) : Nat := if IsLeap year then 366 else 365

def cycleDays : Nat := 146097

/-- How many leap years there are in a cycle before one of its years. -/
def leapsBefore (yearOfCycle : Nat) : Nat :=
  (yearOfCycle + 3) / 4 - (yearOfCycle + 99) / 100 + (yearOfCycle + 399) / 400

/-- The place of a day in its cycle, counted from 0. -/
def placeOf (yearOfCycle ordinal : Nat) : Nat :=
  yearOfCycle * 365 + leapsBefore yearOfCycle + ordinal - 1

/-- The year of the cycle, and the place in the year, of a day at a place in the cycle. A year
begins later than after as many times 365 days, so that the day may still be one of the year
before. -/
def ofPlace (place : Nat) : Nat × Nat :=
  let year := place / 365
  let rest := place % 365
  let leaps := leapsBefore year
  if rest < leaps then (year - 1, rest + (365 - leapsBefore (year - 1)) + 1)
  else (year, rest - leaps + 1)

end Calendar

open Calendar

/-- A day of the calendar: its year, and its place in the year, counted from 1. -/
structure Day where
  year : Int
  ordinal : Nat
  reached : firstYear ≤ year ∧ year ≤ lastYear
  inYear : 1 ≤ ordinal ∧ ordinal ≤ daysIn year
  deriving DecidableEq

namespace Day

def of? (year ordinal : Int) : Option Day :=
  if h : (firstYear ≤ year ∧ year ≤ lastYear) ∧ 1 ≤ ordinal ∧ ordinal ≤ daysIn year then
    some ⟨year, ordinal.toNat, h.1, by omega⟩
  else none

def place (d : Day) : Nat := placeOf (d.year % 400).toNat d.ordinal

def plus (d : Day) (days : Int) : Except Overflow (Option Day) :=
  match (Word.hold? 32 (d.ordinal + days)).bind (of? d.year) with
  | some day => return some day
  | none =>
    match Word.hold? 32 (d.place + days) with
    | none => return none
    | some place => do
      let cycle ← Word.hold 32 (d.year / 400 + place / cycleDays)
      let (yearOfCycle, ordinal) := ofPlace (place % cycleDays).toNat
      let firstOfCycle ← Word.hold 32 (cycle * 400)
      let year ← Word.hold 32 (firstOfCycle + yearOfCycle)
      return of? year ordinal

end Day

/-! ## Spans of time -/

/-- The longest span of time in seconds: its milliseconds fit 64 bits. -/
def Span.longest : Nat := Int64.maxValue.toInt.toNat / 1000

/-- A span of time in whole seconds, which may be negative. -/
structure Span where
  seconds : Int
  bounded : seconds.natAbs ≤ Span.longest
  deriving DecidableEq

namespace Span

/-- The span of so many seconds, if it is not too long. -/
def ofSeconds? (seconds : Int) : Option Span :=
  if h : seconds.natAbs ≤ longest then some ⟨seconds, h⟩ else none

def days (s : Span) : Int := s.seconds.tdiv 86400

end Span

/-! ## Moments -/

/-- A moment: a second of a day, and nanoseconds beyond it. -/
structure Instant where
  day : Day
  second : Fin 86400
  nanos : Fin 1000000000
  deriving DecidableEq

namespace Instant

def clock (seconds : Int) : Fin 86400 := ⟨(seconds % 86400).toNat, by omega⟩

def plus (i : Instant) (span : Span) : Except Overflow (Option Instant) := do
  let sum ← Word.hold 64 (i.second + span.seconds)
  let carried ← Word.hold 64 (sum - clock sum)
  match Span.ofSeconds? carried with
  | none => return none
  | some carried =>
    if Word.Fits 32 carried.days then
      let day ← i.day.plus carried.days
      return day.map fun day => ⟨day, clock sum, i.nanos⟩
    else return none

end Instant

/-! ## Counting from 1970 -/

/-- How many days there are from the first day of the year 0 to the first day of a year. -/
def Calendar.daysBefore (year : Int) : Int :=
  365 * year + (year + 3) / 4 - (year + 99) / 100 + (year + 399) / 400

def Day.number (d : Day) : Int := daysBefore d.year + d.ordinal - 1 - daysBefore 1970

/-- The day so many days after the first day of 1970, if the calendar reaches it. -/
def Day.ofNumber? (number : Int) : Option Day :=
  let place := number + daysBefore 1970
  let (yearOfCycle, ordinal) := ofPlace (place % cycleDays).toNat
  of? (place / cycleDays * 400 + yearOfCycle) ordinal

namespace Instant

/-- How many seconds after the beginning of 1970 a moment is. -/
def unix (i : Instant) : Int := 86400 * i.day.number + i.second

/-- The moment so many seconds and nanoseconds after the beginning of 1970, if the calendar reaches
it. -/
def ofUnix? (seconds : Int) (nanos : Nat) : Option Instant := do
  let day ← Day.ofNumber? (seconds / 86400)
  if h : nanos < 1000000000 then return ⟨day, clock seconds, ⟨nanos, h⟩⟩ else failure

def firstSecond : Int := 86400 * (daysBefore firstYear - daysBefore 1970)

def lastSecond : Int := 86400 * (daysBefore (lastYear + 1) - daysBefore 1970) - 1

end Instant

end SignIn
