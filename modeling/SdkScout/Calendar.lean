import SdkScout.Text.Digit

/-! Dates of the proleptic Gregorian calendar from year 1 to 9999, and times of day on them. -/

namespace SdkScout

structure Date where
  year : Nat
  month : Nat
  day : Nat
  deriving DecidableEq, Repr

namespace Date

def isLeap (year : Nat) : Bool :=
  year % 4 = 0 && (year % 100 ≠ 0 || year % 400 = 0)

def daysInMonth (year month : Nat) : Nat :=
  if month = 2 then if isLeap year then 29 else 28
  else if month = 4 ∨ month = 6 ∨ month = 9 ∨ month = 11 then 30
  else 31

def isValid (d : Date) : Bool :=
  1 ≤ d.year && d.year ≤ 9999 && 1 ≤ d.month && d.month ≤ 12 && 1 ≤ d.day &&
    d.day ≤ daysInMonth d.year d.month

def daysBeforeYear (year : Nat) : Nat :=
  let y := year - 1
  y * 365 + y / 4 - y / 100 + y / 400

def daysBeforeMonth (year month : Nat) : Nat :=
  (List.range (month - 1)).foldl (fun days i => days + daysInMonth year (i + 1)) 0

/-- The number of the day, counted from 1 January of year 1 as day 1. -/
def ordinal (d : Date) : Nat :=
  daysBeforeYear d.year + daysBeforeMonth d.year d.month + d.day

/-- The day number of 31 December 9999. -/
def lastOrdinal : Nat := 3652059

/-- The date with a given day number, if it lies in the supported years. -/
def ofOrdinal? (n : Nat) : Option Date :=
  if n = 0 ∨ lastOrdinal < n then none
  else
    let guess := n / 366 + 1
    ((List.range (guess / 365 + 3)).map (guess + ·)).findSome? fun year =>
      if year ≤ 9999 ∧ daysBeforeYear year < n ∧ n ≤ daysBeforeYear (year + 1) then
        (List.range 12).findSome? fun i =>
          let day := n - daysBeforeYear year - daysBeforeMonth year (i + 1)
          let date : Date := ⟨year, i + 1, day⟩
          if date.isValid ∧ date.ordinal = n then some date else none
      else none

end Date

/-- A time on a date, with the distance from universal time in seconds if it is known. -/
structure Timestamp where
  date : Date
  hour : Nat
  minute : Nat
  second : Nat
  microsecond : Nat
  offset : Option Int
  deriving DecidableEq, Repr

namespace Timestamp

def isValid (t : Timestamp) : Bool :=
  t.date.isValid && t.hour < 24 && t.minute < 60 && t.second < 60 && t.microsecond < 1000000

def secondsOfDay (t : Timestamp) : Nat :=
  3600 * t.hour + 60 * t.minute + t.second

/-- Microseconds since the day before 1 January of year 1, in universal time if the offset is
known. -/
def instant (t : Timestamp) : Int :=
  ((t.date.ordinal * 86400 + t.secondsOfDay : Nat) - t.offset.getD 0) * 1000000 + t.microsecond

def ofInstant? (microseconds : Int) : Option Timestamp :=
  if microseconds < 0 then none
  else
    let n := microseconds.toNat
    let seconds := n / 1000000
    (Date.ofOrdinal? (seconds / 86400)).map fun date =>
      { date
        hour := seconds % 86400 / 3600
        minute := seconds % 3600 / 60
        second := seconds % 60
        microsecond := n % 1000000
        offset := none }

end Timestamp

/-- Decimal digits with leading zeros up to a width. -/
def padded (width n : Nat) : String :=
  let digits := Text.digitsOfNat n
  String.ofList (List.replicate (width - digits.length) '0' ++ digits)

def Date.text (d : Date) : String :=
  padded 4 d.year ++ "-" ++ padded 2 d.month ++ "-" ++ padded 2 d.day

/-- Hours and minutes, and seconds if there are any. -/
def offsetText (seconds : Int) : String :=
  let n := seconds.natAbs
  (if seconds < 0 then "-" else "+") ++ padded 2 (n / 3600) ++ ":" ++ padded 2 (n % 3600 / 60) ++
    (if n % 60 = 0 then "" else ":" ++ padded 2 (n % 60))

/-- Date and time with a given separator; microseconds and offset only if there are any. -/
def Timestamp.text (separator : String) (t : Timestamp) : String :=
  t.date.text ++ separator ++ padded 2 t.hour ++ ":" ++ padded 2 t.minute ++ ":" ++
    padded 2 t.second ++ (if t.microsecond = 0 then "" else "." ++ padded 6 t.microsecond) ++
    (t.offset.map offsetText).getD ""

end SdkScout
