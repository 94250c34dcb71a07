import SdkScout.Calendar
import SdkScout.Yaml.Fault
import SdkScout.Yaml.Schema

/-! Time stamps: a date, or a date and a time of day, with a fraction and a time zone if need be. -/

namespace SdkScout.Yaml

/-- The parts of a time stamp as they are written. -/
structure TimestampText where
  year : List Char
  month : List Char
  day : List Char
  time : Option (List Char × List Char × List Char)
  fraction : List Char
  /-- The zone: universal time, or a sign, hours and minutes. -/
  zone : Option (Option (Bool × List Char × List Char))

namespace TimestampText

open Schema

def isBlank (c : Char) : Bool := c = ' ' || c = '\t'

/-- The zone at the end of a time. -/
def zone? (cs : List Char) : Option (Option (Option (Bool × List Char × List Char))) :=
  match cs, cs.dropWhile isBlank with
  | [], _ => some none
  | _, ['Z'] => some (some none)
  | _, sign :: cs =>
    if sign = '+' ∨ sign = '-' then do
      let (hours, rest) ← digits? 1 2 cs
      match rest with
      | [] => return some (some (sign = '-', hours, []))
      | rest =>
        let (minutes, rest) ← digitsAfter? ':' 2 2 rest
        if rest = [] then return some (some (sign = '-', hours, minutes)) else none
    else none
  | _, [] => none

/-- The time of day after a date: behind a `T` or blanks. -/
def afterDate? (year month day : List Char) (cs : List Char) : Option TimestampText := do
  let rest ←
    match cs with
    | c :: rest =>
      if c = 'T' ∨ c = 't' then some rest
      else if isBlank c then some (rest.dropWhile isBlank)
      else none
    | [] => none
  let (hour, rest) ← digits? 1 2 rest
  let (minute, rest) ← digitsAfter? ':' 2 2 rest
  let (second, rest) ← digitsAfter? ':' 2 2 rest
  let (fraction, rest) :=
    match rest with
    | '.' :: cs => (cs.takeWhile Char.isDigit, cs.dropWhile Char.isDigit)
    | cs => ([], cs)
  let zone ← zone? rest
  return { year, month, day, time := some (hour, minute, second), fraction, zone }

def ofText? (cs : List Char) : Option TimestampText := do
  let (year, rest) ← digits? 4 4 cs
  let (month, rest) ← digitsAfter? '-' 1 2 rest
  let (day, rest) ← digitsAfter? '-' 1 2 rest
  if rest = [] then return { year, month, day, time := none, fraction := [], zone := none }
  else afterDate? year month day rest

/-- Whether a plain scalar is a time stamp. A date alone has all its digits. -/
def isImplicit (cs : List Char) : Bool :=
  match ofText? cs with
  | some t => t.time.isSome || (t.month.length = 2 && t.day.length = 2)
  | none => false

def fractionLength : Nat := 6

/-- Microseconds; further digits are cut off. -/
def microsecond (t : TimestampText) : Nat :=
  let digits := t.fraction.take fractionLength
  Text.natOfDigits (digits ++ List.replicate (fractionLength - digits.length) '0')

def secondsPerDay : Int := 86400

def offset (t : TimestampText) : Option Int :=
  t.zone.map fun zone =>
    match zone with
    | none => 0
    | some (negative, hours, minutes) =>
      let seconds : Int := 3600 * Text.natOfDigits hours + 60 * Text.natOfDigits minutes
      if negative then -seconds else seconds

/-- The date or the time that is written, if its parts are in range. -/
def value (t : TimestampText) : Except Fault (Date ⊕ Timestamp) :=
  let date : Date :=
    ⟨Text.natOfDigits t.year, Text.natOfDigits t.month, Text.natOfDigits t.day⟩
  match t.time with
  | none => if date.isValid then .ok (.inl date) else .error .badTimestamp
  | some (hour, minute, second) =>
    let time : Timestamp :=
      { date
        hour := Text.natOfDigits hour
        minute := Text.natOfDigits minute
        second := Text.natOfDigits second
        microsecond := t.microsecond
        offset := t.offset }
    let zoned := t.offset.all fun seconds => -secondsPerDay < seconds && seconds < secondsPerDay
    if time.isValid && zoned then .ok (.inr time) else .error .badTimestamp

end TimestampText

/-- The tag that a plain scalar has by its form. -/
def Schema.implicitTag (text : List Char) : Tag :=
  let text := dropLineEnd text
  let s := String.ofList text
  if booleans.contains s then .bool
  else if isFloat text then .float
  else if isInteger text then .int
  else if s = "<<" then .merge
  else if nulls.contains s then .null
  else if TimestampText.isImplicit text then .timestamp
  else if s = "=" then .value
  else .str

end SdkScout.Yaml
