import SdkScout.Text.Digit
import SdkScout.Yaml.Cursor

/-! Quoted scalars. Between single quotes only the quote is written twice; between double quotes there
are escapes. Line breaks are folded in both. -/

namespace SdkScout.Yaml.Quoted

/-- The escapes of one character. -/
def escaped? : Char → Option Char
  | '0' => some '\x00'
  | 'a' => some '\x07'
  | 'b' => some '\x08'
  | 't' | '\t' => some '\t'
  | 'n' => some '\n'
  | 'v' => some '\x0b'
  | 'f' => some '\x0c'
  | 'r' => some '\r'
  | 'e' => some '\x1b'
  | ' ' => some ' '
  | '"' => some '"'
  | '\\' => some '\\'
  | '/' => some '/'
  | 'N' => some '\u0085'
  | '_' => some '\u00a0'
  | 'L' => some '\u2028'
  | 'P' => some '\u2029'
  | _ => none

/-- How many hexadecimal digits an escape has. -/
def escapeLength? : Char → Option Nat
  | 'x' => some 2
  | 'u' => some 4
  | 'U' => some 8
  | _ => none

/-- The character with a number. A surrogate stands for no character and is read as U+FFFD. -/
def charOfNumber (n : Nat) : Except Fault Char :=
  if 0x10ffff < n then .error .badCharacterNumber
  else if n.isValidChar then .ok (Char.ofNat n)
  else .ok '\uFFFD'

abbrev Result := Except Fault (List Char × Cursor)

/-- The line breaks after the first one, and the blanks around them. -/
def breaks : (fuel : Nat) → Cursor → Result
  | 0, _ => .error .malformed
  | fuel + 1, c =>
    if c.atSeparator then .error .malformed
    else
      match (c.skipWhile isBlank).takeBreak with
      | ([], c) => .ok ([], c)
      | (broken, c) => (breaks fuel c).map fun (more, c) => (broken ++ more, c)

/-- The blanks and line breaks at this place. One line break becomes a space, of several the first is
dropped. -/
def blanks (c : Cursor) : Result :=
  let (spaces, c) := c.takeWhile isBlank
  if c.rest = [] then .error .malformed
  else
    match c.takeBreak with
    | ([], c) => .ok (spaces, c)
    | (first, c) => do
      let (more, c) ← breaks (c.rest.length + 1) c
      if first ≠ ['\n'] then return (first ++ more, c)
      else if more = [] then return ([' '], c)
      else return (more, c)

/-- Reads on behind the opening quote. -/
def body (double : Bool) : (fuel : Nat) → Cursor → Result
  | 0, _ => .error .malformed
  | fuel + 1, c =>
    match c.rest with
    | [] => .error .malformed
    | '\'' :: '\'' :: _ =>
      let count := if double then 1 else 2
      (body double fuel (c.skip count)).map fun (text, c) => ('\'' :: text, c)
    | '\'' :: _ =>
      if double then (body double fuel c.next).map fun (text, c) => ('\'' :: text, c)
      else .ok ([], c.next)
    | '"' :: _ =>
      if double then .ok ([], c.next)
      else (body double fuel c.next).map fun (text, c) => ('"' :: text, c)
    | '\\' :: rest =>
      if double = false then (body double fuel c.next).map fun (text, c) => ('\\' :: text, c)
      else
        match rest with
        | [] => .error .malformed
        | x :: rest =>
          match escaped? x, escapeLength? x with
          | some y, _ => (body double fuel (c.skip 2)).map fun (text, c) => (y :: text, c)
          | none, some count =>
            let digits := rest.take count
            if digits.length = count ∧ digits.all fun d => (Text.hexValue? d).isSome then do
              let y ← charOfNumber (Text.natOfDigitsIn 16 Text.hexValue? digits)
              let (text, c) ← body double fuel (c.skip (2 + count))
              return (y :: text, c)
            else .error .malformed
          | none, none =>
            if isBreak x then do
              let (folded, c) ← breaks (rest.length + 1) (c.skip 2)
              let (text, c) ← body double fuel c
              return (folded ++ text, c)
            else .error .malformed
    | x :: _ =>
      if isBlank x || isBreak x then do
        let (folded, c) ← blanks c
        let (text, c) ← body double fuel c
        return (folded ++ text, c)
      else (body double fuel c.next).map fun (text, c) => (x :: text, c)

/-- The quoted scalar whose opening quote stands at this place, and the place after it. -/
def scan (double : Bool) (c : Cursor) : Result :=
  body double (c.rest.length + 1) c.next

end SdkScout.Yaml.Quoted
