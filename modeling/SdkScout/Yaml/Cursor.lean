import SdkScout.Yaml.Fault

/-! A place in a YAML text: the characters that follow, and how many characters, lines and columns lie
before. A line break is a line feed, a next line character, or a line or paragraph separator. -/

namespace SdkScout.Yaml

def isBreak (c : Char) : Bool :=
  c = '\n' || c = '\u0085' || c = '\u2028' || c = '\u2029'

def isSpace (c : Char) : Bool := c = ' '

/-- Spaces and tabs. -/
def isBlank (c : Char) : Bool := c = ' ' || c = '\t'

/-- Whether the characters start with a blank or a line break, or there are none. -/
def startsBlank : List Char → Bool
  | [] => true
  | c :: _ => isBlank c || isBreak c

/-- Whether the characters start with a space or a line break, or there are none. -/
def startsSpace : List Char → Bool
  | [] => true
  | c :: _ => isSpace c || isBreak c

/-- Whether the characters start with a line break, or there are none. -/
def endsLine : List Char → Bool
  | [] => true
  | c :: _ => isBreak c

structure Cursor where
  rest : List Char
  index : Nat
  line : Nat
  column : Nat
  deriving DecidableEq, Repr

namespace Cursor

def start (text : List Char) : Cursor := ⟨text, 0, 0, 0⟩

/-- The place after the next character. A byte order mark takes up no column. -/
def next (c : Cursor) : Cursor :=
  match c.rest with
  | [] => c
  | x :: rest =>
    if isBreak x then ⟨rest, c.index + 1, c.line + 1, 0⟩
    else if x = '\uFEFF' then ⟨rest, c.index + 1, c.line, c.column⟩
    else ⟨rest, c.index + 1, c.line, c.column + 1⟩

def skip : Nat → Cursor → Cursor
  | 0, c => c
  | n + 1, c => skip n c.next

/-- The longest run of characters with a property, and the place after it. -/
def takeWhile (p : Char → Bool) (c : Cursor) : List Char × Cursor :=
  let run := c.rest.takeWhile p
  (run, c.skip run.length)

def skipWhile (p : Char → Bool) (c : Cursor) : Cursor :=
  (c.takeWhile p).2

def atLineEnd (c : Cursor) : Bool := endsLine c.rest

/-- The end of the line. -/
def skipLine (c : Cursor) : Cursor :=
  c.skipWhile (!isBreak ·)

/-- What a line break stands for in a text: a separator for itself, any other for a line feed. -/
def breakText (x : Char) : Char :=
  if x = '\u2028' ∨ x = '\u2029' then x else '\n'

/-- The line break at this place, if there is one. -/
def takeBreak (c : Cursor) : List Char × Cursor :=
  match c.rest with
  | x :: _ => if isBreak x then ([breakText x], c.next) else ([], c)
  | [] => ([], c)

/-- Whether a line starts here that separates documents. -/
def atSeparator (c : Cursor) : Bool :=
  (["---".toList, "...".toList].any (·.isPrefixOf c.rest)) && startsBlank (c.rest.drop 3)

end Cursor

end SdkScout.Yaml
