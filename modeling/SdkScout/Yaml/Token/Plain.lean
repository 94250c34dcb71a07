import SdkScout.Yaml.Cursor

/-! Plain scalars: texts without quotes, which end where something else may begin. Over several lines
their line breaks are folded. -/

namespace SdkScout.Yaml.Plain

/-- Whether a colon before these characters is an indicator. -/
def endsKey (inFlow : Bool) (cs : List Char) : Bool :=
  startsBlank cs || (inFlow && cs.head?.any fun c => [',', '[', ']', '{', '}'].contains c)

/-- The characters up to a blank, a line break or an indicator. -/
def word (inFlow : Bool) : List Char → List Char
  | [] => []
  | c :: cs =>
    if isBlank c || isBreak c || (c = ':' && endsKey inFlow cs) ||
        (inFlow && [',', '?', '[', ']', '{', '}'].contains c) then []
    else c :: word inFlow cs

/-- Spaces and line breaks up to something else or to a line that separates documents: the breaks, the
place after them, and whether such a line was met. -/
def blankLines : (fuel : Nat) → Cursor → List Char × Cursor × Bool
  | 0, c => ([], c, false)
  | fuel + 1, c =>
    let c := c.skipWhile isSpace
    match c.takeBreak with
    | ([], c) => ([], c, false)
    | (broken, c) =>
      if c.atSeparator then (broken, c, true)
      else
        let (breaks, c, separated) := blankLines fuel c
        (broken ++ breaks, c, separated)

/-- What stands between two words. -/
structure Gap where
  text : List Char
  cursor : Cursor
  /-- Whether a line ended in the gap. -/
  newLine : Bool

/-- The blanks after a word. One line break becomes a space, of several the first is dropped; before a
line that separates documents nothing is left. -/
def gap (c : Cursor) : Gap :=
  let (spaces, c) := c.takeWhile isSpace
  match c.takeBreak with
  | ([], c) => ⟨spaces, c, false⟩
  | (first, c) =>
    if c.atSeparator then ⟨[], c, true⟩
    else
      let (breaks, c, separated) := blankLines (c.rest.length + 1) c
      if separated then ⟨[], c, true⟩
      else if first ≠ ['\n'] then ⟨first ++ breaks, c, true⟩
      else if breaks = [] then ⟨[' '], c, true⟩
      else ⟨breaks, c, true⟩

/-- A plain scalar: its text, the place after it and the blanks that follow, and whether the last of
these held a line break. -/
structure Scan where
  text : List Char
  cursor : Cursor
  newLine : Bool

/-- Reads words and the gaps between them. In block context a word has to stand to the right of the
collection around it. -/
def words (inFlow : Bool) (indent : Int) : (fuel : Nat) → (between : List Char) →
    (newLine : Bool) → Cursor → Scan
  | 0, _, newLine, c => ⟨[], c, newLine⟩
  | fuel + 1, between, newLine, c =>
    let text := if c.rest.head? = some '#' then [] else word inFlow c.rest
    if text = [] then ⟨[], c, newLine⟩
    else
      let gap := gap (c.skip text.length)
      if gap.text = [] ∨ gap.cursor.rest.head? = some '#' ∨
          (inFlow = false ∧ (gap.cursor.column : Int) < indent) then
        ⟨between ++ text, gap.cursor, gap.newLine⟩
      else
        let more := words inFlow indent fuel gap.text gap.newLine gap.cursor
        { more with text := between ++ text ++ more.text }

/-- The plain scalar at this place, in a collection that starts at column `indent - 1`. -/
def scan (inFlow : Bool) (indent : Int) (c : Cursor) : Scan :=
  words inFlow indent (c.rest.length + 1) [] false c

end SdkScout.Yaml.Plain
