import SdkScout.Yaml.Cursor

/-! Block scalars: the indented lines below a header, kept as they are or folded. -/

namespace SdkScout.Yaml.Block

/-- What happens to the line breaks at the end. -/
inductive Chomping
  | strip
  | clip
  | keep
  deriving DecidableEq, Repr

structure Header where
  chomping : Chomping
  increment : Option Nat

def chomping? : Char → Option Chomping
  | '+' => some .keep
  | '-' => some .strip
  | _ => none

def digit? (c : Char) : Option Nat :=
  if c.isDigit then some (c.toNat - '0'.toNat) else none

/-- Chomping and indentation in either order, each of which may be missing; and how many characters
they take up. -/
def header (cs : List Char) : Header × Nat :=
  match cs[0]?.bind chomping?, cs[0]?.bind digit? with
  | some chomping, _ =>
    match cs[1]?.bind digit? with
    | some n => (⟨chomping, some n⟩, 2)
    | none => (⟨chomping, none⟩, 1)
  | none, some n =>
    match cs[1]?.bind chomping? with
    | some chomping => (⟨chomping, some n⟩, 2)
    | none => (⟨.clip, some n⟩, 1)
  | none, none => (⟨.clip, none⟩, 0)

/-- The rest of the header's line: spaces and a comment. -/
def afterHeader? (c : Cursor) : Option Cursor :=
  let c := c.skipWhile isSpace
  let c := if c.rest.head? = some '#' then c.skipLine else c
  if c.atLineEnd then some c.takeBreak.2 else none

/-- The empty lines before the text: their breaks, the greatest column reached, and the place after
them. -/
def leading : (fuel : Nat) → (column : Nat) → Cursor → List Char × Nat × Cursor
  | 0, column, c => ([], column, c)
  | fuel + 1, column, c =>
    let c := c.skipWhile isSpace
    let column := max column c.column
    match c.takeBreak with
    | ([], c) => ([], column, c)
    | (broken, c) =>
      let (breaks, column, c) := leading fuel column c
      (broken ++ breaks, column, c)

/-- Skips at most as many spaces as lead to a column. -/
def indentTo (column : Nat) (c : Cursor) : Cursor :=
  c.skip (min (column - c.column) (c.rest.takeWhile isSpace).length)

/-- The empty lines after a line, and the place where the next one may start. -/
def emptyLines (column : Nat) : (fuel : Nat) → Cursor → List Char × Cursor
  | 0, c => ([], c)
  | fuel + 1, c =>
    match (indentTo column c).takeBreak with
    | ([], c) => ([], c)
    | (broken, c) =>
      let (breaks, c) := emptyLines column fuel c
      (broken ++ breaks, c)

/-- The lines from this place on. A break between two lines that both start with something else than a
blank is folded to a space, or to the empty lines that follow it. -/
def lines (folded : Bool) (chomping : Chomping) (column : Nat) : (fuel : Nat) →
    (breaks : List Char) → Cursor → List Char × Cursor
  | 0, _, c => ([], c)
  | fuel + 1, breaks, c =>
    let solid (c : Cursor) : Bool := !(c.rest.head?.any isBlank)
    let started := solid c
    let (text, c) := c.takeWhile (!isBreak ·)
    let (broken, c) := c.takeBreak
    let (empty, c) := emptyLines column (c.rest.length + 1) c
    if c.column = column ∧ c.rest ≠ [] then
      let joint :=
        if folded ∧ broken = ['\n'] ∧ started ∧ solid c then
          if empty = [] then [' '] else []
        else broken
      let (more, c) := lines folded chomping column fuel empty c
      (breaks ++ text ++ joint ++ more, c)
    else
      let ending := match chomping with
        | .strip => []
        | .clip => broken
        | .keep => broken ++ empty
      (breaks ++ text ++ ending, c)

/-- The block scalar whose indicator stands at this place, in a collection at column `indent`. -/
def scan (folded : Bool) (indent : Int) (c : Cursor) : Except Fault (List Char × Cursor) :=
  let c := c.next
  let (header, count) := header c.rest
  let c := c.skip count
  if header.increment = some 0 ∨ startsSpace c.rest = false then .error .malformed
  else
    match afterHeader? c with
    | none => .error .malformed
    | some c =>
      let least := (max (indent + 1) 1).toNat
      let (breaks, column, c) :=
        match header.increment with
        | none =>
          let (breaks, column, c) := leading (c.rest.length + 1) 0 c
          (breaks, max least column, c)
        | some increment =>
          let column := least + increment - 1
          let (breaks, c) := emptyLines column (c.rest.length + 1) c
          (breaks, column, c)
      if c.column = column ∧ c.rest ≠ [] then
        .ok (lines folded header.chomping column (c.rest.length + 1) breaks c)
      else .ok (if header.chomping = .keep then breaks else [], c)

end SdkScout.Yaml.Block
