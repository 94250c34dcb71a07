import SdkScout.Text.Digit
import SdkScout.Text.Utf8
import SdkScout.Yaml.Cursor
import SdkScout.Yaml.Token

/-! What stands before a node or a document: anchors, aliases, tags and directives. Each scanner
returns nothing if the text is not well formed, else what it read and the place after it. -/

namespace SdkScout.Yaml.Property

def isWordChar (c : Char) : Bool :=
  c.isAlphanum || c = '-' || c = '_'

/-- The characters that a tag may be spelled with; a percent sign starts an escaped byte. -/
def isTagChar (c : Char) : Bool :=
  c.isAlphanum || "-;/?:@&=+$,_.!~*'()[]%".toList.contains c

/-- The name of an anchor or an alias, whose indicator stands at this place. -/
def name? (c : Cursor) : Option (String × Cursor) :=
  let (name, c) := c.next.takeWhile isWordChar
  let marks := ['?', ':', ',', ']', '}', '%', '@', '\x60']
  let ended := startsBlank c.rest || c.rest.head?.any marks.contains
  if name ≠ [] ∧ ended then some (String.ofList name, c) else none

/-- A run of escaped bytes, which has to be well-formed UTF-8. -/
def escapes? : (fuel : Nat) → Cursor → Option (List UInt8 × Cursor)
  | 0, _ => none
  | fuel + 1, c =>
    match c.rest with
    | '%' :: a :: b :: _ => do
      let high ← Text.hexValue? a
      let low ← Text.hexValue? b
      let (bytes, c) ← escapes? fuel (c.skip 3)
      return (.ofNat (16 * high + low) :: bytes, c)
    | '%' :: _ => none
    | _ => some ([], c)

/-- Pieces of plain characters and of escaped bytes in turn. -/
def pieces? : (fuel : Nat) → Cursor → Option (List Char × Cursor)
  | 0, _ => none
  | fuel + 1, c => do
    let (plain, c) := c.takeWhile fun x => isTagChar x && x ≠ '%'
    if c.rest.head? = some '%' then
      let (bytes, c) ← escapes? (c.rest.length + 1) c
      let text ← Text.Utf8.decode? bytes
      let (more, c) ← pieces? fuel c
      return (plain ++ text ++ more, c)
    else return (plain, c)

/-- The spelling of a tag, which is not empty. -/
def spelling? (c : Cursor) : Option (String × Cursor) := do
  let (text, after) ← pieces? (c.rest.length + 1) c
  if after.index = c.index then none else return (String.ofList text, after)

/-- A handle: an exclamation mark, or a word between two. -/
def handle? (c : Cursor) : Option (String × Cursor) :=
  match c.rest with
  | '!' :: ' ' :: _ => some ("!", c.next)
  | '!' :: _ =>
    let (word, after) := c.next.takeWhile isWordChar
    if after.rest.head? = some '!' then
      some (String.ofList ('!' :: word ++ ['!']), after.next)
    else none
  | _ => none

/-- The handle of a tag that is not verbatim: a second exclamation mark in the word ends it. -/
def tagHandle? (c : Cursor) : Option (String × Cursor) :=
  let word := (c.rest.drop 1).takeWhile fun x => x ≠ ' ' ∧ isBreak x = false
  if word.contains '!' then handle? c else some ("!", c.next)

/-- A tag, whose exclamation mark stands at this place. -/
def tag? (c : Cursor) : Option (Token × Cursor) := do
  let (token, c) ←
    match c.rest.drop 1 with
    | '<' :: _ => do
      let (suffix, c) ← spelling? (c.skip 2)
      if c.rest.head? = some '>' then some (Token.tag none suffix, c.next) else none
    | rest =>
      if startsBlank rest then some (Token.tag none "!", c.next)
      else do
        let (handle, c) ← tagHandle? c
        let (suffix, c) ← spelling? c
        some (Token.tag (some handle) suffix, c)
  if startsSpace c.rest then some (token, c) else none

def number? (c : Cursor) : Option (Nat × Cursor) :=
  let (digits, c) := c.takeWhile Char.isDigit
  if digits = [] then none else some (Text.natOfDigits digits, c)

/-- The two numbers of a version directive. -/
def version? (c : Cursor) : Option (Directive × Cursor) := do
  let (major, c) ← number? (c.skipWhile isSpace)
  if c.rest.head? = some '.' then
    let (_, c) ← number? c.next
    if startsSpace c.rest then some (.version major, c) else none
  else none

/-- A tag directive: a handle and what it stands for. -/
def expansion? (c : Cursor) : Option (Directive × Cursor) := do
  let (handle, c) ← handle? (c.skipWhile isSpace)
  if c.rest.head? = some ' ' then
    let (expansion, c) ← spelling? (c.skipWhile isSpace)
    if startsSpace c.rest then some (.tag handle expansion, c) else none
  else none

/-- A directive, whose percent sign stands at this place. One of an unknown name is passed over. -/
def directive? (c : Cursor) : Option (Directive × Cursor) := do
  let (name, c) := c.next.takeWhile isWordChar
  if name = [] ∨ startsSpace c.rest = false then none
  else
    let (directive, c) ←
      if name = "YAML".toList then version? c
      else if name = "TAG".toList then expansion? c
      else some (.other, c.skipLine)
    let c := c.skipWhile isSpace
    let c := if c.rest.head? = some '#' then c.skipLine else c
    if c.atLineEnd then some (directive, c.takeBreak.2) else none

end SdkScout.Yaml.Property
