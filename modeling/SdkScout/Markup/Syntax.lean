import SdkScout.Text.Digit

/-! The small parts of XML: characters, names, references, attributes and declarations. A reader
returns what it read and the characters after it, or nothing if they are not well formed. -/

namespace SdkScout.Markup

/-- White space of the markup itself. -/
def isSpace (c : Char) : Bool :=
  c = ' ' || c = '\t' || c = '\r' || c = '\n'

/-- The characters that a document may hold. -/
def isAllowed (c : Char) : Bool :=
  isSpace c || (0x20 ≤ c.toNat && c.toNat ≠ 0xfffe && c.toNat ≠ 0xffff)

/-- The first and the last of each run of characters beyond ASCII that a name may start with. -/
def nameStartRanges : List (Nat × Nat) :=
  [(0xc0, 0xd6), (0xd8, 0xf6), (0xf8, 0x2ff), (0x370, 0x37d), (0x37f, 0x1fff), (0x200c, 0x200d),
    (0x2070, 0x218f), (0x2c00, 0x2fef), (0x3001, 0xd7ff), (0xf900, 0xfdcf), (0xfdf0, 0xfffd)]

/-- Those of the characters beyond ASCII that may only follow in a name. -/
def nameRestRanges : List (Nat × Nat) :=
  [(0xb7, 0xb7), (0x300, 0x36f), (0x203f, 0x2040)]

def isIn (ranges : List (Nat × Nat)) (c : Char) : Bool :=
  ranges.any fun (first, last) => first ≤ c.toNat && c.toNat ≤ last

def isNameStart (c : Char) : Bool :=
  c.isAlpha || c = '_' || c = ':' || (isIn nameStartRanges c && c ≠ '\uFEFF')

def isNameChar (c : Char) : Bool :=
  isNameStart c || c.isDigit || c = '-' || c = '.' || isIn nameRestRanges c

def skipSpace (cs : List Char) : List Char :=
  cs.dropWhile isSpace

/-- What stands after a prefix. -/
def after? (start cs : List Char) : Option (List Char) :=
  if start.isPrefixOf cs then some (cs.drop start.length) else none

/-- Splits at the first occurrence of a text, which belongs to neither side. -/
def splitAt? (mark : List Char) : List Char → Option (List Char × List Char)
  | [] => if mark = [] then some ([], []) else none
  | c :: cs =>
    match after? mark (c :: cs) with
    | some rest => some ([], rest)
    | none => (splitAt? mark cs).map fun (before, rest) => (c :: before, rest)

def name? (cs : List Char) : Option (List Char × List Char) :=
  match cs with
  | c :: _ => if isNameStart c then some (cs.takeWhile isNameChar, cs.dropWhile isNameChar) else none
  | [] => none

/-- A text in quotes of either kind. -/
def quoted? : List Char → Option (List Char × List Char)
  | q :: cs => if q = '"' ∨ q = '\'' then splitAt? [q] cs else none
  | [] => none

/-- Every line break is one line feed. -/
def normalizeLines : List Char → List Char
  | '\r' :: '\n' :: cs => '\n' :: normalizeLines cs
  | '\r' :: cs => '\n' :: normalizeLines cs
  | c :: cs => c :: normalizeLines cs
  | [] => []

def predefined? (name : List Char) : Option Char :=
  if name = "lt".toList then some '<'
  else if name = "gt".toList then some '>'
  else if name = "amp".toList then some '&'
  else if name = "apos".toList then some '\''
  else if name = "quot".toList then some '"'
  else none

/-- The character with a number, if a document may hold it. -/
def charOfNumber? (n : Nat) : Option Char :=
  if h : n.isValidChar then
    let c : Char := ⟨n.toUInt32, by
      have hn : n < UInt32.size := by
        have := h; unfold Nat.isValidChar at this; unfold UInt32.size; omega
      simpa [UInt32.isValidChar, Nat.toUInt32, UInt32.toNat_ofNat_of_lt' hn] using h⟩
    if isAllowed c then some c else none
  else none

/-- A reference after its ampersand: a character, or nothing where an entity may be skipped because
its declaration may stand outside of the document. -/
def reference? (lenient : Bool) : List Char → Option (Option Char × List Char)
  | '#' :: 'x' :: cs =>
    let digits := cs.takeWhile fun c => (Text.hexValue? c).isSome
    if digits = [] then none
    else do
      let rest ← after? [';'] (cs.drop digits.length)
      let c ← charOfNumber? (Text.natOfDigitsIn 16 Text.hexValue? digits)
      return (some c, rest)
  | '#' :: cs =>
    let digits := cs.takeWhile Char.isDigit
    if digits = [] then none
    else do
      let rest ← after? [';'] (cs.drop digits.length)
      let c ← charOfNumber? (Text.natOfDigits digits)
      return (some c, rest)
  | cs => do
    let (name, rest) ← name? cs
    let rest ← after? [';'] rest
    match predefined? name with
    | some c => return (some c, rest)
    | none => if lenient then return (none, rest) else none

/-- Whether a text is a well-formed attribute value. -/
def isAttributeText (lenient : Bool) : List Char → Bool
  | [] => true
  | '&' :: cs => (reference? lenient cs).isSome && isAttributeText lenient cs
  | c :: cs => isAllowed c && c ≠ '<' && isAttributeText lenient cs

/-- The attributes of a start tag after its name: whether the tag ends the element as well, and the
characters after the tag. -/
def attributes? (lenient : Bool) (seen : List (List Char)) :
    (fuel : Nat) → List Char → Option (Bool × List Char)
  | 0, _ => none
  | fuel + 1, cs =>
    match skipSpace cs with
    | '>' :: rest => some (false, rest)
    | '/' :: '>' :: rest => some (true, rest)
    | body =>
      if body.length = cs.length then none
      else do
        let (name, rest) ← name? body
        let rest ← after? ['='] (skipSpace rest)
        let (value, rest) ← quoted? (skipSpace rest)
        if seen.contains name || !isAttributeText lenient value then none
        else attributes? lenient (name :: seen) fuel rest

/-- What an XML declaration says. -/
structure Declaration where
  encoding : Option (List Char)
  standalone : Bool

def isDeclarationChar (c : Char) : Bool :=
  (c.isAlphanum && c.toNat < 0x80) || c = '.' || c = '-' || c = '_'

/-- An attribute of a declaration, with the space before it. -/
def pseudoAttribute? (name : List Char) (cs : List Char) : Option (List Char × List Char) :=
  let body := skipSpace cs
  if body.length = cs.length then none
  else do
    let rest ← after? name body
    let rest ← after? ['='] (skipSpace rest)
    let (value, rest) ← quoted? (skipSpace rest)
    if value.all isDeclarationChar then some (value, rest) else none

/-- The declaration after its opening `<?xml`, and the characters after it. -/
def declaration? (cs : List Char) : Option (Declaration × List Char) := do
  let (_, rest) ← pseudoAttribute? "version".toList cs
  let (encoding, rest) :=
    match pseudoAttribute? "encoding".toList rest with
    | some (value, rest) => (some value, rest)
    | none => (none, rest)
  let (standalone, rest) :=
    match pseudoAttribute? "standalone".toList rest with
    | some (value, rest) => (some value, rest)
    | none => (none, rest)
  let rest ← after? "?>".toList (skipSpace rest)
  let encodingNamed := encoding.all fun name => name.head?.any fun c => c.isAlpha && c.toNat < 0x80
  let standaloneKnown := standalone.all fun s => s = "yes".toList ∨ s = "no".toList
  if encodingNamed && standaloneKnown then
    some ({ encoding, standalone := standalone = some "yes".toList }, rest)
  else none

end SdkScout.Markup
