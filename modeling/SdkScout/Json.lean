import SdkScout.Value

/-! JSON documents. Beyond the standard, the three words for infinities and for what is not a number
are accepted; as the standard has it, control characters in texts and a byte order mark are not.
Texts are sequences of characters, so a character that the document does not hold stands for each
surrogate without its partner. -/

namespace SdkScout.Json

/-- Why a document is refused. -/
inductive Fault
  | malformed
  /-- An integer has too many digits. -/
  | oversizedInteger
  /-- The collections lie deeper within each other than the reader can go. -/
  | nestedTooDeep
  deriving DecidableEq, Repr

def isBlank (c : Char) : Bool :=
  c = ' ' || c = '\t' || c = '\n' || c = '\r'

def skipBlanks (cs : List Char) : List Char :=
  cs.dropWhile isBlank

/-- The number written by four hexadecimal digits. -/
def unit? (a b c d : Char) : Option Nat := do
  let a ← Text.hexValue? a
  let b ← Text.hexValue? b
  let c ← Text.hexValue? c
  let d ← Text.hexValue? d
  return 4096 * a + 256 * b + 16 * c + d

def isHighSurrogate (n : Nat) : Bool := 0xd800 ≤ n && n < 0xdc00

def isLowSurrogate (n : Nat) : Bool := 0xdc00 ≤ n && n < 0xe000

def escaped? : Char → Option Char
  | '"' => some '"'
  | '\\' => some '\\'
  | '/' => some '/'
  | 'b' => some '\x08'
  | 'f' => some '\x0c'
  | 'n' => some '\n'
  | 'r' => some '\r'
  | 't' => some '\t'
  | _ => none

/-- A lone unit has no partner to pair with. -/
def pair? (high low : Nat) : Option Char :=
  if isHighSurrogate high && isLowSurrogate low then
    some (Char.ofNat (0x10000 + 0x400 * (high - 0xd800) + (low - 0xdc00)))
  else none

/-- The character that an escape at the start of the characters makes with the one behind it. -/
def escapedPair? : List Char → Option Char
  | '\\' :: 'u' :: a :: b :: c :: d :: '\\' :: 'u' :: e :: f :: g :: h :: _ => do
    pair? (← unit? a b c d) (← unit? e f g h)
  | _ => none

/-- The characters that pairs of escapes make anywhere in a document. -/
def escapedPairs : List Char → List Char
  | [] => []
  | c :: cs => (escapedPair? (c :: cs)).toList ++ escapedPairs cs

/-- The characters for private use beyond the first plane that a document neither holds nor escapes. -/
def spareChars (document : List Char) : List Char :=
  let taken := document ++ escapedPairs document
  ((List.range 0x20000).map fun n => Char.ofNat (0xf0000 + n)).filter fun c => !taken.contains c

section
variable (document : List Char)

/-- What stands in a document for a unit that makes no pair. Each surrogate has a character of its
own. -/
def charOfUnit (n : Nat) : Char :=
  if isHighSurrogate n || isLowSurrogate n then
    (spareChars document).getD (n - 0xd800) '\uFFFD'
  else Char.ofNat n

/-- The rest of a text after its opening quote. -/
def readText : List Char → Except Fault (List Char × List Char)
  | [] => .error .malformed
  | '"' :: cs => .ok ([], cs)
  | '\\' :: 'u' :: a :: b :: c :: d :: '\\' :: 'u' :: e :: f :: g :: h :: cs =>
    match unit? a b c d, (unit? a b c d).bind fun high => (unit? e f g h).bind (pair? high) with
    | none, _ => .error .malformed
    | some _, some c => (readText cs).map fun (text, rest) => (c :: text, rest)
    | some n, none =>
      (readText ('\\' :: 'u' :: e :: f :: g :: h :: cs)).map fun (text, rest) =>
        (charOfUnit document n :: text, rest)
  | '\\' :: 'u' :: a :: b :: c :: d :: cs =>
    match unit? a b c d with
    | none => .error .malformed
    | some n => (readText cs).map fun (text, rest) => (charOfUnit document n :: text, rest)
  | '\\' :: c :: cs =>
    match escaped? c with
    | none => .error .malformed
    | some c => (readText cs).map fun (text, rest) => (c :: text, rest)
  | c :: cs =>
    if c.toNat < 0x20 ∨ c = '\\' then .error .malformed
    else (readText cs).map fun (text, rest) => (c :: text, rest)

end

/-- A fraction or nothing: a point counts only if a digit follows. -/
def splitFraction : List Char → List Char × List Char
  | '.' :: c :: cs =>
    if c.isDigit then (c :: cs.takeWhile Char.isDigit, cs.dropWhile Char.isDigit)
    else ([], '.' :: c :: cs)
  | cs => ([], cs)

/-- An exponent or nothing: its mark counts only if a digit follows the sign. -/
def splitExponent : List Char → Option Int × List Char
  | [] => (none, [])
  | e :: cs =>
    let (negative, digits) :=
      match cs with
      | '-' :: cs => (true, cs)
      | '+' :: cs => (false, cs)
      | cs => (false, cs)
    let power := digits.takeWhile Char.isDigit
    if (e = 'e' ∨ e = 'E') ∧ power ≠ [] then
      let n : Int := Text.natOfDigits power
      (some (if negative then -n else n), digits.dropWhile Char.isDigit)
    else (none, e :: cs)

/-- A number without its sign. It is an integer unless it has a fraction or an exponent. -/
def readNumber (negative : Bool) (cs : List Char) : Except Fault (Value × List Char) :=
  let whole := match cs with
    | '0' :: _ => ['0']
    | cs => cs.takeWhile Char.isDigit
  if whole = [] then .error .malformed
  else
    let (fraction, rest) := splitFraction (cs.drop whole.length)
    let (exponent, rest) := splitExponent rest
    if fraction = [] ∧ exponent.isNone then
      if Text.digitLimit < whole.length then .error .oversizedInteger
      else
        let n : Int := Text.natOfDigits whole
        .ok (.int (if negative then -n else n), rest)
    else
      let x := Binary64.ofDecimal negative (Text.natOfDigits (whole ++ fraction))
        (exponent.getD 0 - fraction.length)
      .ok (.float x, rest)

def words : List (List Char × Value) :=
  [("null".toList, .null), ("true".toList, .bool true), ("false".toList, .bool false),
    ("NaN".toList, .float .nan), ("Infinity".toList, .float (.infinite false)),
    ("-Infinity".toList, .float (.infinite true))]

/-- A word or a number. -/
def readAtom (cs : List Char) : Except Fault (Value × List Char) :=
  match words.find? fun word => word.1.isPrefixOf cs with
  | some (word, value) => .ok (value, cs.drop word.length)
  | none =>
    match cs with
    | '-' :: cs => readNumber true cs
    | cs => readNumber false cs

mutual
/-- A value at the start of the characters. A collection goes one level down. -/
def readValue (document : List Char) :
    (fuel depth : Nat) → List Char → Except Fault (Value × List Char)
  | 0, _, _ => .error .malformed
  | _ + 1, _, '"' :: cs =>
    (readText document cs).map fun (text, rest) => (.text (String.ofList text), rest)
  | _ + 1, 0, '[' :: _ | _ + 1, 0, '{' :: _ => .error .nestedTooDeep
  | fuel + 1, depth + 1, '[' :: cs =>
    match skipBlanks cs with
    | ']' :: cs => .ok (.list [], cs)
    | cs => (readItems document fuel depth cs).map fun (items, rest) => (.list items, rest)
  | fuel + 1, depth + 1, '{' :: cs =>
    match skipBlanks cs with
    | '}' :: cs => .ok (.mapping [], cs)
    | cs => (readEntries document fuel depth cs).map fun (entries, rest) =>
      (.mapping (Value.ofEntries entries), rest)
  | _ + 1, _, cs => readAtom cs

/-- The rest of a list from the start of an item on. -/
def readItems (document : List Char) :
    (fuel depth : Nat) → List Char → Except Fault (List Value × List Char)
  | 0, _, _ => .error .malformed
  | fuel + 1, depth, cs => do
    let (item, rest) ← readValue document fuel depth cs
    match skipBlanks rest with
    | ']' :: rest => return ([item], rest)
    | ',' :: rest =>
      let (items, rest) ← readItems document fuel depth (skipBlanks rest)
      return (item :: items, rest)
    | _ => .error .malformed

/-- The rest of a mapping from the start of a key on. -/
def readEntries (document : List Char) :
    (fuel depth : Nat) → List Char → Except Fault (List (Value × Value) × List Char)
  | fuel + 1, depth, '"' :: cs => do
    let (key, rest) ← readText document cs
    let ':' :: rest := skipBlanks rest | .error .malformed
    let (value, rest) ← readValue document fuel depth (skipBlanks rest)
    let entry := (Value.text (String.ofList key), value)
    match skipBlanks rest with
    | '}' :: rest => return ([entry], rest)
    | ',' :: rest =>
      let (entries, rest) ← readEntries document fuel depth (skipBlanks rest)
      return (entry :: entries, rest)
    | _ => .error .malformed
  | _, _, _ => .error .malformed
end

/-- The value that a document denotes, if its collections do not lie deeper within each other than
`depth`. Between two characters the recursion goes at most two levels down, so the length of the
document bounds it. -/
def read (depth : Nat) (document : List Char) : Except Fault Value := do
  let (value, rest) ← readValue document (2 * document.length + 2) depth (skipBlanks document)
  if skipBlanks rest = [] then return value else .error .malformed

end SdkScout.Json
