import SdkScout.Markup.Syntax

/-! Declarations of elements, attributes and notations in a document type. They have no effect on what
the document holds, so a reader of one returns only the characters after it, or nothing if it is not
well formed. -/

namespace SdkScout.Markup

/-- The space that separates two parts. -/
def spaced? (cs : List Char) : Option (List Char) :=
  if cs.head?.any isSpace then some (skipSpace cs) else none

/-- The end of a declaration. -/
def ended? (cs : List Char) : Option (List Char) :=
  after? ['>'] (skipSpace cs)

/-- The characters of a public identifier. -/
def isPublic (c : Char) : Bool :=
  c.isAlphanum || " \r\n-'()+,./:=?;!*#@$_%".toList.contains c

/-- A text in quotes, of certain characters only. -/
def quotedOf? (allowed : Char → Bool) (cs : List Char) : Option (List Char) := do
  let (text, rest) ← quoted? cs
  if text.all allowed then some rest else none

/-- A mark of how often a part may occur, or nothing. -/
def afterMultiplicity (cs : List Char) : List Char :=
  match cs with
  | '?' :: rest | '*' :: rest | '+' :: rest => rest
  | cs => cs

/-- What stands after a group of parts and its opening parenthesis. The parts have the same connector
throughout. -/
def afterGroup? : (fuel : Nat) → (connector : Option Char) → List Char → Option (List Char)
  | 0, _, _ => none
  | fuel + 1, connector, cs => do
    let rest ←
      match skipSpace cs with
      | '(' :: cs => afterGroup? fuel none cs
      | cs => (name? cs).map (·.2)
    match skipSpace (afterMultiplicity rest) with
    | ')' :: rest => some rest
    | c :: rest =>
      if (c = ',' ∨ c = '|') ∧ connector.all (· = c) then afterGroup? fuel (some c) rest else none
    | [] => none

/-- What stands after alternatives between bars, the first of which starts here. -/
def afterChoices? (item : List Char → Option (List Char)) : (fuel : Nat) → List Char →
    Option (List Char)
  | 0, _ => none
  | fuel + 1, cs => do
    let rest ← item (skipSpace cs)
    match skipSpace rest with
    | ')' :: rest => some rest
    | '|' :: rest => afterChoices? item fuel rest
    | _ => none

def afterName? (cs : List Char) : Option (List Char) :=
  (name? cs).map (·.2)

/-- A run of characters that may follow in a name. -/
def afterNameToken? (cs : List Char) : Option (List Char) :=
  if cs.head?.any isNameChar then some (cs.dropWhile isNameChar) else none

/-- What an element may hold: texts among elements, or a group of parts. -/
def afterContent? (cs : List Char) : Option (List Char) :=
  match cs with
  | '(' :: rest =>
    match after? "#PCDATA".toList (skipSpace rest) with
    | some rest =>
      match skipSpace rest with
      | ')' :: '*' :: rest | ')' :: rest => some rest
      | '|' :: rest => (afterChoices? afterName? (rest.length + 1) rest).bind (after? ['*'])
      | _ => none
    | none => (afterGroup? (rest.length + 1) none rest).map afterMultiplicity
  | cs => do
    let (word, rest) ← name? cs
    if word = "EMPTY".toList ∨ word = "ANY".toList then some rest else none

def afterElement? (cs : List Char) : Option (List Char) := do
  let rest ← afterName? (← spaced? cs)
  ended? (← afterContent? (← spaced? rest))

def attributeTypes : List String :=
  ["CDATA", "ID", "IDREF", "IDREFS", "ENTITY", "ENTITIES", "NMTOKEN", "NMTOKENS"]

def afterAttributeType? (cs : List Char) : Option (List Char) :=
  match cs with
  | '(' :: rest => afterChoices? afterNameToken? (rest.length + 1) rest
  | cs => do
    let (word, rest) ← name? cs
    if word = "NOTATION".toList then
      let rest ← after? ['('] (← spaced? rest)
      afterChoices? afterName? (rest.length + 1) rest
    else if attributeTypes.contains (String.ofList word) then some rest
    else none

/-- A value in quotes. -/
def afterValue? (lenient : Bool) (cs : List Char) : Option (List Char) := do
  let (value, rest) ← quoted? cs
  if isAttributeText lenient value then some rest else none

/-- What an attribute has as its value by default. -/
def afterDefault? (lenient : Bool) (cs : List Char) : Option (List Char) :=
  match cs with
  | '#' :: cs => do
    let (word, rest) ← name? cs
    if word = "REQUIRED".toList ∨ word = "IMPLIED".toList then some rest
    else if word = "FIXED".toList then afterValue? lenient (← spaced? rest)
    else none
  | cs => afterValue? lenient cs

/-- Definitions of attributes up to the end of their declaration. -/
def afterAttributes? (lenient : Bool) : (fuel : Nat) → List Char → Option (List Char)
  | 0, _ => none
  | fuel + 1, cs =>
    match ended? cs with
    | some rest => some rest
    | none => do
      let rest ← afterName? (← spaced? cs)
      let rest ← afterAttributeType? (← spaced? rest)
      let rest ← afterDefault? lenient (← spaced? rest)
      afterAttributes? lenient fuel rest

def afterAttributeList? (lenient : Bool) (cs : List Char) : Option (List Char) := do
  let rest ← afterName? (← spaced? cs)
  afterAttributes? lenient (rest.length + 1) rest

def afterNotation? (cs : List Char) : Option (List Char) := do
  let rest ← afterName? (← spaced? cs)
  let rest ← spaced? rest
  match after? "SYSTEM".toList rest, after? "PUBLIC".toList rest with
  | some rest, _ => ended? (← quotedOf? isAllowed (← spaced? rest))
  | none, some rest => do
    let rest ← quotedOf? isPublic (← spaced? rest)
    match ended? rest with
    | some rest => some rest
    | none => ended? (← quotedOf? isAllowed (← spaced? rest))
  | none, none => none

/-- What stands after a declaration that starts here. -/
def afterDeclaration? (lenient : Bool) (cs : List Char) : Option (List Char) :=
  match after? "ELEMENT".toList cs, after? "ATTLIST".toList cs, after? "NOTATION".toList cs with
  | some rest, _, _ => afterElement? rest
  | none, some rest, _ => afterAttributeList? lenient rest
  | none, none, some rest => afterNotation? rest
  | none, none, none => none

end SdkScout.Markup
