import SdkScout.Markup.Declaration

/-! An XML document as the sequence of what happens in it. A document that is not well formed has the
events up to the fault. -/

namespace SdkScout.Markup

inductive Event
  | opened (name : List Char)
  | closed (name : List Char)
  | text (chars : List Char)
  /-- A declaration of an entity. -/
  | entity
  deriving DecidableEq, Repr

/-- The events of a document, and whether it is well formed to its end. -/
structure Events where
  list : List Event
  wellFormed : Bool

namespace Events

def broken : Events := ⟨[], false⟩

def done : Events := ⟨[], true⟩

def cons (e : Event) (es : Events) : Events := { es with list := e :: es.list }

end Events

/-- What stands after a comment's opening. -/
def afterComment? (cs : List Char) : Option (List Char) := do
  let (before, rest) ← splitAt? "--".toList cs
  let rest ← after? ['>'] rest
  if before.all isAllowed then some rest else none

/-- What stands after a processing instruction's opening. The target `xml` is reserved. -/
def afterInstruction? (cs : List Char) : Option (List Char) := do
  let (target, rest) ← name? cs
  let (before, after) ← splitAt? "?>".toList rest
  let spaced := before = [] || before.head?.any isSpace
  let reserved := target.map Char.toLower = "xml".toList
  if spaced && before.all isAllowed && !reserved then some after else none

/-- Skips white space, comments and processing instructions. Stops before anything else; nothing for
one of these that is not well formed. -/
def afterMisc? : (fuel : Nat) → List Char → Option (List Char)
  | 0, _ => none
  | fuel + 1, cs =>
    let body := skipSpace cs
    match after? "<!--".toList body, after? "<?".toList body with
    | some rest, _ => (afterComment? rest).bind (afterMisc? fuel)
    | none, some rest => (afterInstruction? rest).bind (afterMisc? fuel)
    | none, none => some body

/-- What follows the root element. -/
def tail (cs : List Char) : Events :=
  if afterMisc? (cs.length + 1) cs = some [] then .done else .broken

/-- The characters up to the next markup or reference. -/
def plainText (cs : List Char) : List Char :=
  cs.takeWhile fun c => c ≠ '<' ∧ c ≠ '&'

/-- The content of the elements that are open, innermost first, and what follows the root. -/
def content (lenient : Bool) : (fuel : Nat) → (names : List (List Char)) → List Char → Events
  | 0, _, _ => .broken
  | _ + 1, [], cs => tail cs
  | _ + 1, _ :: _, [] => .broken
  | fuel + 1, name :: names, '<' :: cs =>
    match after? ['/'] cs, after? "!--".toList cs, after? "![CDATA[".toList cs, after? ['?'] cs with
    | some cs, _, _, _ =>
      match name? cs with
      | some (closing, rest) =>
        match after? ['>'] (skipSpace rest) with
        | some rest =>
          if closing = name then .cons (.closed name) (content lenient fuel names rest) else .broken
        | none => .broken
      | none => .broken
    | _, some cs, _, _ =>
      match afterComment? cs with
      | some rest => content lenient fuel (name :: names) rest
      | none => .broken
    | _, _, some cs, _ =>
      match splitAt? "]]>".toList cs with
      | some (text, rest) =>
        if text.all isAllowed then
          .cons (.text (normalizeLines text)) (content lenient fuel (name :: names) rest)
        else .broken
      | none => .broken
    | _, _, _, some cs =>
      match afterInstruction? cs with
      | some rest => content lenient fuel (name :: names) rest
      | none => .broken
    | none, none, none, none =>
      match name? cs with
      | some (opening, rest) =>
        match attributes? lenient [] (rest.length + 1) rest with
        | some (true, rest) =>
          .cons (.opened opening) (.cons (.closed opening) (content lenient fuel (name :: names) rest))
        | some (false, rest) =>
          .cons (.opened opening) (content lenient fuel (opening :: name :: names) rest)
        | none => .broken
      | none => .broken
  | fuel + 1, name :: names, '&' :: cs =>
    match reference? lenient cs with
    | some (some c, rest) => .cons (.text [c]) (content lenient fuel (name :: names) rest)
    | some (none, rest) => content lenient fuel (name :: names) rest
    | none => .broken
  | fuel + 1, name :: names, cs =>
    let text := plainText cs
    if text.all isAllowed && (splitAt? "]]>".toList text).isNone then
      .cons (.text (normalizeLines text)) (content lenient fuel (name :: names) (cs.drop text.length))
    else .broken

/-- The root element and what follows it. -/
def root (lenient : Bool) (cs : List Char) : Events :=
  match (after? ['<'] cs).bind name? with
  | some (name, rest) =>
    match attributes? lenient [] (rest.length + 1) rest with
    | some (true, rest) => .cons (.opened name) (.cons (.closed name) (tail rest))
    | some (false, rest) => .cons (.opened name) (content lenient (rest.length + 1) [name] rest)
    | none => .broken
  | none => .broken

/-- What the internal subset of a document type holds up to its closing bracket: whether it declares
an entity, whether it refers to a parameter entity, and the characters after the bracket. -/
def subset? (lenient : Bool) : (fuel : Nat) → List Char → Option (Bool × Bool × List Char)
  | 0, _ => none
  | fuel + 1, cs =>
    match skipSpace cs with
    | ']' :: rest => some (false, false, rest)
    | '%' :: rest => do
      let (_, rest) ← name? rest
      let rest ← after? [';'] rest
      let (entity, _, rest) ← subset? lenient fuel rest
      return (entity, true, rest)
    | '<' :: '?' :: rest => (afterInstruction? rest).bind (subset? lenient fuel)
    | '<' :: '!' :: '-' :: '-' :: rest => (afterComment? rest).bind (subset? lenient fuel)
    | '<' :: '!' :: rest =>
      if "ENTITY".toList.isPrefixOf rest then some (true, false, rest)
      else (afterDeclaration? lenient rest).bind (subset? lenient fuel)
    | _ => none

/-- What a document type declaration says: whether a reference to an entity may be skipped because its
declaration may stand elsewhere, and whether an entity is declared here. -/
structure Doctype where
  lenient : Bool
  entity : Bool

/-- What stands after the identifier of the part of a document type that lies outside of the
document. Nothing if there is none; the outer result is missing if it is not well formed. -/
def afterExternalId? (cs : List Char) : Option (Option (List Char)) :=
  match after? "SYSTEM".toList cs, after? "PUBLIC".toList cs with
  | some rest, _ => do
    return some (← quotedOf? isAllowed (← spaced? rest))
  | none, some rest => do
    let rest ← quotedOf? isPublic (← spaced? rest)
    return some (← quotedOf? isAllowed (← spaced? rest))
  | none, none => some none

/-- A document type declaration after `<!DOCTYPE`, and the characters after it. -/
def doctype? (standalone : Bool) (cs : List Char) : Option (Doctype × List Char) := do
  let (_, rest) ← name? (← spaced? cs)
  let identified ← afterExternalId? ((spaced? rest).getD [])
  let lenient := identified.isSome && !standalone
  match skipSpace (identified.getD rest) with
  | '>' :: rest => some ({ lenient, entity := false }, rest)
  | '[' :: rest =>
    let (entity, parameter, rest) ← subset? lenient (rest.length + 1) rest
    if entity then some ({ lenient, entity }, rest)
    else
      let rest ← after? ['>'] (skipSpace rest)
      some ({ lenient := lenient || (parameter && !standalone), entity }, rest)
  | _ => none

/-- A document after its XML declaration. -/
def document (standalone : Bool) (cs : List Char) : Events :=
  match afterMisc? (cs.length + 1) cs with
  | none => .broken
  | some body =>
    match after? "<!DOCTYPE".toList body with
    | none => root false body
    | some rest =>
      match doctype? standalone rest with
      | none => .broken
      | some (doctype, rest) =>
        if doctype.entity then .cons .entity .broken
        else
          match afterMisc? (rest.length + 1) rest with
          | none => .broken
          | some body => root doctype.lenient body

/-- The events of a document, which starts with an XML declaration or without. -/
def events (cs : List Char) : Events :=
  match after? "<?xml".toList cs with
  | some rest =>
    if rest.head?.any isSpace then
      match declaration? rest with
      | some (declaration, rest) => document declaration.standalone rest
      | none => .broken
    else document false cs
  | none => document false cs

end SdkScout.Markup
