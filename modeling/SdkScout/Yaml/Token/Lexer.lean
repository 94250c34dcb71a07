import SdkScout.Yaml.Token.Block
import SdkScout.Yaml.Token.Plain
import SdkScout.Yaml.Token.Property
import SdkScout.Yaml.Token.Quoted

/-! The tokens of a text. A key without an indicator is known only by the colon after it, so every
node that could be one is remembered as a candidate; its key token is put before it when the colon
comes. A candidate lapses at the end of its line. -/

namespace SdkScout.Yaml

/-- A node that may turn out to be a key. -/
structure Candidate where
  /-- How many tokens stand before it. -/
  position : Nat
  /-- Whether nothing but a key may stand here. -/
  required : Bool
  index : Nat
  line : Nat
  column : Nat
  deriving DecidableEq

structure Lexer where
  cursor : Cursor
  /-- The tokens so far, the latest first. -/
  tokens : List Token
  /-- The columns of the open block collections, innermost first. -/
  indents : List Nat
  /-- Whether a key may start here. -/
  keyAllowed : Bool
  /-- The candidate of the innermost open bracket, of the bracket around it and so on, and last of the
  block context. -/
  candidate : Option Candidate
  outer : List (Option Candidate)

namespace Lexer

def start (text : List Char) : Lexer where
  cursor := .start text
  tokens := []
  indents := []
  keyAllowed := true
  candidate := none
  outer := []

/-- Whether a bracket is open. -/
def inFlow (l : Lexer) : Bool := l.outer ≠ []

/-- The column of the innermost block collection, or one less than the first. -/
def indent (l : Lexer) : Int :=
  match l.indents with
  | [] => -1
  | column :: _ => column

def push (l : Lexer) (token : Token) : Lexer :=
  { l with tokens := token :: l.tokens }

/-- Puts tokens, given from the last to the first, where a number of others stand before them. -/
def insertAt (l : Lexer) (position : Nat) (tokens : List Token) : Lexer :=
  let (after, before) := l.tokens.splitAt (l.tokens.length - position)
  { l with tokens := after ++ tokens ++ before }

/-- How far a candidate reaches on its line. -/
def candidateReach : Nat := 1024

def hasLapsed (c : Cursor) (k : Candidate) : Bool :=
  k.line ≠ c.line || k.index + candidateReach < c.index

def lapse (c : Cursor) : Option Candidate → Except Fault (Option Candidate)
  | none => .ok none
  | some k =>
    if hasLapsed c k then if k.required then .error .malformed else .ok none
    else .ok (some k)

def lapseAll (l : Lexer) : Except Fault Lexer := do
  let candidate ← lapse l.cursor l.candidate
  let outer ← l.outer.mapM (lapse l.cursor)
  return { l with candidate, outer }

/-- Gives up the candidate of the innermost context. -/
def dropCandidate (l : Lexer) : Except Fault Lexer :=
  if l.candidate.any (·.required) then .error .malformed
  else .ok { l with candidate := none }

/-- Remembers the next token as a candidate, where a key may start. -/
def saveCandidate (l : Lexer) : Except Fault Lexer := do
  if l.keyAllowed then
    let l ← l.dropCandidate
    let c := l.cursor
    return { l with
      candidate := some {
        position := l.tokens.length
        required := !l.inFlow && l.indent = c.column
        index := c.index
        line := c.line
        column := c.column } }
  else return l

/-- Ends the block collections to the right of a column. -/
def closeBlocks (column : Int) (l : Lexer) : Lexer :=
  if l.inFlow then l
  else
    let closed := l.indents.takeWhile fun (indent : Nat) => column < indent
    { l with
      tokens := closed.map (fun _ => .blockEnd) ++ l.tokens
      indents := l.indents.drop closed.length }

/-- Starts a block collection at a column, if the innermost one lies to the left of it. -/
def openBlock? (column : Nat) (l : Lexer) : Option Lexer :=
  if l.indent < column then some { l with indents := column :: l.indents } else none

/-- Skips spaces, comments and line breaks. After a line break a key may start, except in brackets. -/
def skipGaps : (fuel : Nat) → Lexer → Lexer
  | 0, l => l
  | fuel + 1, l =>
    let c := l.cursor.skipWhile isSpace
    let c := if c.rest.head? = some '#' then c.skipLine else c
    match c.takeBreak with
    | ([], c) => { l with cursor := c }
    | (_, c) => skipGaps fuel { l with cursor := c, keyAllowed := l.keyAllowed || !l.inFlow }

def toNextToken (l : Lexer) : Lexer :=
  let l :=
    if l.cursor.index = 0 ∧ l.cursor.rest.head? = some '\uFEFF' then
      { l with cursor := l.cursor.next }
    else l
  l.skipGaps (l.cursor.rest.length + 1)

/-- A token of a fixed count of characters. -/
def take (count : Nat) (token : Token) (l : Lexer) : Lexer :=
  { l.push token with cursor := l.cursor.skip count }

/-- A token that stands between documents. -/
def separator (l : Lexer) : Except Fault Lexer := do
  let l ← (l.closeBlocks (-1)).dropCandidate
  return { l with keyAllowed := false }

def documentMark (token : Token) (l : Lexer) : Except Fault Lexer :=
  return (← l.separator).take 3 token

def directive (l : Lexer) : Except Fault Lexer := do
  let l ← l.separator
  match Property.directive? l.cursor with
  | some (directive, cursor) => return { l.push (.directive directive) with cursor }
  | none => throw .malformed

def openFlow (token : Token) (l : Lexer) : Except Fault Lexer := do
  let l ← l.saveCandidate
  return { l.take 1 token with
    outer := l.candidate :: l.outer
    candidate := none
    keyAllowed := true }

def closeFlow (token : Token) (l : Lexer) : Except Fault Lexer := do
  let l ← l.dropCandidate
  match l.outer with
  | [] => throw .malformed
  | candidate :: outer => return { l.take 1 token with candidate, outer, keyAllowed := false }

def flowEntry (l : Lexer) : Except Fault Lexer := do
  return { (← l.dropCandidate).take 1 .flowEntry with keyAllowed := true }

/-- Starts a block collection at this place, if none starts here yet. -/
def openHere (token : Token) (l : Lexer) : Lexer :=
  match l.openBlock? l.cursor.column with
  | some l => l.push token
  | none => l

def blockEntry (l : Lexer) : Except Fault Lexer := do
  if !l.inFlow && !l.keyAllowed then throw .malformed
  let l := if l.inFlow then l else l.openHere .blockListStart
  return { (← l.dropCandidate).take 1 .blockEntry with keyAllowed := true }

def key (l : Lexer) : Except Fault Lexer := do
  if !l.inFlow && !l.keyAllowed then throw .malformed
  let l := if l.inFlow then l else l.openHere .blockMappingStart
  return { (← l.dropCandidate).take 1 .key with keyAllowed := !l.inFlow }

/-- The colon after a key. It makes the candidate a key, or else stands for a value whose key has an
indicator. -/
def value (l : Lexer) : Except Fault Lexer :=
  match l.candidate with
  | some k =>
    let opened := if l.inFlow then none else l.openBlock? k.column
    let l := match opened with
      | some l => l.insertAt k.position [.key, .blockMappingStart]
      | none => l.insertAt k.position [.key]
    return { l.take 1 .value with candidate := none, keyAllowed := false }
  | none => do
    if !l.inFlow && !l.keyAllowed then throw .malformed
    let l := if l.inFlow then l else l.openHere .blockMappingStart
    return { l.take 1 .value with keyAllowed := !l.inFlow }

/-- A token that a node starts with, as far as its scanner finds one. -/
def property (scan : Cursor → Option (Token × Cursor)) (l : Lexer) : Except Fault Lexer := do
  let l ← l.saveCandidate
  match scan l.cursor with
  | some (token, cursor) => return { l.push token with cursor, keyAllowed := false }
  | none => throw .malformed

def blockScalar (folded : Bool) (l : Lexer) : Except Fault Lexer := do
  let l ← l.dropCandidate
  let (text, cursor) ← Block.scan folded l.indent l.cursor
  return { l.push (.scalar (String.ofList text) false) with cursor, keyAllowed := true }

def quotedScalar (double : Bool) (l : Lexer) : Except Fault Lexer := do
  let l ← l.saveCandidate
  let (text, cursor) ← Quoted.scan double l.cursor
  return { l.push (.scalar (String.ofList text) false) with cursor, keyAllowed := false }

def plainScalar (l : Lexer) : Except Fault Lexer := do
  let l ← l.saveCandidate
  let scan := Plain.scan l.inFlow (l.indent + 1) l.cursor
  return { l.push (.scalar (String.ofList scan.text) true) with
    cursor := scan.cursor
    keyAllowed := scan.newLine }

/-- The characters that no plain scalar starts with. -/
def indicators : List Char :=
  ['-', '?', ':', ',', '[', ']', '{', '}', '#', '&', '*', '!', '|', '>', '\'', '"', '%', '@', '\x60']

/-- Whether a plain scalar starts here. An indicator starts one where it cannot be taken for itself. -/
def startsPlain (inFlow : Bool) : List Char → Bool
  | [] => false
  | c :: rest =>
    (!isBlank c && !isBreak c && !indicators.contains c) ||
      (!startsBlank rest && (c = '-' || (!inFlow && (c = '?' || c = ':'))))

/-- The token at this place, which is not the end of the text. -/
def scanToken (l : Lexer) : Except Fault Lexer :=
  let c := l.cursor
  let blankAfter := startsBlank (c.rest.drop 1)
  let first := c.column = 0
  match c.rest with
  | [] => .error .malformed
  | x :: _ =>
    if x = '%' ∧ first then l.directive
    else if x = '-' ∧ first ∧ c.atSeparator then l.documentMark .documentStart
    else if x = '.' ∧ first ∧ c.atSeparator then l.documentMark .documentEnd
    else if x = '[' then l.openFlow .flowListStart
    else if x = '{' then l.openFlow .flowMappingStart
    else if x = ']' then l.closeFlow .flowListEnd
    else if x = '}' then l.closeFlow .flowMappingEnd
    else if x = ',' then l.flowEntry
    else if x = '-' ∧ blankAfter then l.blockEntry
    else if x = '?' ∧ (l.inFlow ∨ blankAfter) then l.key
    else if x = ':' ∧ (l.inFlow ∨ blankAfter) then l.value
    else if x = '*' then l.property fun c => (Property.name? c).map fun (n, c) => (.alias n, c)
    else if x = '&' then l.property fun c => (Property.name? c).map fun (n, c) => (.anchor n, c)
    else if x = '!' then l.property Property.tag?
    else if x = '|' ∧ l.inFlow = false then l.blockScalar false
    else if x = '>' ∧ l.inFlow = false then l.blockScalar true
    else if x = '\'' then l.quotedScalar false
    else if x = '"' then l.quotedScalar true
    else if startsPlain l.inFlow c.rest then l.plainScalar
    else .error .malformed

/-- All tokens from this place on. -/
def tokensFrom : (fuel : Nat) → Lexer → Except Fault (List Token)
  | 0, _ => .error .malformed
  | fuel + 1, l => do
    let l ← l.toNextToken.lapseAll
    let l := l.closeBlocks l.cursor.column
    if l.cursor.rest = [] then
      let l ← l.separator
      return (l.push .streamEnd).tokens.reverse
    else tokensFrom fuel (← l.scanToken)

end Lexer

/-- The characters that a text may hold. -/
def isAllowed (c : Char) : Bool :=
  let n := c.toNat
  n = 0x9 || n = 0xa || n = 0xd || (0x20 ≤ n && n ≤ 0x7e) || n = 0x85 ||
    (0xa0 ≤ n && n ≤ 0xd7ff) || (0xe000 ≤ n && n ≤ 0xfffd) || 0x10000 ≤ n

/-- The tokens of a text. Every token takes up a character, so the length of the text bounds their
number. -/
def Token.ofText (text : List Char) : Except Fault (List Token) :=
  if text.all isAllowed then (Lexer.start text).tokensFrom (text.length + 1)
  else .error .malformed

end SdkScout.Yaml
