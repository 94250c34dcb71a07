import SdkScout.Yaml.Node
import SdkScout.Yaml.Scalar
import SdkScout.Yaml.Token.Lexer

/-! The value of a document. A mapping under the key `<<` is merged into the mapping that holds it,
whose own entries take precedence. Collections are looked into after all that stands beside them, so
of several faults the outermost counts, and of those at one depth the first. -/

namespace SdkScout.Yaml

/-- A fault, and how many collections have to be entered to meet it. -/
structure DeepFault where
  depth : Nat
  fault : Fault
  deriving DecidableEq, Repr

abbrev Outcome (α : Type) := Except DeepFault α

namespace Outcome

def fail (fault : Fault) : Outcome α := .error ⟨0, fault⟩

/-- The outcome of something inside a collection. -/
def inside (o : Outcome α) : Outcome α :=
  o.mapError fun deep => { deep with depth := deep.depth + 1 }

/-- Two outcomes next to each other. -/
def both (o : Outcome α) (p : Outcome β) : Outcome (α × β) :=
  match o, p with
  | .ok a, .ok b => .ok (a, b)
  | .error deep, .ok _ | .ok _, .error deep => .error deep
  | .error deep, .error deep' => .error (if deep'.depth < deep.depth then deep' else deep)

/-- Outcomes next to each other. -/
def all : List (Outcome α) → Outcome (List α)
  | [] => .ok []
  | o :: os => (both o (all os)).map fun (a, as) => a :: as

/-- The outcome of a key. A collection is none, whatever it holds. -/
def asKey : Outcome Value → Outcome Value
  | .ok v => if v.isScalar then .ok v else fail .malformed
  | .error ⟨0, fault⟩ => fail fault
  | .error ⟨_ + 1, _⟩ => fail .malformed

end Outcome

namespace Tag

def isCollection : Tag → Bool
  | orderedMapping | pairs | set | list | mapping => true
  | _ => false

end Tag

namespace Node

def tag : Node → Tag
  | .scalar tag _ | .list tag _ | .mapping tag _ => tag
  | .innerList => .list
  | .innerMapping => .mapping

mutual
/-- The text of a node where a scalar is asked for: a mapping stands for the value of its key `=`. -/
def text? : Node → Option String
  | .scalar _ text => some text
  | .mapping _ entries => entryText? entries
  | _ => none

def entryText? : List (Node × Node) → Option String
  | [] => none
  | (key, value) :: entries => if key.tag = .value then value.text? else entryText? entries
end

/-- The value of a node where a scalar is asked for. -/
def scalarValue (tag : Tag) (text : Option String) : Outcome Value :=
  match text.map fun text => Scalar.value tag text.toList with
  | some (.ok v) => .ok v
  | some (.error fault) => .fail fault
  | none => .fail .malformed

/-- The entries of a mapping: those that are merged in, and its own. -/
structure Entries where
  merged : List (Outcome (Value × Value)) := []
  own : List (Outcome (Value × Value)) := []

/-- All entries, of which later ones take precedence. -/
def Entries.all (es : Entries) : List (Outcome (Value × Value)) :=
  es.merged ++ es.own

mutual
/-- The value of a node. A collection inside itself stands for some collection that is not empty. -/
def value : Node → Outcome Value
  | .scalar tag text =>
    if tag.isCollection then .inside (.fail .malformed) else scalarValue tag (some text)
  | .list tag items =>
    match tag with
    | .list => .inside ((Outcome.all (values items)).map .list)
    | .orderedMapping | .pairs => .inside ((Outcome.all (pairs items)).map .list)
    | .mapping | .set => .inside (.fail .malformed)
    | _ => .fail .malformed
  | .mapping tag entries =>
    match tag with
    | .mapping => .inside do
      return .mapping (Value.ofEntries (← Outcome.all (← entriesOf entries).all))
    | .set => .inside do
      return .set ((Value.ofEntries (← Outcome.all (← entriesOf entries).all)).map (·.1))
    | .list | .orderedMapping | .pairs => .inside (.fail .malformed)
    | tag => scalarValue tag (entryText? entries)
  | .innerList => .ok (.list [.null])
  | .innerMapping => .ok (.mapping [(.null, .null)])

def values : List Node → List (Outcome Value)
  | [] => []
  | item :: items => item.value :: values items

/-- Pairs are mappings with one entry. -/
def pairs : List Node → List (Outcome Value)
  | [] => []
  | .mapping _ [(key, value)] :: items =>
    (Outcome.both key.value value.value).map (fun (k, v) => .list [k, v]) :: pairs items
  | _ :: items => .fail .malformed :: pairs items

/-- The entries of a mapping, in which a key `=` is a text like any other. -/
def entriesOf : List (Node × Node) → Outcome Entries
  | [] => .ok {}
  | (key, value) :: entries =>
    match key.tag with
    | .merge => do
      let merged ← mergedFrom value
      let rest ← entriesOf entries
      return { rest with merged := merged ++ rest.merged }
    | .value => do
      let entry := Outcome.both (scalarValue .str key.text?) value.value
      let rest ← entriesOf entries
      return { rest with own := entry :: rest.own }
    | _ => do
      let entry := Outcome.both key.value.asKey value.value
      let rest ← entriesOf entries
      return { rest with own := entry :: rest.own }

/-- What is merged in from a mapping, or from a list of mappings of which earlier ones take
precedence. -/
def mergedFrom : Node → Outcome (List (Outcome (Value × Value)))
  | .mapping _ entries => return (← entriesOf entries).all
  | .list _ items => mergedFromAll items
  | .innerMapping | .innerList => .ok []
  | .scalar .. => .fail .malformed

def mergedFromAll : List Node → Outcome (List (Outcome (Value × Value)))
  | [] => .ok []
  | .mapping _ entries :: items => do
    let first ← entriesOf entries
    return (← mergedFromAll items) ++ first.all
  | .innerMapping :: items => mergedFromAll items
  | _ => .fail .malformed
end

end Node

/-- The value of a text with at most one document. No document has the value null. -/
def read (cs : List Char) : Except Fault Value := do
  match ← Node.ofTokens (← Token.ofText cs) with
  | none => return .null
  | some node => node.value.mapError (·.fault)

end SdkScout.Yaml
