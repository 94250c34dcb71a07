import SdkScout.Text.Digit

/-! Version texts. Any text can be a version; two versions are equal if their texts are. Versions
are ordered by a loose reading as `major.minor.patch`, in which a missing component is zero and a
malformed text is `0.0.0`. -/

namespace SdkScout

/-- The ways in which two things can be compared by their order. -/
inductive Comparison
  | lt
  | le
  | gt
  | ge
  deriving DecidableEq, Repr

namespace Comparison

/-- Whether a comparison holds of things in some order. -/
def admits : Comparison → Ordering → Bool
  | lt, order => order.isLT
  | le, order => order.isLE
  | gt, order => order.isGT
  | ge, order => order.isGE

/-- The comparison that holds if this one does with the sides exchanged. -/
def mirrored : Comparison → Comparison
  | lt => gt
  | le => ge
  | gt => lt
  | ge => le

end Comparison

structure Version where
  text : String
  deriving DecidableEq, Repr

namespace Version

/-- Why a text has no reading. A component with more digits than a number may be written with is
kept apart from all other malformed texts, since it is not ordered either. -/
inductive Fault
  | malformed
  | oversized
  deriving DecidableEq, Repr

def componentMax : Nat := 255

structure Key where
  major : Nat
  minor : Nat
  patch : Nat
  deriving DecidableEq, Repr

namespace Key

def zero : Key := ⟨0, 0, 0⟩

/-- Lexicographic, major component first. -/
def order (a b : Key) : Ordering :=
  (compare a.major b.major).then ((compare a.minor b.minor).then (compare a.patch b.patch))

/-- Between one and three components, padded with zeros. -/
def ofList? : List Nat → Option Key
  | [major] => some ⟨major, 0, 0⟩
  | [major, minor] => some ⟨major, minor, 0⟩
  | [major, minor, patch] => some ⟨major, minor, patch⟩
  | _ => none

def text (k : Key) : String :=
  String.ofList (['.'].intercalate
    [Text.digitsOfNat k.major, Text.digitsOfNat k.minor, Text.digitsOfNat k.patch])

end Key

def components (v : Version) : List (List Char) :=
  v.text.toList.splitOn '.'

/-- A component is a non-empty run of ASCII digits with a value of at most `componentMax`. Leading
zeros count as digits that have to be read. -/
def readComponent (part : List Char) : Except Fault Nat :=
  if part = [] ∨ part.all Char.isDigit = false then .error .malformed
  else if Text.digitLimit < part.length then .error .oversized
  else if componentMax < Text.natOfDigits part then .error .malformed
  else .ok (Text.natOfDigits part)

/-- The reading of a version, or the fault of its first component that has one. -/
def normalized (v : Version) : Except Fault Key := do
  match Key.ofList? (← v.components.mapM readComponent) with
  | some key => .ok key
  | none => .error .malformed

/-- The reading written out as `major.minor.patch`. -/
def semantic (v : Version) : Except Fault String :=
  v.normalized.map Key.text

def isValid (v : Version) : Except Fault Bool :=
  match v.normalized with
  | .ok _ => .ok true
  | .error .malformed => .ok false
  | .error .oversized => .error .oversized

/-- What a version is ordered by: its reading, or `0.0.0` if it is malformed. -/
def sortKey (v : Version) : Except Fault Key :=
  match v.normalized with
  | .ok key => .ok key
  | .error .malformed => .ok .zero
  | .error .oversized => .error .oversized

def order (v w : Version) : Except Fault Ordering := do
  let a ← v.sortKey
  let b ← w.sortKey
  return a.order b

/-- Whether a comparison holds of two versions, by their order alone: a malformed text is less than or
equal to another without being equal to it. -/
def compares (c : Comparison) (v w : Version) : Except Fault Bool :=
  return c.admits (← v.order w)

/-- Ascending by reading; versions with the same reading keep their order. A list of one is never
read. -/
def sorted : List Version → Except Fault (List Version)
  | [v] => .ok [v]
  | vs => do
    let keyed ← vs.mapM fun v => return ((← v.sortKey), v)
    return (keyed.mergeSort fun a b => (a.1.order b.1).isLE).map (·.2)

/-- Descending by reading; versions with the same reading keep their order. -/
def sortedDescending (vs : List Version) : Except Fault (List Version) := do
  return (← sorted vs.reverse).reverse

/-- The best of a version and those after it, by a strict comparison. A later version takes the place
of the best one so far only if it beats it. -/
def foremost (c : Comparison) (best : Version) : List Version → Except Fault Version
  | [] => .ok best
  | v :: vs => do
    let beats ← v.compares c best
    foremost c (if beats then v else best) vs

def foremost? (c : Comparison) : List Version → Except Fault (Option Version)
  | [] => .ok none
  | v :: vs => return some (← foremost c v vs)

/-- The first of the greatest. -/
def greatest? : List Version → Except Fault (Option Version) :=
  foremost? .gt

/-- The first of the least. -/
def least? : List Version → Except Fault (Option Version) :=
  foremost? .lt

end Version

end SdkScout
