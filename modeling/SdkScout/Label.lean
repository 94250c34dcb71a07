import SdkScout.Failure
import SdkScout.Platform
import SdkScout.Value

/-! Labels: platforms and versions among the plain values that they are compared with. A version is
equal to the text that it consists of, and a platform to the known platform that has its name; a
platform is never equal to a version or a text. -/

namespace SdkScout

inductive Label
  | platform (p : Platform)
  | known (k : KnownPlatform)
  | version (v : Version)
  | plain (v : Value)

namespace Label

/-- The platform that a label names. -/
def platform? : Label → Option Platform
  | .platform p => some p
  | .known k => some (.ofKnown k)
  | _ => none

/-- The version that a label is ordered as. -/
def version? : Label → Option Version
  | .version v => some v
  | .plain (.text s) => some ⟨s⟩
  | _ => none

/-- Equality of labels, in either direction. -/
def same (a b : Label) : Bool :=
  match a.platform?, b.platform? with
  | some p, some q => p = q
  | some _, none | none, some _ => false
  | none, none =>
    match a.version?, b.version? with
    | some v, some w => v = w
    | some _, none | none, some _ => false
    | none, none =>
      match a, b with
      | .plain v, .plain w => v.same w
      | _, _ => false

/-- The plain value that stands for a label in a table: equal labels have the same. -/
def hashed : Label → Value
  | .platform p => .text p.name
  | .known k => .text k.name
  | .version v => .text v.text
  | .plain v => v

/-- Adds a label to a list of labels that are all different. -/
def insert (labels : List Label) (a : Label) : List Label :=
  if labels.any a.same then labels else labels ++ [a]

/-- How many different labels there are. -/
def distinct (labels : List Label) : Nat :=
  (labels.foldl insert []).length

/-- A comparison of two labels. A version compares itself with versions and texts. A text leaves the
comparison with a version to the version, with the sides exchanged. Two plain values are compared as
values, and nothing else has an order. -/
def compares (c : Comparison) (a b : Label) : Except Failure Bool :=
  match a, b with
  | .version v, b =>
    match b.version? with
    | some w => (v.compares c w).mapError (.ofVersion v)
    | none => .error .unordered
  | .plain (.text s), .version w => (w.compares c.mirrored ⟨s⟩).mapError (.ofVersion w)
  | .plain v, .plain w =>
    match v.order? w with
    | some order => .ok (c.admits order)
    | none => .error .unordered
  | _, _ => .error .unordered

/-- The text of a label. -/
def text : Label → String
  | .platform p => p.name
  | .known k => "KnownPlatform." ++ k.label
  | .version v => v.text
  | .plain v => v.display

/-- The text of a label where a version is made of it. -/
def written : Label → Except Failure String
  | .plain v => v.written
  | l => .ok l.text

/-- The order of a version and whatever can be made a version of, by its text. The version is read
first. -/
def orderAsVersion (v : Version) (b : Label) : Except Failure Ordering :=
  match v.sortKey with
  | .error fault => .error (.ofVersion v fault)
  | .ok _ => do (v.order ⟨← b.written⟩).mapError (.ofVersion v)

end Label

end SdkScout
