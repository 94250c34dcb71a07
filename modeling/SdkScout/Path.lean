import SdkScout.Text.Quoted

/-! Slash-separated paths, taken as their components: repeated and trailing slashes and lone dots
mean nothing, `..` is a component like any other, and exactly two leading slashes are a root of
their own. -/

namespace SdkScout

namespace Path

/-- What may stand between two slashes and names something. -/
def IsComponent (text : String) : Prop :=
  text ≠ "" ∧ text ≠ "." ∧ '/' ∉ text.toList

instance : DecidablePred IsComponent := fun _ => inferInstanceAs (Decidable (_ ∧ _))

structure Component where
  text : String
  valid : IsComponent text
  deriving DecidableEq

def Component.ofString? (text : String) : Option Component :=
  if h : IsComponent text then some ⟨text, h⟩ else none

/-- Where a path starts. -/
inductive Root
  | relative
  | slash
  | doubleSlash
  deriving DecidableEq, Repr

def Root.text : Root → String
  | relative => ""
  | slash => "/"
  | doubleSlash => "//"

def Root.ofChars : List Char → Root
  | '/' :: '/' :: '/' :: _ => slash
  | '/' :: '/' :: _ => doubleSlash
  | '/' :: _ => slash
  | _ => relative

end Path

structure Path where
  root : Path.Root
  parts : List Path.Component
  deriving DecidableEq

namespace Path

def ofString (text : String) : Path where
  root := Root.ofChars text.toList
  parts := (text.toList.splitOn '/').filterMap fun part => Component.ofString? (String.ofList part)

def toString (p : Path) : String :=
  let text := p.root.text ++ "/".intercalate (p.parts.map (·.text))
  if text = "" then "." else text

instance : ToString Path := ⟨toString⟩

/-- The last component. The roots and the empty path have the empty name. -/
def name (p : Path) : String :=
  (p.parts.getLast?.map (·.text)).getD ""

def child (p : Path) (c : Component) : Path :=
  { p with parts := p.parts ++ [c] }

def descend (p : Path) (cs : List Component) : Path :=
  { p with parts := p.parts ++ cs }

/-- The path `q` seen from `p`: an absolute path replaces what stands before it. -/
def join (p q : Path) : Path :=
  if q.root = .relative then p.descend q.parts else q

/-- The root, if there is one, and the components, as paths are compared by. -/
def key (p : Path) : List String :=
  if p.root = .relative then p.parts.map (·.text) else p.root.text :: p.parts.map (·.text)

instance : LT Path := ⟨fun p q => p.key < q.key⟩

instance : LE Path := ⟨fun p q => ¬ q.key < p.key⟩

instance : DecidableLT Path := fun p q => inferInstanceAs (Decidable (p.key < q.key))

instance : DecidableLE Path := fun p q => inferInstanceAs (Decidable (¬ q.key < p.key))

/-- Sorts by a path, keeping the order of elements with the same path. -/
def sortOn (path : α → Path) (xs : List α) : List α :=
  xs.mergeSort fun x y => decide (path x ≤ path y)

@[simp] theorem name_child (p : Path) (c : Component) : (p.child c).name = c.text := by
  simp [name, child]

@[simp] theorem root_child (p : Path) (c : Component) : (p.child c).root = p.root := rfl

end Path

end SdkScout
