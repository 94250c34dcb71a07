import SdkScout.Calendar
import SdkScout.Number.Shortest
import SdkScout.Text.Quoted

/-! Decoded documents: what settings files and search profiles hold. A mapping keeps its entries in
document order and has no two entries with the same key. -/

namespace SdkScout

inductive Value
  | null
  | bool (b : Bool)
  | int (n : Int)
  | float (x : Binary64)
  | text (s : String)
  | bytes (b : List UInt8)
  | date (d : Date)
  | time (t : Timestamp)
  | uid (n : Nat)
  | list (items : List Value)
  | set (members : List Value)
  | mapping (entries : List (Value × Value))
  deriving Inhabited

namespace Value

/-- The values that count as nothing: null, false, every zero and every empty collection. -/
def isFalsy : Value → Bool
  | .null => true
  | .bool b => !b
  | .int n => n = 0
  | .float x => x.isZero
  | .text s => s = ""
  | .bytes b => b.isEmpty
  | .list xs | .set xs => xs.isEmpty
  | .mapping es => es.isEmpty
  | .date _ | .time _ | .uid _ => false

/-- The number that a value is as a key: truth values count as zero and one. -/
def integer? : Value → Option Int
  | .bool b => some b.toNat
  | .int n => some n
  | _ => none

/-- The order of two keys, for those kinds of keys that are ordered among each other. -/
def order? (v w : Value) : Option Ordering :=
  match v.integer?, w.integer? with
  | some a, some b => some (compare a b)
  | some a, none => match w with
    | .float y => (y.compareInt? a).map Ordering.swap
    | _ => none
  | none, some b => match v with
    | .float x => x.compareInt? b
    | _ => none
  | none, none => match v, w with
    | .float x, .float y => x.compare? y
    | .text a, .text b => some (compareOfLessAndEq a b)
    | .bytes a, .bytes b => some (compareOfLessAndEq (a.map (·.toNat)) (b.map (·.toNat)))
    | .date a, .date b => some (compare a.ordinal b.ordinal)
    | .time a, .time b =>
      if a.offset.isSome = b.offset.isSome then some (compare a.instant b.instant) else none
    | _, _ => none

/-- Whether two values are the same key. -/
def sameKey (v w : Value) : Bool :=
  match v, w with
  | .null, .null => true
  | .uid a, .uid b => a = b
  | v, w => v.order? w = some .eq

mutual
/-- Equality of values: of lists item by item, of mappings entry by entry in any order. -/
def same : Value → Value → Bool
  | .list xs, .list ys => sameAll xs ys
  | .set xs, .set ys => xs.length = ys.length && xs.all fun x => ys.any x.sameKey
  | .mapping es, .mapping fs => es.length = fs.length && sameEntries es fs
  | v, w => v.sameKey w

def sameAll : List Value → List Value → Bool
  | [], [] => true
  | x :: xs, y :: ys => x.same y && sameAll xs ys
  | _, _ => false

/-- Whether all entries of the first list occur in the second. -/
def sameEntries : List (Value × Value) → List (Value × Value) → Bool
  | [], _ => true
  | (key, value) :: es, fs =>
    (fs.any fun f => key.sameKey f.1 && value.same f.2) && sameEntries es fs
end

/-- Whether a value can be a key. -/
def isScalar : Value → Bool
  | .list _ | .set _ | .mapping _ => false
  | _ => true

/-- Adds an entry. An entry with the same key keeps its place and takes the new value. -/
def insertEntry (key value : Value) : List (Value × Value) → List (Value × Value)
  | [] => [(key, value)]
  | entry :: entries =>
    if entry.1.sameKey key then (entry.1, value) :: entries
    else entry :: insertEntry key value entries

/-- The entries in order, of which the last with a key gives the value and the first the place. -/
def ofEntries (entries : List (Value × Value)) : List (Value × Value) :=
  entries.foldl (fun es e => insertEntry e.1 e.2 es) []

def isKey (name : String) : Value → Bool
  | .text s => s = name
  | _ => false

/-- The value under a text key. -/
def field? (entries : List (Value × Value)) (name : String) : Option Value :=
  (entries.find? fun e => e.1.isKey name).map (·.2)

/-- Like `field?`, but an absent key has the value null. -/
def field (entries : List (Value × Value)) (name : String) : Value :=
  (field? entries name).getD .null

def quoteBytes (b : List UInt8) : String :=
  let chars := b.map fun x => Char.ofNat x.toNat
  let q := Text.quoteChar chars
  let escape (c : Char) : List Char :=
    if c.toNat < 0x7f then Text.escapeChar q c else '\\' :: 'x' :: Text.hexDigits 2 c.toNat
  String.ofList ('b' :: q :: chars.flatMap escape ++ [q])

mutual
/-- The form of a value inside a collection: texts are quoted. -/
def shown : Value → String
  | .null => "None"
  | .bool b => if b then "True" else "False"
  | .int n => ToString.toString n
  | .float x => x.text
  | .text s => Text.quote s
  | .bytes b => quoteBytes b
  | .date d => d.text
  | .time t => t.text " "
  | .uid n => "UID(" ++ ToString.toString n ++ ")"
  | .list xs => "[" ++ ", ".intercalate (shownAll xs) ++ "]"
  | .set xs => "\x7b" ++ ", ".intercalate (shownAll xs) ++ "\x7d"
  | .mapping es => "\x7b" ++ ", ".intercalate (shownEntries es) ++ "\x7d"

def shownAll : List Value → List String
  | [] => []
  | v :: vs => v.shown :: shownAll vs

def shownEntries : List (Value × Value) → List String
  | [] => []
  | (k, v) :: es => (k.shown ++ ": " ++ v.shown) :: shownEntries es
end

/-- The text of a value: a text stands for itself. -/
def display : Value → String
  | .text s => s
  | v => v.shown

mutual
/-- Whether a value can be written out: no integer in it has too many digits. -/
def isWritable : Value → Bool
  | .int n => (Text.digitsOfNat n.natAbs).length ≤ Text.digitLimit
  | .list xs | .set xs => allWritable xs
  | .mapping es => allEntriesWritable es
  | _ => true

def allWritable : List Value → Bool
  | [] => true
  | v :: vs => v.isWritable && allWritable vs

def allEntriesWritable : List (Value × Value) → Bool
  | [] => true
  | (k, v) :: es => k.isWritable && v.isWritable && allEntriesWritable es
end

/-- The text of a value that can be written out. -/
def display? (v : Value) : Option String :=
  if v.isWritable then some v.display else none

/-- What a value yields one by one: characters, bytes, items, or keys. -/
def elements? : Value → Option (List Value)
  | .text s => some (s.toList.map fun c => .text (String.singleton c))
  | .bytes b => some (b.map fun x => .int x.toNat)
  | .list xs | .set xs => some xs
  | .mapping es => some (es.map (·.1))
  | _ => none

def isNumber : Value → Bool
  | .bool _ | .int _ | .float _ => true
  | _ => false

/-- Whether two keys are of kinds that are ordered among each other; a key always is with itself. -/
def comparable (v w : Value) : Bool :=
  v.sameKey w || (v.order? w).isSome || (v.isNumber && w.isNumber)

/-- Sorts keys, if they are all ordered among each other. -/
def sortKeys? (keys : List Value) : Option (List Value) :=
  if keys.all fun k => keys.all k.comparable then
    some (keys.mergeSort fun k l => (k.order? l).all (·.isLE))
  else none

end Value

end SdkScout
