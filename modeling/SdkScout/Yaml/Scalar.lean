import SdkScout.Number.Arithmetic
import SdkScout.Number.Literal
import SdkScout.Text.Base64
import SdkScout.Value
import SdkScout.Yaml.Timestamp

/-! The values of scalars by their tags. A number may hold underscores anywhere, and one with colons
has base sixty. -/

namespace SdkScout.Yaml.Scalar

def booleanWords : List (String × Bool) :=
  [("yes", true), ("no", false), ("true", true), ("false", false), ("on", true), ("off", false)]

/-- A truth value in any mixture of cases. -/
def boolean (text : List Char) : Except Fault Bool :=
  match booleanWords.lookup (String.ofList (text.map Char.toLower)) with
  | some b => .ok b
  | none => .error .badBoolean

/-- A number without its underscores and its sign. The flag tells whether the sign is a minus. -/
def splitNumber (text : List Char) : Except Fault (Bool × List Char) :=
  match text.filter (· ≠ '_') with
  | [] => .error .emptyNumber
  | cs => .ok (Number.splitSign cs)

def orBadInteger : Option Int → Except Fault Int
  | some n => .ok n
  | none => .error .badInteger

def decimal (cs : List Char) : Except Fault Int :=
  (Number.decimalInteger cs).mapError fun _ => .badInteger

def unsignedInteger : List Char → Except Fault Int
  | [] => .error .emptyNumber
  | '0' :: 'b' :: cs => orBadInteger (Number.integerIn? 2 'b' cs)
  | '0' :: 'x' :: cs => orBadInteger (Number.integerIn? 16 'x' cs)
  | '0' :: cs => orBadInteger (Number.integerIn? 8 'o' ('0' :: cs))
  | cs => do
    let places ← (cs.splitOn ':').mapM decimal
    return places.foldl (fun n place => 60 * n + place) 0

def integer (text : List Char) : Except Fault Int := do
  let (negative, body) ← splitNumber text
  let n ← unsignedInteger body
  return if negative then -n else n

/-- The sum of places of base sixty, the last place first. -/
def sumPlaces (sum : Binary64) (unit : Nat) : List Binary64 → Except Fault Binary64
  | [] => .ok sum
  | place :: places =>
    match Binary64.ofNat unit with
    | .infinite _ => .error .tooManyPlaces
    | factor => sumPlaces (sum.add (place.mul factor)) (60 * unit) places

def orBadFloat : Option Binary64 → Except Fault Binary64
  | some x => .ok x
  | none => .error .badFloat

def unsignedFloat (cs : List Char) : Except Fault Binary64 :=
  if cs = ".inf".toList then .ok (.infinite false)
  else if cs = ".nan".toList then .ok .nan
  else
    match cs.splitOn ':' with
    | [cs] => orBadFloat (Number.float? cs)
    | parts => do
      let places ← parts.mapM fun part => orBadFloat (Number.float? part)
      sumPlaces (.zero false) 1 places.reverse

def float (text : List Char) : Except Fault Binary64 := do
  let (negative, body) ← splitNumber (text.map Char.toLower)
  let x ← unsignedFloat body
  return if negative then x.neg else x

def binary (text : List Char) : Except Fault (List UInt8) :=
  match if text.all (·.toNat < 128) then Text.Base64.decode? text else none with
  | some bytes => .ok bytes
  | none => .error .malformed

def timestamp (text : List Char) : Except Fault Value :=
  match TimestampText.ofText? (Schema.dropLineEnd text) with
  | none => .error .notTimestamp
  | some t => t.value.map fun
    | .inl date => .date date
    | .inr time => .time time

/-- The value of a scalar. The tags of collections are none of a scalar, and the tags with a meaning
for keys alone are none of a value. -/
def value (tag : Tag) (text : List Char) : Except Fault Value :=
  match tag with
  | .null => .ok .null
  | .bool => (boolean text).map .bool
  | .int => (integer text).map .int
  | .float => (float text).map .float
  | .binary => (binary text).map .bytes
  | .timestamp => timestamp text
  | .str => .ok (.text (String.ofList text))
  | .orderedMapping | .pairs | .set | .list | .mapping | .merge | .value | .unknown =>
    .error .malformed

end SdkScout.Yaml.Scalar
