/-! UTF-16: units of two bytes, of which a high and a low surrogate together make one character. -/

namespace SdkScout.Text.Utf16

/-- Which byte of a unit comes first. -/
inductive Order
  | big
  | little
  deriving DecidableEq, Repr

def unit : Order → UInt8 → UInt8 → Nat
  | .big, a, b => 256 * a.toNat + b.toNat
  | .little, a, b => 256 * b.toNat + a.toNat

def isHigh (n : Nat) : Bool := 0xd800 ≤ n && n < 0xdc00

def isLow (n : Nat) : Bool := 0xdc00 ≤ n && n < 0xe000

/-- The characters of a byte sequence, with nothing in the place of a lone surrogate or of a byte
without its partner. -/
def decodeParts (order : Order) : List UInt8 → List (Option Char)
  | a :: b :: c :: d :: bytes =>
    let high := unit order a b
    let low := unit order c d
    if isHigh high && isLow low then
      some (Char.ofNat (0x10000 + 0x400 * (high - 0xd800) + (low - 0xdc00))) ::
        decodeParts order bytes
    else
      (if isHigh high || isLow high then none else some (Char.ofNat high)) ::
        decodeParts order (c :: d :: bytes)
  | a :: b :: bytes =>
    let n := unit order a b
    (if isHigh n || isLow n then none else some (Char.ofNat n)) :: decodeParts order bytes
  | [_] => [none]
  | [] => []
  termination_by bytes => bytes.length

def decode? (order : Order) (bytes : List UInt8) : Option (List Char) :=
  (decodeParts order bytes).mapM id

end SdkScout.Text.Utf16
