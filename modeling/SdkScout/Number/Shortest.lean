import SdkScout.Number.Binary64
import SdkScout.Text.Digit

/-! The shortest decimal text that reads back as a double: the fewest digits with which some decimal
lies among the numbers that round to it, and of those decimals the nearest. -/

namespace SdkScout.Binary64

/-- The numbers that round to a double, as numerators over one denominator. The ends belong to them
if and only if the mantissa is even. -/
structure Interval where
  low : Nat
  value : Nat
  high : Nat
  denominator : Nat
  closed : Bool

/-- Below a power of two the neighbours lie half as far apart. -/
def interval (m : Nat) (e : Int) : Interval :=
  let up := pow2 e
  { low := (if m = pow2 52 ∧ minExponent < e then 4 * m - 1 else 4 * m - 2) * up
    value := 4 * m * up
    high := (4 * m + 2) * up
    denominator := 4 * pow2 (-e)
    closed := m % 2 = 0 }

/-- Whether `n * 10 ^ k` lies in the interval. -/
def Interval.contains (i : Interval) (n : Nat) (k : Int) : Bool :=
  let x := n * pow10 k * i.denominator
  let scale := pow10 (-k)
  if i.closed then i.low * scale ≤ x && x ≤ i.high * scale
  else i.low * scale < x && x < i.high * scale

/-- The exponent of the first decimal digit of `num / den`. -/
def decimalExponent (num den : Nat) : Int :=
  if den ≤ num then ((Nat.toDigits 10 (num / den)).length : Int) - 1
  else -((Nat.toDigits 10 ((den + num - 1) / num - 1)).length : Int)

/-- The decimals `n * 10 ^ k` next to the value on both sides, the nearer one first, and of two
equally near ones the even one. -/
def Interval.neighbours (i : Interval) (k : Int) : List Nat :=
  let num := i.value * pow10 (-k)
  let den := i.denominator * pow10 k
  let below := num / den
  if Binary64.divNearest num den = below then [below, below + 1] else [below + 1, below]

/-- Tries the grids of decimals from the coarsest on: a decimal in the interval with at most `more`
digits after its first, and the exponent of its last digit. -/
def Interval.shortest (i : Interval) (k : Int) : (more : Nat) → Nat × Int
  | 0 => ((i.neighbours k).headD 0, k)
  | more + 1 =>
    match (i.neighbours k).find? (i.contains · k) with
    | some n => (n, k)
    | none => i.shortest (k - 1) more

/-- The significant digits without trailing zeros, and the exponent of the first. -/
def shortestDigits (m : Nat) (e : Int) : List Char × Int :=
  let i := interval m e
  let (n, k) := i.shortest (decimalExponent i.value i.denominator) 17
  let digits := Text.digitsOfNat n
  ((digits.reverse.dropWhile (· = '0')).reverse, k + digits.length - 1)

/-- Digits with the decimal point after the digit of exponent zero, padded with zeros. -/
def positional (digits : List Char) (exponent : Int) : List Char :=
  if exponent < 0 then
    '0' :: '.' :: List.replicate (-exponent - 1).toNat '0' ++ digits
  else
    let whole := exponent.toNat + 1
    let padded := digits ++ List.replicate (whole - digits.length) '0'
    let fraction := padded.drop whole
    padded.take whole ++ '.' :: (if fraction = [] then ['0'] else fraction)

/-- One digit before the point, and an exponent with a sign and at least two digits. -/
def scientific (digits : List Char) (exponent : Int) : List Char :=
  let power := Text.digitsOfNat exponent.natAbs
  let fraction := digits.drop 1
  digits.take 1 ++ (if fraction = [] then [] else '.' :: fraction) ++
    'e' :: (if exponent < 0 then '-' else '+') ::
    (List.replicate (2 - power.length) '0' ++ power)

/-- The shortest text: positional for exponents from `-4` to `15`, scientific for all others. -/
def text : Binary64 → String
  | .nan => "nan"
  | .infinite negative => if negative then "-inf" else "inf"
  | .finite negative m e =>
    let body :=
      if m = 0 then ['0', '.', '0']
      else
        let (digits, exponent) := shortestDigits m e
        if -4 ≤ exponent ∧ exponent < 16 then positional digits exponent
        else scientific digits exponent
    String.ofList (if negative then '-' :: body else body)

end SdkScout.Binary64
