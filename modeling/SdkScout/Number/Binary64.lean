/-! Double-precision numbers as exact values: a sign, a mantissa below `2 ^ 53` and a binary exponent
of at least `-1074`. A quotient is rounded to the nearest of them, ties to the even mantissa. -/

namespace SdkScout

/-- `finite negative m e` has the absolute value `m * 2 ^ e`. -/
inductive Binary64
  | nan
  | infinite (negative : Bool)
  | finite (negative : Bool) (mantissa : Nat) (exponent : Int)
  deriving DecidableEq, Repr

namespace Binary64

def minExponent : Int := -1074

def maxExponent : Int := 971

def zero (negative : Bool) : Binary64 := .finite negative 0 minExponent

/-- A power of two, one for a negative exponent. -/
def pow2 (e : Int) : Nat := Nat.pow 2 e.toNat

/-- A power of ten, one for a negative exponent. -/
def pow10 (e : Int) : Nat := Nat.pow 10 e.toNat

/-- The integer nearest to a quotient, the even one of two. -/
def divNearest (num den : Nat) : Nat :=
  let q := num / den
  let twice := 2 * (num % den)
  if den < twice ∨ (twice = den ∧ q % 2 = 1) then q + 1 else q

/-- The integer nearest to `num / den / 2 ^ e`. -/
def scaledNearest (num den : Nat) (e : Int) : Nat :=
  divNearest (num * pow2 (-e)) (den * pow2 e)

/-- The binary exponent that gives `num / den` a mantissa of 53 bits, or the least one. -/
def exponentOf (num den : Nat) : Int :=
  let e : Int := num.log2 - den.log2 - 53
  let fits := num * pow2 (-e) < den * pow2 e * pow2 53
  max minExponent (if fits then e else e + 1)

/-- The double nearest to a quotient of natural numbers, infinite beyond the largest. -/
def ofRatio (negative : Bool) (num den : Nat) : Binary64 :=
  if num = 0 then zero negative
  else
    let e := exponentOf num den
    let m := scaledNearest num den e
    let (m, e) := if m = pow2 53 then (pow2 52, e + 1) else (m, e)
    if maxExponent < e then .infinite negative else .finite negative m e

/-- The double nearest to `coefficient * 10 ^ exponent`. Magnitudes far outside the range are
decided by their number of digits alone. -/
def ofDecimal (negative : Bool) (coefficient : Nat) (exponent : Int) : Binary64 :=
  if coefficient = 0 then zero negative
  else
    let magnitude := exponent + (Nat.toDigits 10 coefficient).length
    if 400 < magnitude then .infinite negative
    else if magnitude < -400 then zero negative
    else ofRatio negative (coefficient * pow10 exponent) (pow10 (-exponent))

/-- The value of a binary interchange format with the given widths of exponent and fraction. -/
def ofFormat (exponentBits fractionBits bits : Nat) : Binary64 :=
  let fraction := bits % pow2 fractionBits
  let biased := bits / pow2 fractionBits % pow2 exponentBits
  let negative := bits / pow2 (fractionBits + exponentBits) % 2 = 1
  let bias : Int := pow2 (exponentBits - 1) - 1
  if biased = pow2 exponentBits - 1 then
    if fraction = 0 then .infinite negative else .nan
  else
    let m := if biased = 0 then fraction else fraction + pow2 fractionBits
    let e := max (biased : Int) 1 - bias - fractionBits
    ofRatio negative (m * pow2 e) (pow2 (-e))

def ofBits32 (bits : Nat) : Binary64 := ofFormat 8 23 bits

def ofBits64 (bits : Nat) : Binary64 := ofFormat 11 52 bits

def isZero : Binary64 → Bool
  | .finite _ m _ => m = 0
  | _ => false

/-- The order of a number and an integer; nothing compares with what is not a number. -/
def compareInt? : Binary64 → Int → Option Ordering
  | .nan, _ => none
  | .infinite negative, _ => some (if negative then .lt else .gt)
  | .finite negative m e, n =>
    let scaled : Int := (m * pow2 e : Nat)
    some (compare (if negative then -scaled else scaled) (n * pow2 (-e)))

def compare? : Binary64 → Binary64 → Option Ordering
  | .nan, _ | _, .nan => none
  | .infinite a, .infinite b => some (compare b.toNat a.toNat)
  | .infinite negative, .finite .. => some (if negative then .lt else .gt)
  | .finite .., .infinite negative => some (if negative then .gt else .lt)
  | .finite a m e, .finite b n f =>
    let low := min e f
    let x : Int := (m * pow2 (e - low) : Nat)
    let y : Int := (n * pow2 (f - low) : Nat)
    some (compare (if a then -x else x) (if b then -y else y))

end Binary64

end SdkScout
