import SdkScout.Number.Binary64

/-! Sums and products of doubles, rounded once from the exact result. -/

namespace SdkScout.Binary64

def ofNat (n : Nat) : Binary64 := ofRatio false n 1

def neg : Binary64 → Binary64
  | nan => nan
  | infinite negative => infinite (!negative)
  | finite negative m e => finite (!negative) m e

/-- The double nearest to `n * 2 ^ e`. An exact zero has the given sign. -/
def ofScaled (zeroNegative : Bool) (n e : Int) : Binary64 :=
  if n = 0 then zero zeroNegative
  else ofRatio (n < 0) (n.natAbs * pow2 e) (pow2 (-e))

/-- A sum that is zero is negative only if both terms are. -/
def add : Binary64 → Binary64 → Binary64
  | nan, _ | _, nan => nan
  | infinite a, infinite b => if a = b then infinite a else nan
  | infinite a, finite .. | finite .., infinite a => infinite a
  | finite a m e, finite b n f =>
    let low := min e f
    let x : Int := (m * pow2 (e - low) : Nat)
    let y : Int := (n * pow2 (f - low) : Nat)
    ofScaled (a && b) ((if a then -x else x) + (if b then -y else y)) low

def mul : Binary64 → Binary64 → Binary64
  | nan, _ | _, nan => nan
  | infinite a, infinite b => infinite (a != b)
  | infinite a, finite b m _ | finite b m _, infinite a => if m = 0 then nan else infinite (a != b)
  | finite a m e, finite b n f =>
    let x : Int := (m * n : Nat)
    ofScaled (a != b) (if a = b then x else -x) (e + f)

end SdkScout.Binary64
