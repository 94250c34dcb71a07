/-! Base64, read leniently: characters outside of the alphabet are skipped, and the text ends with the
padding that completes a group of four. -/

namespace SdkScout.Text.Base64

def digit? (c : Char) : Option Nat :=
  if 'A' ≤ c ∧ c ≤ 'Z' then some (c.toNat - 'A'.toNat)
  else if 'a' ≤ c ∧ c ≤ 'z' then some (c.toNat - 'a'.toNat + 26)
  else if c.isDigit then some (c.toNat - '0'.toNat + 52)
  else if c = '+' then some 62
  else if c = '/' then some 63
  else none

/-- Reads on with the digits of an unfinished group and the padding that has been seen in it. A digit
after padding starts the padding anew. -/
def readGroups (group : List Nat) (pads : Nat) : List Char → Option (List UInt8)
  | [] => if group = [] then some [] else none
  | '=' :: cs =>
    match group with
    | [a, b] =>
      if pads + 1 = 2 then some [.ofNat (4 * a + b / 16)] else readGroups group (pads + 1) cs
    | [a, b, c] => some [.ofNat (4 * a + b / 16), .ofNat (16 * (b % 16) + c / 4)]
    | group => readGroups group pads cs
  | x :: cs =>
    match digit? x, group with
    | none, group => readGroups group pads cs
    | some d, [a, b, c] =>
      (readGroups [] 0 cs).map
        ([.ofNat (4 * a + b / 16), .ofNat (16 * (b % 16) + c / 4), .ofNat (64 * (c % 4) + d)] ++ ·)
    | some d, group => readGroups (group ++ [d]) 0 cs

def decode? (cs : List Char) : Option (List UInt8) :=
  readGroups [] 0 cs

end SdkScout.Text.Base64
