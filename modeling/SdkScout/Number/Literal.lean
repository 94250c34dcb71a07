import SdkScout.Number.Binary64
import SdkScout.Text.Blank
import SdkScout.Text.Digit

/-! Number literals as people write them in data: surrounded by white space, with a sign, with single
underscores between digits, and with the decimal digits of any script. -/

namespace SdkScout.Number

/-- Splits off a leading sign; the first component tells whether it is a minus. -/
def splitSign : List Char → Bool × List Char
  | '-' :: cs => (true, cs)
  | '+' :: cs => (false, cs)
  | cs => (false, cs)

/-- The ASCII form of a literal: every decimal digit replaced by the ASCII digit of its value. -/
def asciiDigits (cs : List Char) : List Char :=
  cs.map fun c =>
    match Text.digitValue? c with
    | some value => Char.ofNat ('0'.toNat + value)
    | none => c

/-- Removes underscores that stand alone between two digits; nothing if one stands elsewhere. -/
def joinDigits? (isDigit : Char → Bool) : List Char → Option (List Char)
  | c :: '_' :: d :: cs =>
    if isDigit c ∧ isDigit d then (joinDigits? isDigit (d :: cs)).map (c :: ·) else none
  | c :: cs => if c = '_' then none else (joinDigits? isDigit cs).map (c :: ·)
  | [] => some []

/-- A non-empty list of digits. -/
def digits? (isDigit : Char → Bool) (cs : List Char) : Option (List Char) :=
  if cs ≠ [] ∧ cs.all isDigit then some cs else none

/-- Why a literal denotes no integer. -/
inductive IntegerFault
  | malformed
  | oversized
  deriving DecidableEq, Repr

/-- A decimal integer. -/
def decimalInteger (cs : List Char) : Except IntegerFault Int :=
  let (negative, body) := splitSign (asciiDigits (Text.strip cs))
  match (joinDigits? Char.isDigit body).bind (digits? Char.isDigit) with
  | none => .error .malformed
  | some digits =>
    if Text.digitLimit < digits.length then .error .oversized
    else
      let n : Int := Text.natOfDigits digits
      .ok (if negative then -n else n)

def isDigitIn (base : Nat) (c : Char) : Bool := (Text.hexValue? c).any (· < base)

/-- An integer in a base of at most sixteen, with or without a zero and the mark of the base in
front. -/
def integerIn? (base : Nat) (mark : Char) (cs : List Char) : Option Int :=
  let (negative, body) := splitSign (asciiDigits (Text.strip cs))
  let digits :=
    match body with
    | '0' :: c :: rest =>
      if c.toLower = mark then if rest.head? = some '_' then rest.drop 1 else rest else body
    | body => body
  ((joinDigits? (isDigitIn base) digits).bind (digits? (isDigitIn base))).map fun digits =>
    let n : Int := Text.natOfDigitsIn base Text.hexValue? digits
    if negative then -n else n

def hexInteger? (cs : List Char) : Option Int := integerIn? 16 'x' cs

/-- An unsigned decimal: digits with at most one point among them, and an exponent. -/
def unsignedDecimal? (negative : Bool) (cs : List Char) : Option Binary64 :=
  let whole := cs.takeWhile Char.isDigit
  let afterWhole := cs.dropWhile Char.isDigit
  let (fraction, rest) :=
    match afterWhole with
    | '.' :: cs => (cs.takeWhile Char.isDigit, cs.dropWhile Char.isDigit)
    | cs => ([], cs)
  let exponent? : Option Int :=
    match rest with
    | [] => some 0
    | e :: cs =>
      if e = 'e' ∨ e = 'E' then
        let (minus, body) := splitSign cs
        (digits? Char.isDigit body).map fun digits =>
          let n : Int := Text.natOfDigits digits
          if minus then -n else n
      else none
  if whole = [] ∧ fraction = [] then none
  else exponent?.map fun exponent =>
    Binary64.ofDecimal negative (Text.natOfDigits (whole ++ fraction)) (exponent - fraction.length)

/-- A decimal, or one of the words for an infinity or for what is not a number, in any case. -/
def float? (cs : List Char) : Option Binary64 :=
  let (negative, body) := splitSign (asciiDigits (Text.strip cs))
  let word := String.ofList (body.map Char.toLower)
  if word = "inf" ∨ word = "infinity" then some (.infinite negative)
  else if word = "nan" then some .nan
  else (joinDigits? Char.isDigit body).bind (unsignedDecimal? negative)

end SdkScout.Number
