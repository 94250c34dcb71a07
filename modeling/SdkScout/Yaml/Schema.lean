/-! The tags of YAML 1.1 that have a meaning, and the tag that a plain scalar has by its form. -/

namespace SdkScout.Yaml

inductive Tag
  | null
  | bool
  | int
  | float
  | binary
  | timestamp
  | orderedMapping
  | pairs
  | set
  | str
  | list
  | mapping
  /-- The key under which other mappings are merged in. -/
  | merge
  /-- The key of a mapping's value as a scalar. -/
  | value
  /-- A tag without a meaning. -/
  | unknown
  deriving DecidableEq, Repr

namespace Tag

/-- What all tags with a meaning start with. -/
def domain : String := "tag:yaml.org,2002:"

def names : List (String × Tag) :=
  [("null", null), ("bool", bool), ("int", int), ("float", float), ("binary", binary),
    ("timestamp", timestamp), ("omap", orderedMapping), ("pairs", pairs), ("set", set), ("str", str),
    ("seq", list), ("map", mapping), ("merge", merge), ("value", value)]

def ofUri (uri : String) : Tag :=
  ((names.find? fun name => domain ++ name.1 = uri).map (·.2)).getD unknown

end Tag

namespace Schema

def nulls : List String := ["", "~", "null", "Null", "NULL"]

def booleans : List String :=
  ["yes", "Yes", "YES", "no", "No", "NO", "true", "True", "TRUE", "false", "False", "FALSE", "on", "On",
    "ON", "off", "Off", "OFF"]

def dropSign : List Char → List Char
  | '+' :: cs | '-' :: cs => cs
  | cs => cs

def isOneOf (chars : List Char) (c : Char) : Bool := chars.contains c || c = '_'

def isSome (p : Char → Bool) (cs : List Char) : Bool := cs ≠ [] && cs.all p

def isDigitOrMark (c : Char) : Bool := c.isDigit || c = '_'

def isHexOrMark (c : Char) : Bool :=
  c.isDigit || ('a' ≤ c && c ≤ 'f') || ('A' ≤ c && c ≤ 'F') || c = '_'

/-- One or two digits below sixty. -/
def isSixtieth : List Char → Bool
  | [a] => a.isDigit
  | [a, b] => '0' ≤ a && a ≤ '5' && b.isDigit
  | _ => false

/-- A first number and at least one sixtieth after it, each behind a colon. -/
def isSexagesimal (first : List Char → Bool) (cs : List Char) : Bool :=
  match cs.splitOn ':' with
  | whole :: part :: parts => first whole && (part :: parts).all isSixtieth
  | _ => false

/-- Digits and underscores, of which the first is a digit. -/
def isNumber : List Char → Bool
  | c :: cs => c.isDigit && cs.all isDigitOrMark
  | [] => false

/-- Like `isNumber`, without a leading zero. -/
def isNatural : List Char → Bool
  | c :: cs => c.isDigit && c ≠ '0' && cs.all isDigitOrMark
  | [] => false

def isInteger (text : List Char) : Bool :=
  match dropSign text with
  | '0' :: 'b' :: cs => isSome (isOneOf ['0', '1']) cs
  | '0' :: 'x' :: cs => isSome isHexOrMark cs
  | ['0'] => true
  | '0' :: cs => cs.all (isOneOf ['0', '1', '2', '3', '4', '5', '6', '7'])
  | cs => isNatural cs || isSexagesimal isNatural cs

/-- An exponent with its sign, or nothing. -/
def isExponent : List Char → Bool
  | [] => true
  | e :: sign :: digits =>
    (e = 'e' || e = 'E') && (sign = '+' || sign = '-') && isSome Char.isDigit digits
  | _ => false

def infinities : List String := [".inf", ".Inf", ".INF"]

def notNumbers : List String := [".nan", ".NaN", ".NAN"]

/-- A decimal has a point. Its exponent has a sign, and it has none if its parts are sixtieths. -/
def isDecimal (text : List Char) : Bool :=
  let unsigned := dropSign text
  let whole := unsigned.takeWhile (· ≠ '.')
  match unsigned.drop whole.length with
  | '.' :: cs =>
    let fraction := cs.takeWhile isDigitOrMark
    let rest := cs.drop fraction.length
    if whole = [] then text.head? = some '.' && isNumber fraction && isExponent rest
    else (isNumber whole && isExponent rest) || (isSexagesimal isNumber whole && rest = [])
  | _ => false

def isFloat (text : List Char) : Bool :=
  isDecimal text || infinities.contains (String.ofList (dropSign text)) ||
    notNumbers.contains (String.ofList text)

/-- A scalar without a line end after its last character, which does not count for its form. -/
def dropLineEnd (cs : List Char) : List Char :=
  if cs.length ≠ 1 ∧ cs.getLast? = some '\n' then cs.dropLast else cs

/-- Splits off a number of between `least` and `most` digits. -/
def digits? (least most : Nat) (cs : List Char) : Option (List Char × List Char) :=
  let run := (cs.take most).takeWhile Char.isDigit
  if least ≤ run.length then some (run, cs.drop run.length) else none

/-- A number behind a mark. -/
def digitsAfter? (mark : Char) (least most : Nat) (cs : List Char) :
    Option (List Char × List Char) :=
  match cs with
  | c :: cs => if c = mark then digits? least most cs else none
  | [] => none

end Schema

end SdkScout.Yaml
