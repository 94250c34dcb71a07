import SdkScout.Proofs.Number.Literal
import SdkScout.Value
import SdkScout.Yaml.Fault

/-!
# Lines with digits

A document may be a single line: a key, a colon and digits, in quotes or without. In quotes they are a
text. Without them YAML 1.1 takes them for an integer; a zero in front of other digits makes it a number
to base eight, unless there is an eight or a nine among them, and then they are a text after all
(`Yaml.ofDigits`). Nothing more is asked of a reader of documents (`Yaml.ReadsDigits`).
-/

namespace SdkScout.Yaml

def Quoted.mark (double : Bool) : Char := if double then '"' else '\''

/-- How a scalar is written. -/
inductive Style
  | plain
  | quoted (double : Bool)

namespace Style

def isPlain : Style → Bool
  | plain => true
  | quoted _ => false

def write (text : List Char) : Style → List Char
  | plain => text
  | quoted double => Quoted.mark double :: text ++ [Quoted.mark double]

end Style

def line (key : String) (style : Style) (text lineEnd : List Char) : List Char :=
  key.toList ++ ':' :: ' ' :: (style.write text ++ lineEnd)

/-- Digits with a zero in front of others. -/
def IsPadded (digits : List Char) : Prop := digits.head? = some '0' ∧ digits.length ≠ 1

instance : DecidablePred IsPadded := fun _ => inferInstanceAs (Decidable (_ ∧ _))

/-- Digits that are read to base eight. -/
def IsOctal (digits : List Char) : Prop := IsPadded digits ∧ ∀ c ∈ digits, c < '8'

instance : DecidablePred IsOctal := fun digits =>
  decidable_of_iff (IsPadded digits ∧ digits.all (· < '8') = true) (by simp [IsOctal])

def octalValue (digits : List Char) : Nat := Text.natOfDigitsIn 8 Text.hexValue? digits

/-- What digits without quotes stand for in YAML 1.1. -/
def ofDigits (digits : List Char) : Value :=
  if IsOctal digits then .int (octalValue digits)
  else if IsPadded digits then .text (String.ofList digits)
  else .int (Text.natOfDigits digits)

/-- The parts of a line: one of some keys, digits, and a line feed or nothing at its end. -/
structure IsDigitLine (keys : List String) (key : String) (digits lineEnd : List Char) : Prop where
  key : key ∈ keys
  nonempty : digits ≠ []
  digits : ∀ c ∈ digits, c.isDigit = true
  lineEnd : lineEnd = [] ∨ lineEnd = ['\n']

/-- A reader of documents resolves the scalar of a line by the rules of YAML 1.1, unless its digits are
too many to be read. -/
structure ReadsDigits (keys : List String) (read : List Char → Except Fault Value) : Prop where
  plain : ∀ {key digits lineEnd}, IsDigitLine keys key digits lineEnd →
    digits.length ≤ Text.digitLimit →
    read (line key .plain digits lineEnd) = .ok (.mapping [(.text key, ofDigits digits)])
  quoted : ∀ {key digits lineEnd}, IsDigitLine keys key digits lineEnd → ∀ double : Bool,
    read (line key (.quoted double) digits lineEnd) =
      .ok (.mapping [(.text key, .text (String.ofList digits))])

variable {digits : List Char}

theorem hexValue?_of_isDigit {c : Char} (h : c.isDigit = true) :
    Text.hexValue? c = some (c.toNat - '0'.toNat) := if_pos h

theorem octalValue_append_singleton (front : List Char) {c : Char} (h : c.isDigit = true) :
    octalValue (front ++ [c]) = 8 * octalValue front + (c.toNat - '0'.toNat) := by
  simp [octalValue, Text.natOfDigitsIn, hexValue?_of_isDigit h]

/-- A number has the same value to either base if it is a single digit, and else less to base eight. -/
theorem octalValue_eq_or_lt (h : ∀ c ∈ digits, c.isDigit = true) (hoctal : ∀ c ∈ digits, c < '8') :
    octalValue digits < 8 ∧ octalValue digits = Text.natOfDigits digits ∨
      8 ≤ octalValue digits ∧ octalValue digits < Text.natOfDigits digits := by
  induction digits using List.reverseRecOn with
  | nil => exact .inl ⟨by decide, rfl⟩
  | append_singleton front c ih =>
    rw [List.forall_mem_append, List.forall_mem_singleton] at h hoctal
    have hdigit : c.toNat - '0'.toNat < 8 := Text.of_isDigit
      (p := fun c => c < '8' → c.toNat - '0'.toNat < 8) (by decide +kernel) h.2 hoctal.2
    rw [octalValue_append_singleton front h.2, Text.natOfDigits_append_singleton]
    rcases ih h.1 hoctal.1 with ih | ih <;> omega

/-- Base eight never makes a number greater. -/
theorem octalValue_le (h : ∀ c ∈ digits, c.isDigit = true) (hoctal : IsOctal digits) :
    octalValue digits ≤ Text.natOfDigits digits := by
  rcases octalValue_eq_or_lt h hoctal.2 with ⟨-, heq⟩ | ⟨-, hlt⟩
  · exact heq.le
  · exact hlt.le

end SdkScout.Yaml
