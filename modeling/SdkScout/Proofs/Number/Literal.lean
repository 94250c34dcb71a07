import SdkScout.Number.Literal
import SdkScout.Proofs.Text.Blank
import SdkScout.Proofs.Text.Decimal

/-!
# Literals of digits alone

A run of ASCII digits is a literal without white space, sign and underscores, so an integer is read
from it as it stands (`Number.decimalInteger_of_digits`, `Number.integerIn?_of_digits`).
-/

namespace SdkScout

/-- There are so few digits that they can be tried out. -/
theorem Text.of_isDigit {p : Char → Prop} (h : ∀ n < 10, p (.ofNat (48 + n))) {c : Char}
    (hc : c.isDigit = true) : p c := by
  obtain ⟨hlow, hhigh⟩ := Char.isDigit_iff_toNat.mp hc
  have hzero : '0'.toNat = 48 := rfl
  have hnine : '9'.toNat = 57 := rfl
  obtain ⟨n, hn⟩ := Nat.exists_eq_add_of_le (hzero ▸ hlow)
  rw [← Char.ofNat_toNat c, hn]
  exact h n (by omega)

namespace Number

variable {digits : List Char}

theorem splitSign_of_digits (h : ∀ c ∈ digits, c.isDigit = true) :
    splitSign digits = (false, digits) := by
  cases digits with
  | nil => rfl
  | cons c digits =>
    have hc : c.isDigit = true := h c List.mem_cons_self
    have hminus : c ≠ '-' := by rintro rfl; exact absurd hc (by decide)
    have hplus : c ≠ '+' := by rintro rfl; exact absurd hc (by decide)
    simp [splitSign, hminus, hplus]

theorem asciiDigits_of_digits (h : ∀ c ∈ digits, c.isDigit = true) : asciiDigits digits = digits := by
  induction digits with
  | nil => rfl
  | cons c digits ih =>
    obtain ⟨hc, hdigits⟩ := List.forall_mem_cons.mp h
    have hfirst : asciiDigits [c] = [c] :=
      Text.of_isDigit (p := fun c => asciiDigits [c] = [c]) (by decide +kernel) hc
    calc asciiDigits (c :: digits) = asciiDigits [c] ++ asciiDigits digits := rfl
      _ = c :: digits := by rw [hfirst, ih hdigits, List.singleton_append]

theorem joinDigits?_eq_some {isDigit : Char → Bool} (h : '_' ∉ digits) :
    joinDigits? isDigit digits = some digits := by
  fun_induction joinDigits? isDigit digits <;> simp_all

/-- A run of digits as it is left of a literal. -/
theorem literal_of_digits (h : ∀ c ∈ digits, c.isDigit = true) :
    splitSign (asciiDigits (Text.strip digits)) = (false, digits) := by
  have hblank : ∀ c ∈ digits, Text.isBlank c = false := fun c hc =>
    Text.of_isDigit (p := fun c => Text.isBlank c = false) (by decide +kernel) (h c hc)
  rw [Text.strip_eq_self (Text.isTrimmed_of_forall hblank), asciiDigits_of_digits h,
    splitSign_of_digits h]

theorem underscore_notMem (h : ∀ c ∈ digits, c.isDigit = true) : '_' ∉ digits := fun hmem =>
  absurd (h _ hmem) (by decide)

/-- Digits are read as the number that they denote, unless there are too many. -/
theorem decimalInteger_of_digits (hne : digits ≠ []) (h : ∀ c ∈ digits, c.isDigit = true)
    (hlength : digits.length ≤ Text.digitLimit) :
    decimalInteger digits = .ok (Text.natOfDigits digits) := by
  have hdigits : digits? Char.isDigit digits = some digits :=
    if_pos ⟨hne, List.all_eq_true.mpr h⟩
  simp [decimalInteger, literal_of_digits h, joinDigits?_eq_some (underscore_notMem h), hdigits,
    Nat.not_lt.mpr hlength]

/-- To another base digits are read without a limit. -/
theorem integerIn?_of_digits {base : Nat} {mark : Char} (hmark : mark.isDigit = false)
    (hne : digits ≠ []) (h : ∀ c ∈ digits, c.isDigit = true)
    (hbase : ∀ c ∈ digits, isDigitIn base c = true) :
    integerIn? base mark digits = some (Text.natOfDigitsIn base Text.hexValue? digits : Nat) := by
  have hread : (joinDigits? (isDigitIn base) digits).bind (digits? (isDigitIn base)) =
      some digits := by
    rw [joinDigits?_eq_some (underscore_notMem h), Option.bind_some]
    exact if_pos ⟨hne, List.all_eq_true.mpr hbase⟩
  simp only [integerIn?, literal_of_digits h, Bool.false_eq_true, if_false]
  split
  · -- The second character is a digit, so it is no mark of a base.
    rename_i c rest
    have hc : c.isDigit = true := h c (by simp)
    have hlower : c.toLower = c :=
      Text.of_isDigit (p := fun c => c.toLower = c) (by decide +kernel) hc
    have hunmarked : ¬ c.toLower = mark := by
      rintro rfl
      exact Bool.false_ne_true (hmark.symm.trans (hlower.symm ▸ hc))
    rw [if_neg hunmarked, hread]
    rfl
  · rw [hread]
    rfl

end Number

end SdkScout
