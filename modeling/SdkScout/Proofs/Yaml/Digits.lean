import Mathlib.Data.List.TakeWhile
import SdkScout.Proofs.Yaml.Entry

/-!
# The reader on lines with digits

A plain scalar of digits is resolved as it should be (`Yaml.value_of_digits`), so the reader of whole
documents is one on lines with digits (`Yaml.readsDigits_read`).
-/

namespace SdkScout.Yaml

namespace Schema

variable {digits : List Char} (hne : digits ≠ []) (h : ∀ c ∈ digits, c.isDigit = true)

/-- A digit is none of the other characters. -/
theorem ne_of_isDigit {c x : Char} (h : c.isDigit = true) (hx : x.isDigit = false) : c ≠ x := by
  rintro rfl
  exact Bool.false_ne_true (hx.symm.trans h)

section
include h

theorem dropSign_of_digits : dropSign digits = digits := by
  cases digits with
  | nil => rfl
  | cons c digits =>
    have hc : c.isDigit = true := h c List.mem_cons_self
    simp [dropSign, ne_of_isDigit hc (x := '+') (by decide), ne_of_isDigit hc (x := '-') (by decide)]

theorem dropLineEnd_of_digits : dropLineEnd digits = digits := by
  refine if_neg fun hend => ?_
  exact ne_of_isDigit (h _ (List.mem_of_getLast? hend.2)) (by decide) rfl

include hne in
/-- Words that start with something else are no digits. -/
theorem ofList_notMem (words : List String)
    (hwords : ∀ word ∈ words, ¬ word.toList.head?.any Char.isDigit = true) :
    String.ofList digits ∉ words := by
  obtain ⟨c, rest, rfl⟩ := List.exists_cons_of_ne_nil hne
  exact fun hmem => hwords _ hmem (by simpa using h c List.mem_cons_self)

include hne in
theorem isFloat_of_digits : isFloat digits = false := by
  have hwhole : digits.takeWhile (· ≠ '.') = digits :=
    List.takeWhile_eq_self_iff.mpr fun c hc => by simpa using ne_of_isDigit (h c hc) (by decide)
  have hdecimal : isDecimal digits = false := by
    rw [isDecimal, dropSign_of_digits h]
    simp only [hwhole, List.drop_length]
  simp [isFloat, hdecimal, dropSign_of_digits h, ofList_notMem hne h infinities (by decide),
    ofList_notMem hne h notNumbers (by decide)]

theorem digitsAfter?_of_digits {mark : Char} (hmark : mark.isDigit = false) (least most : Nat) :
    digitsAfter? mark least most digits = none := by
  cases digits with
  | nil => rfl
  | cons c digits => exact if_neg (ne_of_isDigit (h c List.mem_cons_self) hmark)

theorem isImplicit_of_digits : TimestampText.isImplicit digits = false := by
  have hnone : TimestampText.ofText? digits = none := by
    rw [TimestampText.ofText?, digits?]
    split
    · have hhyphen : '-'.isDigit = false := rfl
      have hrest : ∀ n, ∀ c ∈ digits.drop n, c.isDigit = true := fun n c hc =>
        h c (List.mem_of_mem_drop hc)
      simp [digitsAfter?_of_digits (hrest _) hhyphen]
    · rfl
  rw [TimestampText.isImplicit, hnone]

include hne in
/-- Digits are an integer, unless padding asks for the base eight and one of them is none of its
digits. -/
theorem isInteger_of_digits : isInteger digits = decide (IsPadded digits → IsOctal digits) := by
  rw [isInteger, dropSign_of_digits h]
  obtain ⟨c, rest, rfl⟩ := List.exists_cons_of_ne_nil hne
  obtain ⟨hc, hrest⟩ := List.forall_mem_cons.mp h
  by_cases hzero : c = '0'
  · subst hzero
    cases rest with
    | nil => rfl
    | cons d rest =>
      have hd : d.isDigit = true := hrest d List.mem_cons_self
      have hb : d ≠ 'b' := ne_of_isDigit hd (by decide)
      have hx : d ≠ 'x' := ne_of_isDigit hd (by decide)
      have hoctal : ∀ c ∈ d :: rest, isOneOf ['0', '1', '2', '3', '4', '5', '6', '7'] c =
          decide (c < '8') := fun c hc =>
        Text.of_isDigit (p := fun c => isOneOf ['0', '1', '2', '3', '4', '5', '6', '7'] c =
          decide (c < '8')) (by decide +kernel) (hrest c hc)
      have hall : (d :: rest).all (isOneOf ['0', '1', '2', '3', '4', '5', '6', '7']) =
          decide (∀ c ∈ d :: rest, c < '8') := by
        rw [Bool.eq_iff_iff, List.all_eq_true, decide_eq_true_iff]
        exact forall₂_congr fun c hc => by rw [hoctal c hc, decide_eq_true_iff]
      have hpadded : IsPadded ('0' :: d :: rest) := ⟨rfl, by simp⟩
      have hiff : (IsPadded ('0' :: d :: rest) → IsOctal ('0' :: d :: rest)) ↔
          ∀ c ∈ d :: rest, c < '8' := by
        rw [forall_prop_of_true hpadded, IsOctal, and_iff_right hpadded, List.forall_mem_cons,
          and_iff_right (by decide)]
      rw [decide_eq_decide.mpr hiff, ← hall]
      simp [hb, hx]
  · have hnot : ¬ IsPadded (c :: rest) := fun hpadded => hzero (by simpa using hpadded.1)
    have hmarks : rest.all isDigitOrMark = true :=
      List.all_eq_true.mpr fun d hd => by rw [isDigitOrMark, hrest d hd, Bool.true_or]
    have hnatural : isNatural (c :: rest) = true := by simp [isNatural, hc, hzero, hmarks]
    rw [decide_eq_true (fun hpadded => absurd hpadded hnot)]
    simp [hzero, hnatural]

include hne in
theorem implicitTag_of_digits :
    implicitTag digits = if IsPadded digits → IsOctal digits then .int else .str := by
  have hmerge : String.ofList digits ≠ "<<" :=
    List.ne_of_not_mem_cons (ofList_notMem hne h ["<<"] (by decide))
  have hvalue : String.ofList digits ≠ "=" :=
    List.ne_of_not_mem_cons (ofList_notMem hne h ["="] (by decide))
  simp only [implicitTag, dropLineEnd_of_digits h, isFloat_of_digits hne h,
    isInteger_of_digits hne h, isImplicit_of_digits h, List.contains_eq_mem,
    ofList_notMem hne h booleans (by decide), ofList_notMem hne h nulls (by decide), hmerge, hvalue,
    decide_false, decide_eq_true_eq, Bool.false_eq_true, if_false]

end

end Schema

namespace Scalar

variable {digits : List Char} (hne : digits ≠ []) (h : ∀ c ∈ digits, c.isDigit = true)
include hne h

theorem integer_eq_unsigned : integer digits = unsignedInteger digits := by
  have hfilter : digits.filter (· ≠ '_') = digits := List.filter_eq_self.mpr fun c hc => by
    simpa using Schema.ne_of_isDigit (h c hc) (by decide)
  obtain ⟨c, rest, rfl⟩ := List.exists_cons_of_ne_nil hne
  have hsplit : splitNumber (c :: rest) = .ok (false, c :: rest) := by
    rw [splitNumber, hfilter]
    exact congrArg Except.ok (Number.splitSign_of_digits h)
  rw [integer, hsplit, Except.ok_bind]
  exact bind_pure (unsignedInteger (c :: rest))

/-- A zero in front asks for the base eight. -/
theorem integer_of_octal (hoctal : IsOctal digits) : integer digits = .ok (octalValue digits) := by
  have hbase : ∀ c ∈ digits, Number.isDigitIn 8 c = true := fun c hc =>
    Text.of_isDigit (p := fun c => c < '8' → Number.isDigitIn 8 c = true) (by decide +kernel) (h c hc)
      (hoctal.2 c hc)
  have hmark : 'o'.isDigit = false := rfl
  have hread := Number.integerIn?_of_digits hmark hne h hbase
  rw [integer_eq_unsigned hne h]
  obtain ⟨c, rest, rfl⟩ := List.exists_cons_of_ne_nil hne
  obtain rfl : c = '0' := by simpa using hoctal.1.1
  cases rest with
  | nil => exact absurd rfl hoctal.1.2
  | cons d rest =>
    have hd : d.isDigit = true := h d (by simp)
    have hb : d ≠ 'b' := Schema.ne_of_isDigit hd (by decide)
    have hx : d ≠ 'x' := Schema.ne_of_isDigit hd (by decide)
    simp [unsignedInteger, hb, hx, hread, orBadInteger, octalValue]

/-- Without padding the digits are a decimal integer. -/
theorem integer_of_not_padded (hpadded : ¬ IsPadded digits)
    (hlength : digits.length ≤ Text.digitLimit) :
    integer digits = .ok (Text.natOfDigits digits) := by
  have hdecimal : decimal digits = .ok (Text.natOfDigits digits) := by
    rw [decimal, Number.decimalInteger_of_digits hne h hlength]
    rfl
  have hsplit : digits.splitOn ':' = [digits] := List.splitOnP_eq_singleton fun c hc => by
    simpa using Schema.ne_of_isDigit (h c hc) (by decide)
  rw [integer_eq_unsigned hne h]
  obtain ⟨c, rest, rfl⟩ := List.exists_cons_of_ne_nil hne
  by_cases hzero : c = '0'
  · subst hzero
    -- Nothing stands behind a zero that pads nothing.
    obtain rfl : rest = [] := by
      by_contra hrest
      exact hpadded ⟨rfl, by simpa using hrest⟩
    rfl
  · simp [unsignedInteger, hzero, hsplit, hdecimal]

end Scalar

/-- A plain scalar of digits has the value that they stand for. -/
theorem value_of_digits {digits : List Char} (hne : digits ≠ [])
    (h : ∀ c ∈ digits, c.isDigit = true) (hlength : digits.length ≤ Text.digitLimit) :
    Scalar.value (Schema.implicitTag digits) digits = .ok (ofDigits digits) := by
  rw [Schema.implicitTag_of_digits hne h, ofDigits]
  by_cases hoctal : IsOctal digits
  · rw [if_pos fun _ => hoctal, if_pos hoctal, Scalar.value, Scalar.integer_of_octal hne h hoctal]
    rfl
  · rw [if_neg hoctal]
    by_cases hpadded : IsPadded digits
    · rw [if_neg fun himp => hoctal (himp hpadded), if_pos hpadded]
      rfl
    · rw [if_pos fun hpad => absurd hpad hpadded, if_neg hpadded, Scalar.value,
        Scalar.integer_of_not_padded hne h hpadded hlength]
      rfl

/-- The reader of whole documents is one that a line can be left to, if its key is a word that stands
for nothing but itself. -/
theorem readsDigits_read {keys : List String} (hkeys : ∀ key ∈ keys, IsWord key.toList ∧
    key.toList.length ≤ Lexer.candidateReach ∧ Schema.implicitTag key.toList = .str) :
    ReadsDigits keys read := by
  have hword {key : String} {digits lineEnd : List Char} (h : IsDigitLine keys key digits lineEnd) :
      IsWord digits := ⟨h.nonempty, fun c hc => by simp [isWordChar, Char.isAlphanum, h.digits c hc]⟩
  refine ⟨fun h hlength => ?_, fun h double => ?_⟩
  · obtain ⟨hkey, hreach, hstr⟩ := hkeys _ h.key
    have hentry := read_entry .plain hkey hreach hstr (hword h) h.lineEnd
      (by simpa [Node.scalarTag, Style.isPlain] using value_of_digits h.nonempty h.digits hlength)
    rwa [String.ofList_toList] at hentry
  · obtain ⟨hkey, hreach, hstr⟩ := hkeys _ h.key
    have hentry := read_entry (.quoted double) hkey hreach hstr (hword h) h.lineEnd rfl
    rwa [String.ofList_toList] at hentry

end SdkScout.Yaml
