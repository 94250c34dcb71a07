import Mathlib.Data.List.Induction
import SdkScout.Text.Digit

/-!
# Decimal numerals

A number is written without leading zeros and is read with any number of them. So what is written is
read back (`natOfDigits_digitsOfNat`), and a run of digits is what its number is written as, behind
some zeros (`exists_eq_zeros_append`).
-/

namespace SdkScout.Text

/-- Reading digits is the library's reading of them to the base ten. -/
theorem natOfDigits_eq_ofDigitChars (digits : List Char) :
    natOfDigits digits = Nat.ofDigitChars 10 digits 0 := rfl

theorem natOfDigits_digitsOfNat (n : Nat) : natOfDigits (digitsOfNat n) = n :=
  Nat.ofDigitChars_ten_toDigits

theorem digitsOfNat_injective : Function.Injective digitsOfNat :=
  Function.LeftInverse.injective natOfDigits_digitsOfNat

theorem natOfDigits_zeros_append (zeros : Nat) (digits : List Char) :
    natOfDigits (List.replicate zeros '0' ++ digits) = natOfDigits digits := by
  rw [natOfDigits_eq_ofDigitChars, Nat.ofDigitChars_append, Nat.ofDigitChars_replicate_zero,
    Nat.mul_zero, natOfDigits_eq_ofDigitChars]

theorem natOfDigits_append_singleton (digits : List Char) (c : Char) :
    natOfDigits (digits ++ [c]) = 10 * natOfDigits digits + (c.toNat - '0'.toNat) := by
  simp [natOfDigits]

theorem all_isDigit_digitsOfNat (n : Nat) : (digitsOfNat n).all Char.isDigit = true :=
  List.all_eq_true.mpr fun _ hc => Nat.isDigit_of_mem_toDigits (by decide) (by decide) hc

theorem digitsOfNat_ne_nil (n : Nat) : digitsOfNat n ≠ [] :=
  Nat.toDigits_ne_nil

/-- A digit is what its value is written as. -/
theorem digitsOfNat_of_isDigit {c : Char} (h : c.isDigit = true) :
    c.toNat - '0'.toNat < 10 ∧ digitsOfNat (c.toNat - '0'.toNat) = [c] := by
  obtain ⟨hlow, hhigh⟩ := Char.isDigit_iff_toNat.mp h
  have hzero : '0'.toNat = 48 := rfl
  have hnine : '9'.toNat = 57 := rfl
  have hlt : c.toNat - '0'.toNat < 10 := by omega
  have hchar : (c.toNat - '0'.toNat).digitChar = c := by
    refine Char.toNat_inj.mp ?_
    rw [Nat.toNat_digitChar_of_lt_ten hlt]
    omega
  refine ⟨hlt, ?_⟩
  rw [digitsOfNat, Nat.toDigits_of_lt_base hlt, hchar]

/-- Every run of digits is a numeral behind some zeros. -/
theorem exists_eq_zeros_append {digits : List Char} (hne : digits ≠ [])
    (h : digits.all Char.isDigit = true) :
    ∃ zeros, digits = List.replicate zeros '0' ++ digitsOfNat (natOfDigits digits) := by
  induction digits using List.reverseRecOn with
  | nil => exact absurd rfl hne
  | append_singleton front c ih =>
    obtain ⟨hfront, hc⟩ : front.all Char.isDigit = true ∧ c.isDigit = true := by simpa using h
    obtain ⟨hlt, hdigit⟩ := digitsOfNat_of_isDigit hc
    rw [natOfDigits_append_singleton]
    generalize c.toNat - '0'.toNat = d at hlt hdigit
    by_cases hnil : front = []
    · subst hnil
      exact ⟨0, by simp [natOfDigits, hdigit]⟩
    · obtain ⟨zeros, hzeros⟩ := ih hnil hfront
      rcases Nat.eq_zero_or_pos (natOfDigits front) with hvalue | hvalue
      · -- A front of value zero is zeros only, and the last digit is all that is written.
        refine ⟨zeros + 1, ?_⟩
        have hzero : digitsOfNat 0 = ['0'] := rfl
        calc front ++ [c]
            = (List.replicate zeros '0' ++ ['0']) ++ [c] := by rw [← hzero, ← hvalue, ← hzeros]
          _ = List.replicate (zeros + 1) '0' ++ digitsOfNat (10 * natOfDigits front + d) := by
            rw [List.replicate_succ', hvalue, Nat.mul_zero, Nat.zero_add, hdigit]
      · refine ⟨zeros, ?_⟩
        have happend : digitsOfNat (natOfDigits front) ++ digitsOfNat d =
            digitsOfNat (10 * natOfDigits front + d) :=
          Nat.toDigits_append_toDigits (by decide) hvalue hlt
        calc front ++ [c]
            = (List.replicate zeros '0' ++ digitsOfNat (natOfDigits front)) ++ [c] := by
              rw [← hzeros]
          _ = List.replicate zeros '0' ++ digitsOfNat (10 * natOfDigits front + d) := by
            rw [List.append_assoc, ← hdigit, happend]

/-- A numeral is no longer than the digits of a number that is not less. -/
theorem length_digitsOfNat_le {digits : List Char} (hne : digits ≠ [])
    (h : digits.all Char.isDigit = true) {n : Nat} (hn : n ≤ natOfDigits digits) :
    (digitsOfNat n).length ≤ digits.length := by
  obtain ⟨zeros, hzeros⟩ := exists_eq_zeros_append hne h
  have hlength : (digitsOfNat (natOfDigits digits)).length ≤ digits.length :=
    calc (digitsOfNat (natOfDigits digits)).length
        ≤ (List.replicate zeros '0' ++ digitsOfNat (natOfDigits digits)).length := by simp
      _ = digits.length := by rw [← hzeros]
  have hpos : 0 < digits.length := List.length_pos_iff.mpr hne
  rw [digitsOfNat, Nat.length_toDigits_le_iff (by decide) hpos] at hlength ⊢
  exact Nat.lt_of_le_of_lt hn hlength

/-- Digits are a numeral if no zero stands in front of others. -/
theorem digitsOfNat_natOfDigits {digits : List Char} (hne : digits ≠ [])
    (h : digits.all Char.isDigit = true) (hzero : digits.head? = some '0' → digits.length = 1) :
    digitsOfNat (natOfDigits digits) = digits := by
  obtain ⟨zeros, hzeros⟩ := exists_eq_zeros_append hne h
  cases zeros with
  | zero => exact hzeros.symm
  | succ zeros =>
    have hhead : digits.head? = some '0' := by rw [hzeros]; rfl
    have hlength := congrArg List.length hzeros
    have hpos : 0 < (digitsOfNat (natOfDigits digits)).length :=
      List.length_pos_iff.mpr (digitsOfNat_ne_nil _)
    rw [hzero hhead, List.length_append, List.length_replicate] at hlength
    omega

end SdkScout.Text
