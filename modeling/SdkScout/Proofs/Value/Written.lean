import Mathlib.Algebra.Group.Nat.Defs
import SdkScout.Failure

/-!
# Values that can be written out

The text of a value is written into messages and versions, unless an integer in it is too long
(`Value.written_eq_error_iff`). An integer is too long from a power of ten on
(`Value.isWritable_int_iff`).
-/

namespace SdkScout.Value

variable {v : Value} {n : Int} {text : String} {failure : Failure}

/-- What is written is the text of the value. -/
theorem written_eq_ok_iff : v.written = .ok text ↔ v.isWritable = true ∧ v.display = text := by
  rw [written, display?]
  cases v.isWritable <;> simp

/-- There is one way in which a value fails to be written. -/
theorem written_eq_error_iff :
    v.written = .error failure ↔ v.isWritable = false ∧ failure = .oversizedInteger := by
  rw [written, display?]
  cases v.isWritable <;> simp [eq_comm]

theorem written_int_eq_ok_iff : (int n).written = .ok text ↔
    (Text.digitsOfNat n.natAbs).length ≤ Text.digitLimit ∧ toString n = text := by
  rw [written_eq_ok_iff, isWritable, decide_eq_true_iff, display, shown]
  exact fun _ h => nomatch h

/-- The sign of an integer does not count as a digit. -/
theorem isWritable_int_iff : (int n).isWritable = true ↔ n.natAbs < 10 ^ Text.digitLimit := by
  rw [isWritable, decide_eq_true_iff, Text.digitsOfNat,
    Nat.length_toDigits_le_iff (by decide) (by decide)]

end SdkScout.Value
