import Mathlib.Data.Prod.Lex
import Mathlib.Order.Compare
import SdkScout.Proofs.Version.Reading

/-!
# The order of readings

Readings are ordered by their components, the major one first. This is a linear order, and it is what
`Version.Key.order` compares by. A version lies within bounds if its key lies between theirs
(`Version.Within`); a bound that is not set leaves its side open.
-/

namespace SdkScout.Version

namespace Key

/-- The components in lexicographic order. -/
def triple (k : Key) : ℕ ×ₗ ℕ ×ₗ ℕ :=
  toLex (k.major, toLex (k.minor, k.patch))

theorem triple_injective : Function.Injective triple := by
  rintro ⟨a, b, c⟩ ⟨a', b', c'⟩ h
  simpa [triple] using h

instance : LinearOrder Key := LinearOrder.lift' triple triple_injective

/-- Keys are ordered by their numbers from the left. -/
theorem lt_iff {a b : Key} : a < b ↔ a.major < b.major ∨ a.major = b.major ∧
    (a.minor < b.minor ∨ a.minor = b.minor ∧ a.patch < b.patch) := by
  change a.triple < b.triple ↔ _
  simp [triple, Prod.Lex.toLex_lt_toLex]

/-- The order that is computed is that of the keys. -/
theorem order_eq_lt_iff {a b : Key} : a.order b = .lt ↔ a < b := by
  simp [order, Ordering.then_eq_lt, lt_iff, Nat.compare_eq_lt]

theorem order_eq_gt_iff {a b : Key} : a.order b = .gt ↔ b < a := by
  simp [order, Ordering.then_eq_gt, lt_iff, Nat.compare_eq_gt, eq_comm (a := b.major),
    eq_comm (a := b.minor)]

/-- At most is not after. -/
theorem isLE_order_iff {a b : Key} : (a.order b).isLE = true ↔ a ≤ b := by
  rw [Ordering.isLE_iff_ne_gt, ← not_lt, ← order_eq_gt_iff]

theorem isGE_order_iff {a b : Key} : (a.order b).isGE = true ↔ b ≤ a := by
  rw [Ordering.isGE_iff_ne_lt, ← not_lt, ← order_eq_lt_iff]

end Key

/-- The key of a version lies between those of the bounds that are set. -/
def Within (lower upper : Option Version) (v : Version) : Prop :=
  (∀ b ∈ lower, b.key ≤ v.key) ∧ ∀ b ∈ upper, v.key ≤ b.key

instance {lower upper : Option Version} : DecidablePred (Within lower upper) := fun _ =>
  inferInstanceAs (Decidable (_ ∧ _))

end SdkScout.Version
