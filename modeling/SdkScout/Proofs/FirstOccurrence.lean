import Mathlib.Data.List.Basic
import SdkScout.Search

/-!
# First occurrences

`Search.firstOccurrences` walks along a list with the elements seen so far. Its result is
`List.eraseDups` of the elements not seen before (`firstOccurrences_eq`), so walking along two lists
one after the other is walking along their concatenation. The elements of the result come in the
order in which they first come in the list (`idxOf_firstOccurrences_lt_iff`).
-/

namespace List

variable {α : Type} [BEq α] [LawfulBEq α]

theorem mem_removeAll {xs ys : List α} {a : α} : a ∈ xs.removeAll ys ↔ a ∈ xs ∧ a ∉ ys := by
  simp [removeAll]

theorem append_removeAll {xs ys zs : List α} :
    (xs ++ ys).removeAll zs = xs.removeAll zs ++ ys.removeAll zs := by
  simp [removeAll]

/-- Only the elements that are removed count, not their order or number. -/
theorem removeAll_congr {xs ys zs : List α} (h : ∀ a, a ∈ ys ↔ a ∈ zs) :
    xs.removeAll ys = xs.removeAll zs := by
  simp [removeAll, h]

/-- The first occurrences of a list in two parts: those of the first part, and those of the second
that are not in the first. -/
theorem eraseDups_append_removeAll {xs ys seen : List α} :
    ((xs ++ ys).removeAll seen).eraseDups =
      (xs.removeAll seen).eraseDups ++ (ys.removeAll (seen ++ xs)).eraseDups := by
  have hys : (ys.removeAll seen).removeAll (xs.removeAll seen) = ys.removeAll (seen ++ xs) := by
    refine filter_filter.trans (filter_congr fun y _ => ?_)
    by_cases hy : y ∈ seen <;> simp [removeAll, hy]
  rw [append_removeAll, eraseDups_append, hys]

theorem nodup_eraseDups (xs : List α) : xs.eraseDups.Nodup := by
  match xs with
  | [] => exact .nil
  | x :: xs =>
    rw [eraseDups_cons, nodup_cons]
    refine ⟨fun h => ?_, nodup_eraseDups _⟩
    simp at h
termination_by xs.length
decreasing_by exact Nat.lt_succ_of_le (length_filter_le _ _)

end List

namespace SdkScout.Search

/-- The scan drops what has been seen before and repetitions. -/
theorem firstOccurrences_eq [DecidableEq α] (seen xs : List α) :
    firstOccurrences seen xs = (xs.removeAll seen).eraseDups := by
  induction xs generalizing seen with
  | nil => rfl
  | cons x xs ih =>
    rw [firstOccurrences, List.cons_removeAll]
    by_cases hx : x ∈ seen
    · simp [hx, ih]
    · simp only [hx, List.contains_eq_mem, decide_false, if_true, if_false, ih, List.eraseDups_cons,
        List.removeAll_cons]
      simp [List.removeAll, List.filter_filter, Bool.and_comm]

theorem firstOccurrences_nil [DecidableEq α] (xs : List α) :
    firstOccurrences [] xs = xs.eraseDups := by
  rw [firstOccurrences_eq, List.removeAll_nil]

/-- Two elements that have not been seen come first in the order in which they came before. -/
theorem idxOf_firstOccurrences_lt_iff [DecidableEq α] {a b : α} {seen : List α} (ha : a ∉ seen)
    (hb : b ∉ seen) (xs : List α) :
    (firstOccurrences seen xs).idxOf a < (firstOccurrences seen xs).idxOf b ↔
      xs.idxOf a < xs.idxOf b := by
  induction xs generalizing seen with
  | nil => simp [firstOccurrences]
  | cons x xs ih =>
    rw [firstOccurrences]
    split
    · rename_i hx
      have hxa : x ≠ a := fun h => ha (h ▸ hx)
      have hxb : x ≠ b := fun h => hb (h ▸ hx)
      rw [ih ha hb, List.idxOf_cons_ne _ hxa, List.idxOf_cons_ne _ hxb, Nat.succ_lt_succ_iff]
    · by_cases hxa : x = a
      · subst hxa
        by_cases hxb : x = b <;> simp [hxb, List.idxOf_cons_ne]
      · by_cases hxb : x = b
        · subst hxb
          simp
        · have ha' : a ∉ x :: seen := by simp [ha, Ne.symm hxa]
          have hb' : b ∉ x :: seen := by simp [hb, Ne.symm hxb]
          rw [List.idxOf_cons_ne _ hxa, List.idxOf_cons_ne _ hxb, List.idxOf_cons_ne _ hxa,
            List.idxOf_cons_ne _ hxb, Nat.succ_lt_succ_iff, Nat.succ_lt_succ_iff, ih ha' hb']

end SdkScout.Search
