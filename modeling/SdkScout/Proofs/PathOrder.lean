import Mathlib.Data.List.Lex
import Mathlib.Data.String.Basic
import SdkScout.Path

/-!
# Paths below a directory, and the order of paths

A path is fixed by its parent and its name (`Path.child_inj`), and by the key that it is compared by
(`Path.key_injective`): no component is written like a root. Hence the order of paths is total, and
sorting a list of different paths leaves it strictly increasing (`Path.pairwise_lt_sortOn`).
-/

namespace SdkScout.Path

/-- A path is told by its parent and its last name. -/
theorem child_inj {p q : Path} {c d : Component} : p.child c = q.child d ↔ p = q ∧ c = d := by
  constructor
  · intro h
    have hroot : p.root = q.root := by simpa using congrArg Path.root h
    have hparts : p.parts ++ [c] = q.parts ++ [d] := congrArg Path.parts h
    obtain ⟨hp, hc⟩ := List.append_inj' hparts rfl
    refine ⟨?_, by simpa using hc⟩
    cases p; cases q
    simp_all
  · rintro ⟨rfl, rfl⟩
    rfl

theorem child_injective (p : Path) : Function.Injective p.child :=
  fun _ _ h => (child_inj.mp h).2

/-- Only the roots and the empty path have no name. -/
theorem exists_eq_child {p : Path} (h : p.name ≠ "") : ∃ parent c, p = child parent c := by
  obtain ⟨root, parts⟩ := p
  rcases parts.eq_nil_or_concat with rfl | ⟨before, c, rfl⟩
  · exact absurd rfl h
  · exact ⟨⟨root, before⟩, c, by rw [child, List.concat_eq_append]⟩

theorem Component.text_injective : Function.Injective Component.text := by
  rintro ⟨a, ha⟩ ⟨b, hb⟩ rfl
  rfl

/-- No name reads like the root of an absolute path. -/
theorem Component.text_ne_root (c : Component) {r : Root} (hr : r ≠ .relative) :
    c.text ≠ r.text := by
  intro h
  have hslash : '/' ∉ c.text.toList := c.valid.2.2
  rw [h] at hslash
  cases r with
  | relative => exact hr rfl
  | slash | doubleSlash => exact hslash (by decide)

/-- Paths are ordered by keys that tell them apart. -/
theorem key_injective : Function.Injective key := by
  rintro ⟨r, ps⟩ ⟨r', qs⟩ h
  have hmap := List.map_injective_iff.mpr Component.text_injective
  cases r <;> cases r' <;> simp only [key, reduceCtorEq, if_true, if_false] at h
  case relative.relative => rw [hmap h]
  case slash.slash | doubleSlash.doubleSlash => rw [hmap (List.cons.inj h).2]
  case slash.doubleSlash | doubleSlash.slash => exact absurd (List.cons.inj h).1 (by decide)
  case relative.slash | relative.doubleSlash =>
    cases ps with
    | nil => simp at h
    | cons c ps => exact absurd (List.cons.inj h).1 (c.text_ne_root (by decide))
  case slash.relative | doubleSlash.relative =>
    cases qs with
    | nil => simp at h
    | cons c qs => exact absurd (List.cons.inj h).1.symm (c.text_ne_root (by decide))

theorem le_total (p q : Path) : p ≤ q ∨ q ≤ p := by
  by_cases h : q.key < p.key
  · exact .inr (lt_asymm h)
  · exact .inl h

theorem le_trans {p q r : Path} (h : p ≤ q) (h' : q ≤ r) : p ≤ r := by
  have hpq : p.key ≤ q.key := not_lt.mp h
  have hqr : q.key ≤ r.key := not_lt.mp h'
  exact not_lt.mpr (hpq.trans hqr)

theorem lt_of_le_of_ne {p q : Path} (h : p ≤ q) (hne : p ≠ q) : p < q := by
  have hle : p.key ≤ q.key := not_lt.mp h
  exact hle.lt_of_ne fun hkey => hne (key_injective hkey)

/-- Sorting by paths that are all different is strict. -/
theorem pairwise_lt_sortOn {path : α → Path} {xs : List α} (h : (xs.map path).Nodup) :
    (sortOn path xs).Pairwise fun x y => path x < path y := by
  have hle : (sortOn path xs).Pairwise fun x y => path x ≤ path y := by
    have hsorted : (sortOn path xs).Pairwise fun x y => decide (path x ≤ path y) := by
      refine List.pairwise_mergeSort (fun x y z hxy hyz => ?_) (fun x y => ?_) xs
      · exact decide_eq_true (le_trans (of_decide_eq_true hxy) (of_decide_eq_true hyz))
      · simpa using le_total (path x) (path y)
    exact hsorted.imp of_decide_eq_true
  have hne : (sortOn path xs).Pairwise fun x y => path x ≠ path y := by
    have hperm := (List.mergeSort_perm xs fun x y => decide (path x ≤ path y)).map path
    exact List.pairwise_map.mp (hperm.nodup_iff.mpr h)
  exact (hle.and hne).imp fun hxy => lt_of_le_of_ne hxy.1 hxy.2

/-- Sorting elements with different paths forgets the order in which they came. -/
theorem sortOn_eq_of_perm {path : α → Path} {xs ys : List α} (hperm : xs.Perm ys)
    (h : (xs.map path).Nodup) : sortOn path xs = sortOn path ys := by
  have hsorted : (sortOn path xs).Perm (sortOn path ys) :=
    (List.mergeSort_perm xs _).trans (hperm.trans (List.mergeSort_perm ys _).symm)
  have hys : (ys.map path).Nodup := (hperm.map path).nodup_iff.mp h
  refine hsorted.eq_of_pairwise (fun x y _ _ hxy hyx => ?_) (pairwise_lt_sortOn h)
    (pairwise_lt_sortOn hys)
  exact absurd hyx (lt_asymm (α := List String) hxy)

end SdkScout.Path
