import Mathlib.Data.List.MinMax
import Mathlib.Data.List.Sort
import SdkScout.Proofs.Outcome
import SdkScout.Proofs.Version.Comparison

/-!
# Sorting versions

Different versions can have the same key, so the order of a sorted list does not fix the list. It is
fixed if versions with the same key also keep the order in which they came
(`Version.IsStableSort.unique`), and sorting gives that list, ascending or descending. The list starts
with the first of the least or of the greatest, which a scan of the unsorted list finds as well
(`Version.least?_eq_argmin`, `Version.greatest?_eq_argmax`).
-/

namespace List

section
variable {α κ : Type} [DecidableEq κ] {key : α → κ} {xs ys : List α}

theorem mem_of_filter_eq (h : ∀ k, xs.filter (key · = k) = ys.filter (key · = k)) {x : α}
    (hx : x ∈ xs) : x ∈ ys := by
  have hfilter : x ∈ xs.filter (key · = key x) := by simpa using hx
  rw [h] at hfilter
  exact (mem_filter.mp hfilter).1

/-- A list in the order of its keys is fixed by its parts that have one key each. -/
theorem eq_of_pairwise_of_filter_eq {r : κ → κ → Prop} (hr : ∀ a b, r a b → r b a → a = b)
    (hxs : xs.Pairwise fun x y => r (key x) (key y))
    (hys : ys.Pairwise fun x y => r (key x) (key y))
    (h : ∀ k, xs.filter (key · = k) = ys.filter (key · = k)) : xs = ys := by
  induction xs generalizing ys with
  | nil =>
    cases ys with
    | nil => rfl
    | cons y ys => exact absurd (mem_of_filter_eq (fun k => (h k).symm) mem_cons_self) not_mem_nil
  | cons x xs ih =>
    cases ys with
    | nil => exact absurd (mem_of_filter_eq h mem_cons_self) not_mem_nil
    | cons y ys =>
      obtain ⟨hx, hxs⟩ := pairwise_cons.mp hxs
      obtain ⟨hy, hys⟩ := pairwise_cons.mp hys
      -- Each of the two first elements is in the other list, so they have the same key.
      have hkey : key x = key y := by
        rcases mem_cons.mp (mem_of_filter_eq h mem_cons_self) with heq | hxys
        · rw [heq]
        rcases mem_cons.mp (mem_of_filter_eq (fun k => (h k).symm) mem_cons_self) with heq | hyxs
        · rw [heq]
        exact hr _ _ (hx y hyxs) (hy x hxys)
      have hfirst := h (key x)
      rw [filter_cons_of_pos (by simp), filter_cons_of_pos (by simp [hkey])] at hfirst
      obtain ⟨heq, -⟩ := cons.inj hfirst
      have htails : xs = ys := by
        refine ih hxs hys fun k => ?_
        have hk := h k
        rw [← heq, filter_cons, filter_cons] at hk
        split at hk
        · exact (cons.inj hk).2
        · exact hk
      rw [heq, htails]

end

variable {α : Type} {le : α → α → Bool} {p : α → Bool}

/-- Elements that are all in order already keep their places among each other. -/
theorem filter_mergeSort (trans : ∀ a b c, le a b → le b c → le a c)
    (total : ∀ a b, (le a b || le b a) = true) (hp : ∀ a b, p a → p b → le a b) (xs : List α) :
    (xs.mergeSort le).filter p = xs.filter p := by
  have hordered : (xs.filter p).Pairwise fun a b => le a b = true :=
    pairwise_of_forall_mem_list fun a ha b hb => hp a b (mem_filter.mp ha).2 (mem_filter.mp hb).2
  have hsublist : xs.filter p <+ (xs.mergeSort le).filter p := by
    simpa only [filter_filter, Bool.and_self] using
      (sublist_mergeSort trans total hordered filter_sublist).filter p
  exact (hsublist.eq_of_length ((mergeSort_perm xs le).filter p).length_eq.symm).symm

theorem idxOf_le_idxOf_of_find?_eq_some [DecidableEq α] {xs : List α} {x y : α}
    (hx : xs.find? p = some x) (hy : p y = true) : xs.idxOf x ≤ xs.idxOf y := by
  obtain ⟨hpx, before, after, rfl, hbefore⟩ := find?_eq_some_iff_append.mp hx
  have hnot : ∀ {z}, p z = true → z ∉ before := by
    intro z hz hmem
    simpa [hz] using hbefore z hmem
  rw [idxOf_append_of_notMem (hnot hpx), idxOf_append_of_notMem (hnot hy), idxOf_cons_self]
  exact Nat.add_le_add_left (Nat.zero_le _) _

end List

namespace SdkScout.Version

variable {c : Comparison} {v w : Version} {vs ws ws' : List Version}

theorem Key.Compares.antisymm {a b : Key} (h : Key.Compares c a b) (h' : Key.Compares c b a) :
    a = b := by
  cases c with
  | lt | gt => exact absurd h (lt_asymm h')
  | le => exact le_antisymm h h'
  | ge => exact le_antisymm h' h

/-- The versions of a list in the order of their keys. Versions with the same key keep their places
among each other. -/
structure IsStableSort (c : Comparison) (vs ws : List Version) : Prop where
  perm : ws.Perm vs
  ordered : ws.Pairwise fun v w => Key.Compares c v.key w.key
  stable : ∀ k, ws.filter (·.key = k) = vs.filter (·.key = k)

instance : DecidableRel (Key.Compares c) := fun _ _ =>
  match c with
  | .lt | .gt => inferInstanceAs (Decidable (_ < _))
  | .le | .ge => inferInstanceAs (Decidable (_ ≤ _))

/-- Only the keys that there are have to be looked at. -/
theorem isStableSort_iff : IsStableSort c vs ws ↔ ws.Perm vs ∧
    (ws.Pairwise fun v w => Key.Compares c v.key w.key) ∧
    ∀ v ∈ vs, ws.filter (·.key = v.key) = vs.filter (·.key = v.key) := by
  constructor
  · intro h
    exact ⟨h.perm, h.ordered, fun v _ => h.stable v.key⟩
  · rintro ⟨hperm, hordered, hstable⟩
    refine ⟨hperm, hordered, fun k => ?_⟩
    by_cases hk : ∃ v ∈ vs, v.key = k
    · obtain ⟨v, hv, rfl⟩ := hk
      exact hstable v hv
    · have hnone : ∀ v ∈ vs, ¬ decide (v.key = k) = true := by
        intro v hv hkey
        exact hk ⟨v, hv, of_decide_eq_true hkey⟩
      rw [List.filter_eq_nil_iff.mpr hnone,
        List.filter_eq_nil_iff.mpr fun v hv => hnone v (hperm.mem_iff.mp hv)]

instance : Decidable (IsStableSort c vs ws) :=
  decidable_of_iff _ isStableSort_iff.symm

namespace IsStableSort

/-- There is one way to sort in order and keep ties as they stand. -/
theorem unique (h : IsStableSort c vs ws) (h' : IsStableSort c vs ws') : ws' = ws :=
  List.eq_of_pairwise_of_filter_eq (fun _ _ => Key.Compares.antisymm) h'.ordered h.ordered
    fun k => by rw [h.stable, h'.stable]

/-- Read backwards, a sorted list is sorted by the mirrored comparison. -/
theorem reverse (h : IsStableSort c vs ws) : IsStableSort c.mirrored vs.reverse ws.reverse where
  perm := (List.reverse_perm ws).trans (h.perm.trans (List.reverse_perm vs).symm)
  ordered := List.pairwise_reverse.mpr (h.ordered.imp fun hvw => by cases c <;> exact hvw)
  stable k := by rw [List.filter_reverse, List.filter_reverse, h.stable]

theorem idxOf_head_le (h : IsStableSort c vs (v :: ws)) (hw : w.key = v.key) :
    vs.idxOf v ≤ vs.idxOf w := by
  refine List.idxOf_le_idxOf_of_find?_eq_some (p := (·.key = v.key)) ?_ (by simpa using hw)
  rw [← List.head?_filter, ← h.stable, List.filter_cons_of_pos (by simp), List.head?_cons]

/-- A sorted list starts with the first of the best. -/
theorem head_isFirst (h : IsStableSort c vs (v :: ws)) (hc : Key.Compares c v.key v.key) :
    v ∈ vs ∧ (∀ w ∈ vs, Key.Compares c v.key w.key) ∧
      ∀ w ∈ vs, Key.Compares c w.key v.key → vs.idxOf v ≤ vs.idxOf w := by
  have hbest : ∀ w ∈ vs, Key.Compares c v.key w.key := by
    intro w hw
    rcases List.mem_cons.mp (h.perm.mem_iff.mpr hw) with rfl | hws
    · exact hc
    · exact (List.pairwise_cons.mp h.ordered).1 w hws
  exact ⟨h.perm.subset List.mem_cons_self, hbest, fun w hw hwv =>
    h.idxOf_head_le (hwv.antisymm (hbest w hw))⟩

/-- The first of a sorted list is the least, and of several least ones the first. -/
theorem head?_eq_argmin (h : IsStableSort .le vs ws) : ws.head? = vs.argmin key := by
  cases ws with
  | nil => rw [List.nil_perm.mp h.perm, List.head?_nil, List.argmin_nil]
  | cons v ws => exact (List.argmin_eq_some_iff.mpr (h.head_isFirst le_rfl)).symm

theorem head?_eq_argmax (h : IsStableSort .ge vs ws) : ws.head? = vs.argmax key := by
  cases ws with
  | nil => rw [List.nil_perm.mp h.perm, List.head?_nil, List.argmax_nil]
  | cons v ws => exact (List.argmax_eq_some_iff.mpr (h.head_isFirst le_rfl)).symm

end IsStableSort

theorem isStableSort_mergeSort (vs : List Version) :
    IsStableSort .le vs (vs.mergeSort fun v w => (v.key.order w.key).isLE) := by
  have htrans : ∀ u v w : Version, (u.key.order v.key).isLE = true →
      (v.key.order w.key).isLE = true → (u.key.order w.key).isLE = true := by
    intro u v w huv hvw
    rw [Key.isLE_order_iff] at huv hvw ⊢
    exact huv.trans hvw
  have htotal : ∀ v w : Version, ((v.key.order w.key).isLE || (w.key.order v.key).isLE) = true := by
    intro v w
    rw [Bool.or_eq_true, Key.isLE_order_iff, Key.isLE_order_iff]
    exact le_total v.key w.key
  refine ⟨List.mergeSort_perm vs _, ?_, fun k => ?_⟩
  · exact (List.pairwise_mergeSort htrans htotal vs).imp Key.isLE_order_iff.mp
  · refine List.filter_mergeSort htrans htotal (fun v w hv hw => ?_) vs
    rw [Key.isLE_order_iff, of_decide_eq_true hv, of_decide_eq_true hw]

theorem sortKey_eq_ok (h : ¬ v.Oversized) : v.sortKey = .ok v.key := by
  rw [sortKey_eq_ite, if_neg h]

/-- Without oversized versions sorting succeeds. -/
theorem sorted_eq_ok (h : ∀ v ∈ vs, ¬ v.Oversized) :
    sorted vs = .ok (vs.mergeSort fun v w => (v.key.order w.key).isLE) := by
  have hkeyed : (vs.mapM fun v => return ((← v.sortKey), v)) =
      (.ok (vs.map fun v => (v.key, v)) : Except Fault (List (Key × Version))) := by
    refine (Except.mapM_congr fun v hv => ?_).trans List.mapM_pure
    rw [sortKey_eq_ok (h v hv), Except.ok_bind]
  have hsort : ((vs.map fun v => (v.key, v)).mergeSort fun a b => (a.1.order b.1).isLE).map (·.2) =
      vs.mergeSort fun v w => (v.key.order w.key).isLE := by
    have hmap := List.map_mergeSort (r := fun v w : Version => (v.key.order w.key).isLE)
      (s := fun a b => (a.1.order b.1).isLE) (f := fun v => (v.key, v)) (l := vs) fun _ _ _ _ => rfl
    rw [← hmap, List.map_map]
    exact List.map_id _
  rw [sorted.eq_def]
  split
  · rw [List.mergeSort_singleton]
  · rw [hkeyed, Except.ok_bind, hsort, Except.pure_eq_ok]

theorem compares_eq_decide (hv : ¬ v.Oversized) (hw : ¬ w.Oversized) :
    v.compares c w = .ok (decide (Key.Compares c v.key w.key)) := by
  rw [← normalized_eq_oversized_iff] at hv hw
  rw [compares_eq_ok c hv hw, Except.ok.injEq, Bool.eq_iff_iff, Key.admits_order_iff,
    decide_eq_true_iff]

/-- The scan has the best version so far, and goes on from a later one if that beats it. -/
theorem foremost_eq_foldl (h : ∀ w ∈ v :: vs, ¬ w.Oversized) :
    (foremost c v vs).map some =
      .ok (vs.foldl (List.argAux fun w best => Key.Compares c w.key best.key) (some v)) := by
  induction vs generalizing v with
  | nil => rfl
  | cons w vs ih =>
    obtain ⟨hv, hw, hvs⟩ : ¬ v.Oversized ∧ ¬ w.Oversized ∧ ∀ u ∈ vs, ¬ u.Oversized := by
      simpa using h
    have hbest : ¬ (if Key.Compares c w.key v.key then w else v).Oversized := by
      split
      · exact hw
      · exact hv
    have hstep : List.argAux (fun w best => Key.Compares c w.key best.key) (some v) w =
        some (if Key.Compares c w.key v.key then w else v) := (apply_ite some _ w v).symm
    rw [foremost, compares_eq_decide hw hv, Except.ok_bind, List.foldl_cons, hstep]
    simp only [decide_eq_true_eq]
    exact ih (by simpa using ⟨hbest, hvs⟩)

theorem foremost?_eq_foldl (h : ∀ v ∈ vs, ¬ v.Oversized) :
    foremost? c vs =
      .ok (vs.foldl (List.argAux fun w best => Key.Compares c w.key best.key) none) := by
  cases vs with
  | nil => rfl
  | cons v vs => exact foremost_eq_foldl h

theorem least?_eq_argmin (h : ∀ v ∈ vs, ¬ v.Oversized) : least? vs = .ok (vs.argmin key) :=
  foremost?_eq_foldl h

theorem greatest?_eq_argmax (h : ∀ v ∈ vs, ¬ v.Oversized) :
    greatest? vs = .ok (vs.argmax key) :=
  foremost?_eq_foldl h

/-- A list of versions sorted in both directions, with the greatest and the least of it. -/
structure SortsTo (vs up down : List Version) : Prop where
  key_eq : ∀ v ∈ vs, v.normalized = .ok v.key ∨ v.normalized = .error .malformed ∧ v.key = .zero
  compares_eq : ∀ c, ∀ v ∈ vs, ∀ w ∈ vs, v.compares c w = .ok (decide (Key.Compares c v.key w.key))
  sorted_eq : sorted vs = .ok up
  up_isStableSort : IsStableSort .le vs up
  up_unique : ∀ ws, IsStableSort .le vs ws → ws = up
  sortedDescending_eq : sortedDescending vs = .ok down
  down_isStableSort : IsStableSort .ge vs down
  down_unique : ∀ ws, IsStableSort .ge vs ws → ws = down
  sorted_reverse : sorted vs.reverse = .ok down.reverse
  greatest_eq : greatest? vs = .ok down.head?
  /-- The first of the greatest. -/
  head_down : down.head? = vs.argmax key
  least_eq : least? vs = .ok up.head?
  /-- The first of the least. -/
  head_up : up.head? = vs.argmin key
  greatest_eq_none_iff : greatest? vs = .ok none ↔ vs = []
  least_eq_none_iff : least? vs = .ok none ↔ vs = []

/-- Versions without overlong components are sorted by their keys, and in both directions those with the
same key keep their order. -/
theorem exists_sortsTo (vs : List Version)
    (h : ∀ v ∈ vs, ∀ part ∈ v.components, ¬ IsOverlong part) : ∃ up down, SortsTo vs up down := by
  have hover : ∀ v ∈ vs, ¬ v.Oversized := fun v hv => not_oversized_of_not_isOverlong (h v hv)
  have hreverse : ∀ v ∈ vs.reverse, ¬ v.Oversized := fun v hv => hover v (List.mem_reverse.mp hv)
  have hup := isStableSort_mergeSort vs
  have hdown := (isStableSort_mergeSort vs.reverse).reverse
  rw [List.reverse_reverse] at hdown
  refine ⟨_, _, {
    key_eq := fun v hv =>
      normalized_eq_key_or_malformed (normalized_eq_oversized_iff.not.mpr (hover v hv))
    compares_eq := fun c v hv w hw => compares_eq_decide (hover v hv) (hover w hw)
    sorted_eq := sorted_eq_ok hover
    up_isStableSort := hup
    up_unique := fun ws => hup.unique
    sortedDescending_eq := by rw [sortedDescending, sorted_eq_ok hreverse]; rfl
    down_isStableSort := hdown
    down_unique := fun ws => hdown.unique
    sorted_reverse := by rw [List.reverse_reverse, sorted_eq_ok hreverse]
    greatest_eq := by rw [greatest?_eq_argmax hover, hdown.head?_eq_argmax]
    head_down := hdown.head?_eq_argmax
    least_eq := by rw [least?_eq_argmin hover, hup.head?_eq_argmin]
    head_up := hup.head?_eq_argmin
    greatest_eq_none_iff := by rw [greatest?_eq_argmax hover, Except.ok.injEq, List.argmax_eq_none]
    least_eq_none_iff := by rw [least?_eq_argmin hover, Except.ok.injEq, List.argmin_eq_none] }⟩

/-- Several spellings of two keys, `0.0.0` and `1.9.0`, and a version with a third one. -/
def spellings : List Version :=
  ["1.9", "beta", "1.10", "0", "01.9.0", "", "0.0.0"].map mk

theorem exists_sortsTo_spellings :
    (∀ v ∈ spellings, ∀ part ∈ v.components, ¬ IsOverlong part) ∧
      ∃ up down, SortsTo spellings up down ∧
        ["beta", "0", "", "0.0.0", "1.9", "01.9.0", "1.10"].map mk = up ∧
        ["1.10", "1.9", "01.9.0", "beta", "0", "", "0.0.0"].map mk = down := by
  have hshort : ∀ v ∈ spellings, ∀ part ∈ v.components, ¬ IsOverlong part := by decide +kernel
  obtain ⟨up, down, h⟩ := exists_sortsTo spellings hshort
  exact ⟨hshort, up, down, h, h.up_unique _ (by decide +kernel), h.down_unique _ (by decide +kernel)⟩

end SdkScout.Version
