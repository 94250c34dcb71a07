import Mathlib.Algebra.Order.Ring.Rat
import Mathlib.Algebra.Order.Field.Power
import Mathlib.Data.List.Pairwise
import Mathlib.Data.Prod.Lex
import Mathlib.Data.String.Basic
import SdkScout.Value

/-!
# Keys of mappings

A mapping has no two entries with the same key, so neither what it has under a key nor its keys in
their order depend on the order of its entries (`Value.field?_eq_of_perm`, `Value.sortKeys?_eq_of_perm`).
For the latter, keys that are ordered among each other are ranked in a linear order
(`Value.order?_eq_cmp_rank`). What is not a number has no rank among numbers, so it is left out.
-/

namespace SdkScout

namespace Binary64

def signed (negative : Bool) (m : ℕ) : ℤ :=
  if negative then -m else m

/-- Where a number stands: below, between or above all numbers with a finite value, and that value. -/
def rank : Binary64 → ℕ ×ₗ ℚ
  | .nan => toLex (0, 0)
  | .infinite negative => toLex (if negative then 1 else 3, 0)
  | .finite negative m e => toLex (2, signed negative m * 2 ^ e)

theorem signed_mul (negative : Bool) (m k : ℕ) :
    signed negative (m * k) = signed negative m * k := by
  cases negative <;> simp [signed]

/-- Scaling both sides does not change an order. -/
theorem compare_scale (x y : ℤ) {r : ℚ} (hr : 0 < r) :
    compare x y = cmp (x * r : ℚ) (y * r : ℚ) := by
  have hmono : StrictMono fun z : ℤ => (z * r : ℚ) := fun a b hab =>
    mul_lt_mul_of_pos_right (Int.cast_lt.mpr hab) hr
  rw [← cmp_eq_compare]
  exact (hmono.cmp_map_eq x y).symm

theorem pow2_of_nonneg {e : ℤ} (he : 0 ≤ e) : (pow2 e : ℚ) = 2 ^ e := by
  obtain ⟨n, rfl⟩ := Int.eq_ofNat_of_zero_le he
  simp [pow2]

theorem pow2_pos (e : ℤ) : (0 : ℚ) < pow2 e :=
  Nat.cast_pos.mpr (Nat.pow_pos two_pos)

/-- One of the two powers is one, so their quotient is the power itself. -/
theorem pow2_mul_inv (e : ℤ) : (pow2 e : ℚ) * (pow2 (-e) : ℚ)⁻¹ = 2 ^ e := by
  rcases le_total 0 e with he | he
  · have hone : pow2 (-e) = 1 := by simp [pow2, Int.toNat_of_nonpos (neg_nonpos.mpr he)]
    rw [pow2_of_nonneg he, hone, Nat.cast_one, inv_one, mul_one]
  · have hone : pow2 e = 1 := by simp [pow2, Int.toNat_of_nonpos he]
    rw [pow2_of_nonneg (neg_nonneg.mpr he), hone, Nat.cast_one, one_mul, zpow_neg, inv_inv]

theorem cmp_toLex (kind : ℕ) (x y : ℚ) :
    cmp (toLex (kind, x) : ℕ ×ₗ ℚ) (toLex (kind, y)) = cmp x y := by
  have hmono : StrictMono fun z : ℚ => (toLex (kind, z) : ℕ ×ₗ ℚ) := fun a b hab => by
    simpa [Prod.Lex.toLex_lt_toLex] using hab
  exact hmono.cmp_map_eq x y

theorem cmp_of_lt {a b : ℕ} (h : a < b) (x y : ℚ) :
    cmp (toLex (a, x) : ℕ ×ₗ ℚ) (toLex (b, y)) = .lt :=
  (cmp_eq_lt_iff _ _).mpr (Prod.Lex.toLex_lt_toLex.mpr (.inl h))

theorem cmp_of_gt {a b : ℕ} (h : b < a) (x y : ℚ) :
    cmp (toLex (a, x) : ℕ ×ₗ ℚ) (toLex (b, y)) = .gt :=
  (cmp_eq_gt_iff _ _).mpr (Prod.Lex.toLex_lt_toLex.mpr (.inl h))

/-- The infinite numbers lie beyond all others. -/
theorem cmp_rank_infinite (negative : Bool) (q : ℚ) :
    cmp (rank (.infinite negative)) (toLex (2, q)) = if negative then .lt else .gt := by
  cases negative
  · exact cmp_of_gt (by decide) 0 q
  · exact cmp_of_lt (by decide) 0 q

theorem cmp_infinite_rank (q : ℚ) (negative : Bool) :
    cmp (toLex (2, q)) (rank (.infinite negative)) = if negative then .gt else .lt := by
  rw [← cmp_swap, cmp_rank_infinite]
  cases negative <;> rfl

/-- A number compares with an integer as their ranks do. -/
theorem compareInt?_eq {x : Binary64} (hx : x ≠ .nan) (n : ℤ) :
    x.compareInt? n = some (cmp x.rank (toLex (2, (n : ℚ)))) := by
  cases x with
  | nan => exact absurd rfl hx
  | infinite negative =>
    rw [cmp_rank_infinite]
    rfl
  | finite negative m e =>
    have hr : (0 : ℚ) < (pow2 (-e) : ℚ)⁻¹ := inv_pos.mpr (pow2_pos _)
    have hx : ((signed negative (m * pow2 e) : ℤ) * (pow2 (-e) : ℚ)⁻¹ : ℚ) =
        signed negative m * 2 ^ e := by
      rw [signed_mul, Int.cast_mul, Int.cast_natCast, mul_assoc, pow2_mul_inv]
    have hn : ((n * pow2 (-e) : ℤ) * (pow2 (-e) : ℚ)⁻¹ : ℚ) = n := by
      rw [Int.cast_mul, Int.cast_natCast, mul_assoc, mul_inv_cancel₀ (pow2_pos _).ne', mul_one]
    calc (finite negative m e).compareInt? n
        = some (compare (signed negative (m * pow2 e)) (n * pow2 (-e))) := rfl
      _ = some (cmp (rank (.finite negative m e)) (toLex (2, (n : ℚ)))) := by
        rw [compare_scale _ _ hr, hx, hn, rank, cmp_toLex]

/-- The value of a number is the same in units of any smaller power of two. -/
theorem signed_scale (negative : Bool) (m : ℕ) {e low : ℤ} (h : low ≤ e) :
    ((signed negative (m * pow2 (e - low)) : ℤ) * 2 ^ low : ℚ) = signed negative m * 2 ^ e := by
  rw [signed_mul, Int.cast_mul, Int.cast_natCast, pow2_of_nonneg (sub_nonneg.mpr h), mul_assoc,
    ← zpow_add₀ two_ne_zero, sub_add_cancel]

/-- Two numbers compare as their ranks do. -/
theorem compare?_eq {x y : Binary64} (hx : x ≠ .nan) (hy : y ≠ .nan) :
    x.compare? y = some (cmp x.rank y.rank) := by
  cases x with
  | nan => exact absurd rfl hx
  | infinite negative =>
    cases y with
    | nan => exact absurd rfl hy
    | infinite negative' => cases negative <;> cases negative' <;> decide +kernel
    | finite negative' n f => exact congrArg some (cmp_rank_infinite negative _).symm
  | finite negative m e =>
    cases y with
    | nan => exact absurd rfl hy
    | infinite negative' => exact congrArg some (cmp_infinite_rank _ negative').symm
    | finite negative' n f =>
      have hr : (0 : ℚ) < 2 ^ min e f := zpow_pos two_pos _
      calc (finite negative m e).compare? (finite negative' n f)
          = some (compare (signed negative (m * pow2 (e - min e f)))
              (signed negative' (n * pow2 (f - min e f)))) := rfl
        _ = some (cmp (rank (.finite negative m e)) (rank (.finite negative' n f))) := by
          rw [compare_scale _ _ hr, signed_scale _ _ (min_le_left e f),
            signed_scale _ _ (min_le_right e f), rank, rank, cmp_toLex]

end Binary64

theorem lookup_eq_some_iff_mem {α β : Type} [DecidableEq α] {entries : List (α × β)} {key : α}
    {value : β} (h : (entries.map (·.1)).Nodup) :
    entries.lookup key = some value ↔ (key, value) ∈ entries := by
  induction entries with
  | nil => simp
  | cons e entries ih =>
    obtain ⟨hnew, hentries⟩ := List.nodup_cons.mp h
    obtain ⟨k, v⟩ := e
    rw [List.lookup_cons, List.mem_cons]
    by_cases hkey : key = k
    · subst hkey
      have hnot : (key, value) ∉ entries := fun hmem =>
        hnew (List.mem_map.mpr ⟨(key, value), hmem, rfl⟩)
      simp [hnot, eq_comm]
    · simp [beq_false_of_ne hkey, hkey, ih hentries]

namespace Value

/-- A kind of keys, and within the kind a number, a text or bytes. -/
def ranked (kind : ℕ) (number : ℕ ×ₗ ℚ) (text : String) (bytes : List ℕ) :
    ℕ ×ₗ (ℕ ×ₗ ℚ) ×ₗ String ×ₗ List ℕ :=
  toLex (kind, toLex (number, toLex (text, bytes)))

/-- The rank of a key among keys of all kinds. Kinds that are not ordered among each other are ranked
all the same. -/
def rank : Value → ℕ ×ₗ (ℕ ×ₗ ℚ) ×ₗ String ×ₗ List ℕ
  | .bool b => ranked 1 (toLex (2, (b.toNat : ℤ))) "" []
  | .int n => ranked 1 (toLex (2, n)) "" []
  | .float x => ranked 1 x.rank "" []
  | .text s => ranked 2 0 s []
  | .bytes b => ranked 3 0 "" (b.map (·.toNat))
  | .date d => ranked 4 (toLex (0, (d.ordinal : ℚ))) "" []
  | .time t => ranked (if t.offset.isSome then 5 else 6) (toLex (0, (t.instant : ℚ))) "" []
  | .null | .uid _ | .list _ | .set _ | .mapping _ => ranked 0 0 "" []

/-- Within a kind, numbers decide. -/
theorem cmp_ranked_number (kind : ℕ) (x y : ℕ ×ₗ ℚ) (text : String) (bytes : List ℕ) :
    cmp (ranked kind x text bytes) (ranked kind y text bytes) = cmp x y := by
  have hmono : StrictMono fun z => ranked kind z text bytes := fun a b hab => by
    simpa [ranked, Prod.Lex.toLex_lt_toLex] using hab
  exact hmono.cmp_map_eq x y

theorem cmp_ranked_text (kind : ℕ) (number : ℕ ×ₗ ℚ) (s t : String) (bytes : List ℕ) :
    cmp (ranked kind number s bytes) (ranked kind number t bytes) = compareOfLessAndEq s t := by
  have hmono : StrictMono fun u => ranked kind number u bytes := fun a b hab => by
    simpa [ranked, Prod.Lex.toLex_lt_toLex] using hab
  rw [← LinearOrder.compare_eq_compareOfLessAndEq, ← cmp_eq_compare]
  exact hmono.cmp_map_eq s t

theorem cmp_ranked_bytes (kind : ℕ) (number : ℕ ×ₗ ℚ) (text : String) (b c : List ℕ) :
    cmp (ranked kind number text b) (ranked kind number text c) = compareOfLessAndEq b c := by
  have hmono : StrictMono fun d => ranked kind number text d := fun a b hab => by
    simpa [ranked, Prod.Lex.toLex_lt_toLex] using hab
  refine (hmono.cmp_map_eq b c).trans ?_
  rw [cmp_eq_compare, LinearOrder.compare_eq_compareOfLessAndEq]
  congr

/-- Truth values and integers have the rank of their number. -/
theorem rank_of_integer? {v : Value} {a : ℤ} (h : v.integer? = some a) :
    v.rank = ranked 1 (toLex (2, (a : ℚ))) "" [] := by
  cases v <;> cases h <;> rfl

theorem cmp_rank_integers {v w : Value} {a b : ℤ} (hv : v.integer? = some a)
    (hw : w.integer? = some b) : cmp v.rank w.rank = compare a b := by
  rw [rank_of_integer? hv, rank_of_integer? hw, cmp_ranked_number, Binary64.cmp_toLex,
    ← cmp_eq_compare]
  exact Int.cast_strictMono.cmp_map_eq a b

theorem compareInt?_eq_cmp_rank {w : Value} {x : Binary64} {b : ℤ} (hx : float x ≠ .float .nan)
    (hw : w.integer? = some b) : x.compareInt? b = some (cmp (float x).rank w.rank) := by
  rw [Binary64.compareInt?_eq fun hnan => hx (congrArg _ hnan), rank_of_integer? hw, rank,
    cmp_ranked_number]

theorem compare?_eq_cmp_rank {x y : Binary64} (hx : float x ≠ .float .nan)
    (hy : float y ≠ .float .nan) : x.compare? y = some (cmp (float x).rank (float y).rank) := by
  rw [Binary64.compare?_eq (fun hnan => hx (congrArg _ hnan)) fun hnan => hy (congrArg _ hnan), rank,
    rank, cmp_ranked_number]

theorem cmp_rank_texts (s t : String) :
    cmp (text s).rank (text t).rank = compareOfLessAndEq s t := by
  rw [rank, rank, cmp_ranked_text]

theorem cmp_rank_bytes (b c : List UInt8) : cmp (bytes b).rank (bytes c).rank =
    compareOfLessAndEq (b.map (·.toNat)) (c.map (·.toNat)) := by
  rw [rank, rank, cmp_ranked_bytes]

theorem cmp_rank_dates (d e : Date) :
    cmp (date d).rank (date e).rank = compare d.ordinal e.ordinal := by
  rw [rank, rank, cmp_ranked_number, Binary64.cmp_toLex, ← cmp_eq_compare]
  exact Nat.strictMono_cast.cmp_map_eq _ _

/-- Two times are told apart by their instants if both know how far they are off, or neither does. -/
theorem cmp_rank_times {t u : Timestamp} (h : t.offset.isSome = u.offset.isSome) :
    cmp (time t).rank (time u).rank = compare t.instant u.instant := by
  rw [rank, rank, h, cmp_ranked_number, Binary64.cmp_toLex, ← cmp_eq_compare]
  exact Int.cast_strictMono.cmp_map_eq _ _

/-- Where an integer comes first, the other has to be a number. -/
theorem order?_integer_left {v w : Value} {a : ℤ} (hw : w ≠ .float .nan) (ha : v.integer? = some a)
    {o : Ordering} (h : v.order? w = some o) : o = cmp v.rank w.rank := by
  unfold order? at h
  cases hb : w.integer? with
  | some b =>
    simp only [ha, hb, Option.some.injEq] at h
    rw [cmp_rank_integers ha hb, h]
  | none =>
    simp only [ha, hb] at h
    cases w with
    | float y =>
      dsimp only at h
      rw [compareInt?_eq_cmp_rank hw ha, Option.map_some, cmp_swap] at h
      exact (Option.some.inj h).symm
    | _ => cases h

theorem order?_integer_right {v w : Value} {b : ℤ} (hv : v ≠ .float .nan) (ha : v.integer? = none)
    (hb : w.integer? = some b) {o : Ordering} (h : v.order? w = some o) :
    o = cmp v.rank w.rank := by
  unfold order? at h
  simp only [ha, hb] at h
  cases v with
  | float x => exact Option.some.inj (h.symm.trans (compareInt?_eq_cmp_rank hv hb))
  | _ => cases h

/-- Keys that are no integers are only ordered with those of their own kind. -/
theorem order?_same_kind {v w : Value} (hv : v ≠ .float .nan) (hw : w ≠ .float .nan)
    (ha : v.integer? = none) (hb : w.integer? = none) {o : Ordering} (h : v.order? w = some o) :
    o = cmp v.rank w.rank := by
  unfold order? at h
  simp only [ha, hb] at h
  cases v with
  | float x =>
    cases w with
    | float y => exact Option.some.inj (h.symm.trans (compare?_eq_cmp_rank hv hw))
    | _ => cases h
  | text s =>
    cases w with
    | text t => exact (Option.some.inj h).symm.trans (cmp_rank_texts s t).symm
    | _ => cases h
  | bytes b =>
    cases w with
    | bytes c => exact (Option.some.inj h).symm.trans (cmp_rank_bytes b c).symm
    | _ => cases h
  | date d =>
    cases w with
    | date e => exact (Option.some.inj h).symm.trans (cmp_rank_dates d e).symm
    | _ => cases h
  | time t =>
    cases w with
    | time u =>
      dsimp only at h
      rw [Option.ite_none_right_eq_some] at h
      exact (Option.some.inj h.2).symm.trans (cmp_rank_times h.1).symm
    | _ => cases h
  | _ => cases h

/-- Wherever two keys have an order, it is that of their ranks. -/
theorem order?_eq_cmp_rank {v w : Value} (hv : v ≠ .float .nan) (hw : w ≠ .float .nan)
    {o : Ordering} (h : v.order? w = some o) : o = cmp v.rank w.rank := by
  cases ha : v.integer? with
  | some a => exact order?_integer_left hw ha h
  | none =>
    cases hb : w.integer? with
    | some b => exact order?_integer_right hv ha hb h
    | none => exact order?_same_kind hv hw ha hb h

theorem sameKey_of_order? {v w : Value} (h : v.order? w = some .eq) : v.sameKey w = true := by
  unfold sameKey
  split
  · rfl
  · cases h
  · exact decide_eq_true h

theorem isSome_order?_of_isNumber {v w : Value} (hv : v ≠ .float .nan) (hw : w ≠ .float .nan)
    (hvn : v.isNumber = true) (hwn : w.isNumber = true) : (v.order? w).isSome = true := by
  have hint {x : Binary64} (hx : Value.float x ≠ .float .nan) (n : ℤ) :
      (x.compareInt? n).isSome = true := by
    rw [Binary64.compareInt?_eq fun h => hx (congrArg _ h)]
    rfl
  have hfloat {x y : Binary64} (hx : Value.float x ≠ .float .nan)
      (hy : Value.float y ≠ .float .nan) : (x.compare? y).isSome = true := by
    rw [Binary64.compare?_eq (fun h => hx (congrArg _ h)) fun h => hy (congrArg _ h)]
    rfl
  cases v <;> cases hvn <;> cases w <;> cases hwn <;>
    simp [order?, integer?, hint, hfloat, hv, hw]

/-- Keys that can be listed together and have no order are the same. -/
theorem sameKey_of_order?_eq_none {v w : Value} (hv : v ≠ .float .nan) (hw : w ≠ .float .nan)
    (h : v.order? w = none) (hcomparable : v.comparable w = true) : v.sameKey w = true := by
  have hnumbers : ¬ (v.isNumber = true ∧ w.isNumber = true) := by
    rintro ⟨hvn, hwn⟩
    have hsome := isSome_order?_of_isNumber hv hw hvn hwn
    rw [h] at hsome
    cases hsome
  simpa [comparable, h, hnumbers] using hcomparable

/-- The same key has one rank. -/
theorem rank_eq_of_sameKey {v w : Value} (hv : v ≠ .float .nan) (hw : w ≠ .float .nan)
    (h : v.sameKey w = true) : v.rank = w.rank := by
  unfold sameKey at h
  split at h
  · rfl
  · rfl
  · exact (cmp_eq_eq_iff _ _).mp (order?_eq_cmp_rank hv hw (of_decide_eq_true h)).symm

/-- Keys that can be sorted are sorted by their ranks. -/
theorem isLE_order?_iff {v w : Value} (hv : v ≠ .float .nan) (hw : w ≠ .float .nan)
    (h : v.comparable w = true) : (v.order? w).all (·.isLE) = decide (v.rank ≤ w.rank) := by
  cases horder : v.order? w with
  | none =>
    have hsame := sameKey_of_order?_eq_none hv hw horder h
    simp [rank_eq_of_sameKey hv hw hsame]
  | some o =>
    rw [order?_eq_cmp_rank hv hw horder, Option.all_some, Bool.eq_iff_iff, decide_eq_true_iff,
      Ordering.isLE_iff_ne_gt, cmp_eq_gt_iff, not_lt]

theorem sameKey_of_rank_eq {v w : Value} (hv : v ≠ .float .nan) (hw : w ≠ .float .nan)
    (h : v.comparable w = true) (hrank : v.rank = w.rank) : v.sameKey w = true := by
  cases horder : v.order? w with
  | none => exact sameKey_of_order?_eq_none hv hw horder h
  | some o =>
    refine sameKey_of_order? (horder.trans (congrArg some ?_))
    rw [order?_eq_cmp_rank hv hw horder, hrank, cmp_self_eq_eq]

/-- No two of the keys are the same, whichever of them comes first. -/
def Distinct (keys : List Value) : Prop :=
  keys.Pairwise fun v w => v.sameKey w = false ∧ w.sameKey v = false

theorem Distinct.filter {keys : List Value} (h : Distinct keys) (p : Value → Bool) :
    Distinct (keys.filter p) :=
  List.Pairwise.filter p h

/-- Keys that can be listed together are sorted by rank. -/
theorem mergeSort_eq_mergeSort_rank {keys : List Value} (hnan : ∀ k ∈ keys, k ≠ .float .nan)
    (hcomparable : ∀ k ∈ keys, ∀ l ∈ keys, k.comparable l = true) :
    (keys.mergeSort fun k l => (k.order? l).all (·.isLE)) =
      keys.mergeSort fun k l => decide (k.rank ≤ l.rank) := by
  simpa using List.map_mergeSort (f := id) fun k hk l hl =>
    isLE_order?_iff (hnan k hk) (hnan l hl) (hcomparable k hk l hl)

theorem pairwise_mergeSort_rank (keys : List Value) :
    (keys.mergeSort fun k l => decide (k.rank ≤ l.rank)).Pairwise fun k l => k.rank ≤ l.rank := by
  have hsorted : (keys.mergeSort fun k l => decide (k.rank ≤ l.rank)).Pairwise fun k l =>
      decide (k.rank ≤ l.rank) = true := by
    refine List.pairwise_mergeSort (fun k l m hkl hlm => ?_) (fun k l => ?_) keys
    · exact decide_eq_true (le_trans (of_decide_eq_true hkl) (of_decide_eq_true hlm))
    · simpa using le_total k.rank l.rank
  exact hsorted.imp of_decide_eq_true

theorem Distinct.of_perm {keys keys' : List Value} (h : Distinct keys) (hperm : keys.Perm keys') :
    Distinct keys' :=
  (hperm.pairwise_iff fun hne => hne.symm).mp h

/-- Among distinct keys the same key is the same value. -/
theorem Distinct.eq_of_sameKey {keys : List Value} (h : Distinct keys) {k l : Value} (hk : k ∈ keys)
    (hl : l ∈ keys) (hsame : k.sameKey l = true) : k = l := by
  have : Std.Symm fun v w : Value => v.sameKey w = false ∧ w.sameKey v = false :=
    ⟨fun _ _ hne => hne.symm⟩
  by_contra hne
  simp [(h.forall hk hl hne).1] at hsame

/-- Keys cannot be sorted if two of them cannot be listed together. -/
theorem sortKeys?_eq_none_iff {keys : List Value} :
    sortKeys? keys = none ↔ ∃ k ∈ keys, ∃ l ∈ keys, k.comparable l = false := by
  rw [sortKeys?]
  split <;> simp_all

theorem perm_of_sortKeys? {keys sorted : List Value} (h : sortKeys? keys = some sorted) :
    sorted.Perm keys := by
  rw [sortKeys?] at h
  split at h
  · cases h
    exact List.mergeSort_perm keys _
  · cases h

/-- Sorting different keys forgets the order in which they came. -/
theorem sortKeys?_eq_of_perm {keys keys' : List Value} (hperm : keys.Perm keys')
    (hdistinct : Distinct keys) (hnan : ∀ k ∈ keys, k ≠ .float .nan) :
    sortKeys? keys = sortKeys? keys' := by
  have hall : (keys'.all fun k => keys'.all k.comparable) =
      keys.all fun k => keys.all k.comparable := by
    rw [Bool.eq_iff_iff]
    simp only [List.all_eq_true, hperm.mem_iff]
  rw [sortKeys?, sortKeys?, hall]
  split
  · rename_i hcomparable
    simp only [List.all_eq_true] at hcomparable
    have hcomparable' : ∀ k ∈ keys', ∀ l ∈ keys', k.comparable l = true := fun k hk l hl =>
      hcomparable k (hperm.mem_iff.mpr hk) l (hperm.mem_iff.mpr hl)
    rw [mergeSort_eq_mergeSort_rank hnan hcomparable,
      mergeSort_eq_mergeSort_rank (fun k hk => hnan k (hperm.mem_iff.mpr hk)) hcomparable']
    refine congrArg some (List.Perm.eq_of_pairwise (fun k l hk hl hkl hlk => ?_)
      (pairwise_mergeSort_rank keys) (pairwise_mergeSort_rank keys') ?_)
    · have hk : k ∈ keys := List.mem_mergeSort.mp hk
      have hl : l ∈ keys := hperm.mem_iff.mpr (List.mem_mergeSort.mp hl)
      have hrank : k.rank = l.rank := le_antisymm hkl hlk
      exact hdistinct.eq_of_sameKey hk hl
        (sameKey_of_rank_eq (hnan k hk) (hnan l hl) (hcomparable k hk l hl) hrank)
    · exact (List.mergeSort_perm keys _).trans (hperm.trans (List.mergeSort_perm keys' _).symm)
  · rfl

theorem isKey_iff {name : String} {v : Value} : v.isKey name = true ↔ v = .text name := by
  cases v <;> simp [isKey]

theorem sameKey_text_iff {s t : String} : sameKey (.text s) (.text t) = true ↔ s = t := by
  constructor
  · intro h
    have hrank : rank (.text s) = rank (.text t) :=
      rank_eq_of_sameKey (by simp) (by simp) h
    simpa [rank, ranked] using hrank
  · rintro rfl
    exact sameKey_of_order? (by simp [order?, integer?, compareOfLessAndEq])

variable {entries entries' : List (Value × Value)} {name : String} {value : Value}

/-- Among distinct keys a lookup finds the one entry with the name. -/
theorem field?_eq_some_iff (h : Distinct (entries.map (·.1))) :
    field? entries name = some value ↔ (.text name, value) ∈ entries := by
  induction entries with
  | nil => simp [field?]
  | cons entry entries ih =>
    obtain ⟨hhead, htail⟩ := List.pairwise_cons.mp h
    rw [field?, List.find?_cons]
    cases hkey : entry.1.isKey name with
    | true =>
      have hname : entry.1 = .text name := isKey_iff.mp hkey
      have hnot : (.text name, value) ∉ entries := fun hmem => by
        have hne : entry.1.sameKey (.text name) = false := (hhead _ (List.mem_map_of_mem hmem)).1
        rw [hname, sameKey_text_iff.mpr rfl] at hne
        cases hne
      obtain ⟨key, v⟩ := entry
      cases hname
      simp [hnot, eq_comm]
    | false =>
      have hne : entry ≠ (.text name, value) := by
        rintro rfl
        simp [isKey] at hkey
      rw [List.mem_cons, or_iff_right (Ne.symm hne)]
      exact ih htail

theorem field?_eq_of_perm (hperm : entries.Perm entries') (h : Distinct (entries.map (·.1)))
    (name : String) : field? entries name = field? entries' name := by
  have h' : Distinct (entries'.map (·.1)) := h.of_perm (hperm.map _)
  ext value
  rw [field?_eq_some_iff h, field?_eq_some_iff h', hperm.mem_iff]

/-- The entries of a mapping whose keys are texts. -/
def textEntries (fields : List (String × Value)) : List (Value × Value) :=
  fields.map fun f => (.text f.1, f.2)

/-- A mapping whose keys are texts. -/
def ofFields (fields : List (String × Value)) : Value :=
  .mapping (textEntries fields)

theorem distinct_textEntries {fields : List (String × Value)} (h : (fields.map (·.1)).Nodup) :
    Distinct ((textEntries fields).map (·.1)) := by
  have hkeys : (textEntries fields).map (·.1) = (fields.map (·.1)).map .text := by
    simp [textEntries]
  rw [hkeys, Distinct, List.pairwise_map]
  refine h.imp fun hne => ?_
  rw [← Bool.not_eq_true, ← Bool.not_eq_true, sameKey_text_iff, sameKey_text_iff]
  exact ⟨hne, Ne.symm hne⟩

/-- Entries with texts for keys are looked up as they stand. -/
theorem field?_textEntries (fields : List (String × Value)) (name : String) :
    field? (textEntries fields) name = fields.lookup name := by
  induction fields with
  | nil => rfl
  | cons f fields ih =>
    have hname : isKey name (.text f.1) = (name == f.1) := by
      simp [isKey, beq_eq_decide, eq_comm]
    rw [textEntries, List.map_cons, field?, List.find?_cons, hname, List.lookup_cons]
    cases name == f.1 with
    | true => rfl
    | false => exact ih

end Value

end SdkScout
