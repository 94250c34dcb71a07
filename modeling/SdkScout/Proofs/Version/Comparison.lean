import SdkScout.Proofs.Version.KeyOrder

/-!
# Comparing versions

The comparisons of two versions are read off their order, and the order is the lexicographic one of
their keys (`Version.Key.order_eq_compare`, `Version.compares_eq_ok`). So versions are totally
preordered: different texts can have the same key, and none of them comes before the other then. A
version and a text compare as two versions do, on either side (`Label.compares_version_left`,
`Label.compares_version_right`). Oversized versions have no place in the order, and a comparison with
one fails. Equality and hashing go by the text instead, and agree with the order in one direction
only.
-/

namespace SdkScout

namespace Version

variable {u v w : Version}

theorem Key.order_eq_compare (a b : Key) : a.order b = compare a.triple b.triple := by
  rcases lt_trichotomy a b with hlt | rfl | hgt
  · rw [Key.order_eq_lt_iff.mpr hlt, eq_comm, compare_lt_iff_lt]
    exact hlt
  · simp [Key.order]
  · rw [Key.order_eq_gt_iff.mpr hgt, eq_comm, compare_gt_iff_gt]
    exact hgt

theorem Key.order_eq_eq_iff {a b : Key} : a.order b = .eq ↔ a = b := by
  rw [Key.order_eq_compare, compare_eq_iff_eq, Key.triple_injective.eq_iff]

theorem normalized_eq_oversized_iff : v.normalized = .error .oversized ↔ v.Oversized := by
  rw [normalized_eq]
  by_cases h : v.Oversized
  · simp [h, h.reading?_eq_none]
  · cases v.reading? <;> simp [h]

/-- The key of a version that is not oversized is its reading, if it has one. -/
theorem normalized_eq_key_or_malformed (hv : v.normalized ≠ .error .oversized) :
    v.normalized = .ok v.key ∨ v.normalized = .error .malformed ∧ v.key = .zero := by
  have hover : ¬ v.Oversized := fun h => hv (normalized_eq_oversized_iff.mpr h)
  rw [normalized_eq, key]
  cases v.reading? <;> simp [hover]

theorem order_eq_ok (hv : v.normalized ≠ .error .oversized) (hw : w.normalized ≠ .error .oversized) :
    v.order w = .ok (v.key.order w.key) := by
  rw [Ne, normalized_eq_oversized_iff] at hv hw
  rw [order_eq_ite, if_neg (not_or.mpr ⟨hv, hw⟩)]

/-- What a comparison says of two keys. -/
def Key.Compares : Comparison → Key → Key → Prop
  | .lt, a, b => a < b
  | .le, a, b => a ≤ b
  | .gt, a, b => b < a
  | .ge, a, b => b ≤ a

theorem Key.admits_order_iff {c : Comparison} {a b : Key} :
    c.admits (a.order b) = true ↔ Key.Compares c a b := by
  cases c with
  | lt => rw [Comparison.admits, Ordering.isLT_iff_eq_lt, Key.order_eq_lt_iff, Key.Compares]
  | le => exact Key.isLE_order_iff
  | gt => rw [Comparison.admits, Ordering.isGT_iff_eq_gt, Key.order_eq_gt_iff, Key.Compares]
  | ge => exact Key.isGE_order_iff

/-- With the sides exchanged, the mirrored comparison says the same. -/
theorem Key.admits_mirrored (c : Comparison) (a b : Key) :
    c.mirrored.admits (b.order a) = c.admits (a.order b) := by
  rw [Bool.eq_iff_iff, Key.admits_order_iff, Key.admits_order_iff]
  cases c <;> exact Iff.rfl

theorem Key.Compares.trans {c : Comparison} {a b d : Key} (h : Key.Compares c a b)
    (h' : Key.Compares c b d) : Key.Compares c a d := by
  cases c with
  | lt => exact lt_trans h h'
  | le => exact le_trans h h'
  | gt => exact lt_trans h' h
  | ge => exact le_trans h' h

theorem compares_eq_map (c : Comparison) (v w : Version) :
    v.compares c w = (v.order w).map c.admits := rfl

theorem compares_mirrored (c : Comparison) (v w : Version) :
    w.compares c.mirrored v = v.compares c w := by
  simp only [compares_eq_map, order_eq_ite, or_comm (a := w.Oversized)]
  split
  · rfl
  · rw [Except.map_ok_eq, Except.map_ok_eq, Key.admits_mirrored]

/-- No order fails because of a malformed text, so the failure names no version. -/
theorem mapError_compares (c : Comparison) (v w u : Version) :
    (v.compares c w).mapError (Failure.ofVersion u) =
      (v.compares c w).mapError (Failure.ofVersion v) := by
  rw [compares_eq_map, order_eq_ite]
  split <;> rfl

theorem compares_eq_ok (c : Comparison) (hv : v.normalized ≠ .error .oversized)
    (hw : w.normalized ≠ .error .oversized) :
    v.compares c w = .ok (c.admits (v.key.order w.key)) := by
  rw [compares_eq_map, order_eq_ok hv hw, Except.map_ok_eq]

theorem compares_eq_true_iff (c : Comparison) (hv : v.normalized ≠ .error .oversized)
    (hw : w.normalized ≠ .error .oversized) :
    v.compares c w = .ok true ↔ Key.Compares c v.key w.key := by
  rw [compares_eq_ok c hv hw, Except.ok.injEq, Key.admits_order_iff]

end Version

namespace Label

open Version

variable {a b : Label} {v w : Version}

/-- A version is compared with a text as it is with the version of that text. -/
theorem compares_version_left (c : Comparison) (h : b.version? = some w) :
    compares c (.version v) b = (v.compares c w).mapError (.ofVersion v) := by
  cases b with
  | platform p | known k => cases h
  | version u =>
    cases h
    rfl
  | plain value =>
    cases value <;> cases h
    rfl

theorem compares_version_right (c : Comparison) (h : a.version? = some v) :
    compares c a (.version w) = (v.compares c w).mapError (.ofVersion v) := by
  cases a with
  | platform p | known k => cases h
  | version u =>
    cases h
    rfl
  | plain value =>
    cases value <;> cases h
    rename_i s
    calc compares c (.plain (.text s)) (.version w)
        = (w.compares c.mirrored ⟨s⟩).mapError (.ofVersion w) := rfl
      _ = (Version.compares c ⟨s⟩ w).mapError (.ofVersion ⟨s⟩) := by
        rw [compares_mirrored, mapError_compares]

/-- A version and what is made a version of a text are ordered as the two versions. -/
theorem orderAsVersion_eq (v : Version) (h : b.version? = some w) :
    orderAsVersion v b = (v.order w).mapError (.ofVersion v) := by
  have hwritten : b.written = .ok w.text := by
    cases b with
    | platform p | known k => cases h
    | version u =>
      cases h
      rfl
    | plain value =>
      cases value <;> cases h
      rfl
  rw [orderAsVersion, hwritten]
  cases hkey : v.sortKey with
  | ok key => rfl
  | error fault => simp only [order, hkey, Except.error_bind, Except.mapError]

theorem same_version_iff : same (.version v) (.version w) = true ↔ v.text = w.text := by
  obtain ⟨s⟩ := v
  obtain ⟨t⟩ := w
  simp [same, platform?, version?]

end Label

namespace Version

variable {u v w : Version}

/-- Every comparison of a version with a version or a text, on either side, is one of the two keys, and
a version is valid or not; unless one of them is oversized, where there is no order and no answer. No
version is oversized whose components all have at most `Text.digitLimit` characters. -/
theorem compares_eq_admits_unless_oversized (v w : Version) (b : Label) (h : b.version? = some w) :
    v.isValid = (if v.Oversized then .error .oversized else .ok v.reading?.isSome) ∧
      v.order w = (if v.Oversized ∨ w.Oversized then .error .oversized
        else .ok (v.key.order w.key)) ∧
      Label.orderAsVersion v b = (if v.Oversized ∨ w.Oversized then .error .oversizedVersion
        else .ok (v.key.order w.key)) ∧
      (∀ c, v.compares c w = if v.Oversized ∨ w.Oversized then .error .oversized
        else .ok (c.admits (v.key.order w.key))) ∧
      (∀ c, Label.compares c (.version v) b = if v.Oversized ∨ w.Oversized then
        .error .oversizedVersion else .ok (c.admits (v.key.order w.key))) ∧
      (∀ c, Label.compares c b (.version v) = if v.Oversized ∨ w.Oversized then
        .error .oversizedVersion else .ok (c.admits (w.key.order v.key))) ∧
      ((∀ part ∈ v.components, part.length ≤ Text.digitLimit) → ¬ v.Oversized) := by
  refine ⟨isValid_eq_ite v, order_eq_ite v w, ?_, fun c => ?_, fun c => ?_, fun c => ?_,
    not_oversized_of_length_le⟩
  · rw [Label.orderAsVersion_eq v h, order_eq_ite]
    split <;> rfl
  · rw [compares_eq_map, order_eq_ite]
    split <;> rfl
  · rw [Label.compares_version_left c h, compares_eq_map, order_eq_ite]
    split <;> rfl
  · simp only [Label.compares_version_right c h, compares_eq_map, order_eq_ite,
      or_comm (a := w.Oversized)]
    split <;> rfl

/-- A malformed text is compared as `0.0.0`. -/
theorem compares_eq_admits_malformed :
    (Label.plain (.text "9.x")).version? = some ⟨"9.x"⟩ ∧
      (Label.version ⟨"0.1"⟩).compares .ge (.plain (.text "9.x")) = .ok true ∧
      (Label.plain (.text "9.x")).compares .lt (.version ⟨"0.1"⟩) = .ok true := by
  have h : (Label.plain (.text "9.x")).version? = some ⟨"9.x"⟩ := rfl
  obtain ⟨-, -, -, -, hleft, hright, -⟩ :=
    compares_eq_admits_unless_oversized ⟨"0.1"⟩ ⟨"9.x"⟩ _ h
  exact ⟨h, (hleft .ge).trans (by decide +kernel), (hright .lt).trans (by decide +kernel)⟩

/-- No comparison with a version of too many digits gives an answer. -/
theorem compares_manyOnes :
    manyOnes.isValid = .error .oversized ∧
      Label.orderAsVersion manyOnes (.plain (.text "1")) = .error .oversizedVersion ∧
      ∀ c, manyOnes.compares c ⟨"1"⟩ = .error .oversized ∧
        (Label.version manyOnes).compares c (.plain (.text "1")) = .error .oversizedVersion ∧
        (Label.plain (.text "1")).compares c (.version manyOnes) = .error .oversizedVersion := by
  have hlabel : (Label.plain (.text "1")).version? = some ⟨"1"⟩ := rfl
  have horder : manyOnes.order ⟨"1"⟩ = .error .oversized := by
    rw [order_eq_ite, if_pos (.inl manyOnes_oversized)]
  have hmirrored : Version.order ⟨"1"⟩ manyOnes = .error .oversized := by
    rw [order_eq_ite, if_pos (.inr manyOnes_oversized)]
  refine ⟨by rw [isValid_eq_ite, if_pos manyOnes_oversized], ?_, fun c => ⟨?_, ?_, ?_⟩⟩
  · rw [Label.orderAsVersion_eq _ hlabel, horder]
    rfl
  · rw [compares_eq_map, horder, Except.map_error_eq]
  · rw [Label.compares_version_left c hlabel, compares_eq_map, horder]
    rfl
  · rw [Label.compares_version_right c hlabel, compares_eq_map, hmirrored]
    rfl

/-- How versions are compared, and how that goes together with their equality. -/
structure OrderedByKey (u v w : Version) : Prop where
  /-- The key is the reading, or `0.0.0` for a malformed text. -/
  key_eq : v.normalized = .ok v.key ∨ v.normalized = .error .malformed ∧ v.key = .zero
  order_eq : v.order w = .ok (compare v.key.triple w.key.triple)
  order_swap : w.order v = (v.order w).map Ordering.swap
  compares_trans (c : Comparison) : u.compares c v = .ok true → v.compares c w = .ok true →
    u.compares c w = .ok true
  tie_trans : u.order v = .ok .eq → v.order w = .ok .eq → u.order w = .ok .eq
  /-- One order holds, and the strict comparisons tell which. -/
  trichotomy : ∃ order, v.order w = .ok order ∧ v.compares .lt w = .ok (order = .lt) ∧
    v.compares .gt w = .ok (order = .gt)
  le_iff_not_gt : v.compares .le w = (v.compares .gt w).map not
  ge_iff_not_lt : v.compares .ge w = (v.compares .lt w).map not
  compares_label (c : Comparison) :
    Label.compares c (.version v) (.version w) = (v.compares c w).mapError (.ofVersion v)
  compares_text_right (c : Comparison) : Label.compares c (.version v) (.plain (.text w.text)) =
    Label.compares c (.version v) (.version w)
  compares_text_left (c : Comparison) : Label.compares c (.plain (.text v.text)) (.version w) =
    Label.compares c (.version v) (.version w)
  same_iff : Label.same (.version v) (.version w) = true ↔ v.text = w.text
  tie_of_same : Label.same (.version v) (.version w) = true →
    v.order w = .ok .eq ∧ (Label.version v).hashed = (Label.version w).hashed
  /-- A tie of different versions is one of different texts with one key. -/
  tie_iff : v.order w = .ok .eq ∧ Label.same (.version v) (.version w) = false ↔
    v.key = w.key ∧ v.text ≠ w.text

/-- Versions that are not oversized are totally preordered by their keys, whether they stand as
versions or as texts. Versions with the same text are equal and hash alike; versions with the same
key tie. -/
theorem orderedByKey (hu : u.normalized ≠ .error .oversized)
    (hv : v.normalized ≠ .error .oversized) (hw : w.normalized ≠ .error .oversized) :
    OrderedByKey u v w where
  key_eq := normalized_eq_key_or_malformed hv
  order_eq := by rw [order_eq_ok hv hw, Key.order_eq_compare]
  order_swap := by
    rw [order_eq_ok hw hv, order_eq_ok hv hw, Key.order_eq_compare, Key.order_eq_compare,
      Except.map_ok_eq, ← Std.OrientedOrd.eq_swap]
  compares_trans c huv hvw := by
    rw [compares_eq_true_iff c hu hv] at huv
    rw [compares_eq_true_iff c hv hw] at hvw
    exact (compares_eq_true_iff c hu hw).mpr (huv.trans hvw)
  tie_trans huv hvw := by
    rw [order_eq_ok hu hv, Except.ok.injEq, Key.order_eq_eq_iff] at huv
    rw [order_eq_ok hv hw, Except.ok.injEq, Key.order_eq_eq_iff] at hvw
    rw [order_eq_ok hu hw, Except.ok.injEq, Key.order_eq_eq_iff]
    exact huv.trans hvw
  trichotomy := by
    refine ⟨_, order_eq_ok hv hw, ?_, ?_⟩
    · rw [compares_eq_ok _ hv hw]
      cases v.key.order w.key <;> rfl
    · rw [compares_eq_ok _ hv hw]
      cases v.key.order w.key <;> rfl
  le_iff_not_gt := by
    rw [compares_eq_ok _ hv hw, compares_eq_ok _ hv hw]
    cases v.key.order w.key <;> rfl
  ge_iff_not_lt := by
    rw [compares_eq_ok _ hv hw, compares_eq_ok _ hv hw]
    cases v.key.order w.key <;> rfl
  compares_label c := Label.compares_version_left c rfl
  compares_text_right c := by
    rw [Label.compares_version_left c rfl, Label.compares_version_left c rfl]
  compares_text_left c := by
    rw [Label.compares_version_right c rfl, Label.compares_version_right c rfl]
  same_iff := Label.same_version_iff
  tie_of_same h := by
    have htext := Label.same_version_iff.mp h
    obtain rfl : v = w := by
      cases v; cases w
      exact congrArg Version.mk htext
    exact ⟨by rw [order_eq_ok hv hw, Key.order_eq_eq_iff.mpr rfl], rfl⟩
  tie_iff := by
    rw [order_eq_ok hv hw, Except.ok.injEq, Key.order_eq_eq_iff, ← Bool.not_eq_true,
      Label.same_version_iff]

/-- Different texts with one key: zeros that may be left out, and a malformed text beside zero. -/
theorem orderedByKey_ties :
    Version.normalized ⟨"0.9"⟩ ≠ .error .oversized ∧ Version.normalized ⟨"1"⟩ ≠ .error .oversized ∧
      Version.normalized ⟨"01.0"⟩ ≠ .error .oversized ∧
      Version.normalized ⟨"9.x"⟩ ≠ .error .oversized ∧
      Version.normalized ⟨"0.0"⟩ ≠ .error .oversized ∧
      OrderedByKey ⟨"0.9"⟩ ⟨"1"⟩ ⟨"01.0"⟩ ∧ Version.order ⟨"1"⟩ ⟨"01.0"⟩ = .ok .eq ∧
      OrderedByKey ⟨"1"⟩ ⟨"9.x"⟩ ⟨"0.0"⟩ ∧ Version.order ⟨"9.x"⟩ ⟨"0.0"⟩ = .ok .eq := by
  have hsmall : Version.normalized ⟨"0.9"⟩ ≠ .error .oversized := by decide +kernel
  have hone : Version.normalized ⟨"1"⟩ ≠ .error .oversized := by decide +kernel
  have hpadded : Version.normalized ⟨"01.0"⟩ ≠ .error .oversized := by decide +kernel
  have hmalformed : Version.normalized ⟨"9.x"⟩ ≠ .error .oversized := by decide +kernel
  have hzero : Version.normalized ⟨"0.0"⟩ ≠ .error .oversized := by decide +kernel
  have hties := orderedByKey hsmall hone hpadded
  have hties' := orderedByKey hone hmalformed hzero
  exact ⟨hsmall, hone, hpadded, hmalformed, hzero, hties,
    (hties.tie_iff.mpr ⟨by decide +kernel, by decide⟩).1, hties',
    (hties'.tie_iff.mpr ⟨by decide +kernel, by decide⟩).1⟩

end Version

end SdkScout
