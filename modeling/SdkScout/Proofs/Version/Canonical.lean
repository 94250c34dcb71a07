import SdkScout.Proofs.Version.Comparison
import SdkScout.Proofs.Version.Grammar

/-!
# The canonical text of a version

A key is written as the numerals of its three components (`Version.Key.text`). If these are bytes,
as they are in every key that is read (`Version.fits_of_normalized`), the text is read as that key
again (`Version.normalized_text`), and different keys are written differently
(`Version.Key.text_injective`). So among the versions with one reading there is one text that is
written for all of them.
-/

namespace SdkScout

namespace Version

variable {v w : Version}

/-- The components of a key are bytes. -/
structure Key.Fits (k : Key) : Prop where
  major : k.major ≤ componentMax
  minor : k.minor ≤ componentMax
  patch : k.patch ≤ componentMax

theorem isByte_digitsOfNat {n : Nat} (h : n ≤ componentMax) : IsByte (Text.digitsOfNat n) := by
  have hthree : (Text.digitsOfNat n).length ≤ 3 :=
    (Nat.length_toDigits_le_iff (by decide) (by decide)).mpr (Nat.lt_of_le_of_lt h (by decide))
  exact (isByte_and_natOfDigits_iff.mpr ⟨hthree.trans (by decide), h, 0, rfl⟩).1

theorem dot_notMem_digitsOfNat (n : Nat) : '.' ∉ Text.digitsOfNat n := fun hdot =>
  absurd (List.all_eq_true.mp (Text.all_isDigit_digitsOfNat n) '.' hdot) (by decide)

/-- A rendered version has its three numbers for components. -/
theorem components_text (k : Key) : components ⟨k.text⟩ =
    [Text.digitsOfNat k.major, Text.digitsOfNat k.minor, Text.digitsOfNat k.patch] := by
  refine components_eq_iff.mpr ⟨by simp, fun part hpart => ?_, ?_⟩
  · simp only [List.mem_cons, List.not_mem_nil, or_false] at hpart
    rcases hpart with rfl | rfl | rfl <;> exact dot_notMem_digitsOfNat _
  · rw [Key.text, String.toList_ofList]

theorem Key.text_injective : Function.Injective Key.text := by
  rintro ⟨a, b, c⟩ ⟨a', b', c'⟩ h
  have hcomponents := components_text ⟨a, b, c⟩
  rw [h, components_text] at hcomponents
  simpa [Text.digitsOfNat_injective.eq_iff, eq_comm] using hcomponents

/-- The text of a key has dots between the numbers. -/
theorem Key.text_eq (a b c : Nat) :
    Key.text ⟨a, b, c⟩ = toString a ++ "." ++ toString b ++ "." ++ toString c := by
  rw [← String.toList_inj]
  simp [Key.text, List.intercalate, Text.digitsOfNat]

/-- A rendered version is read back. -/
theorem normalized_text {k : Key} (h : k.Fits) : normalized ⟨k.text⟩ = .ok k := by
  have hbytes : ∀ part ∈ components ⟨k.text⟩, IsByte part := by
    simp [components_text, isByte_digitsOfNat, h.major, h.minor, h.patch]
  rw [normalized_of_isByte hbytes, components_text]
  simp [Key.ofList?, Text.natOfDigits_digitsOfNat]

/-- What is read fits into three bytes. -/
theorem fits_of_normalized {k : Key} (h : v.normalized = .ok k) : k.Fits := by
  cases reads_of_normalized h with
  | padded bytes few numbers =>
    have hnumbers : ∀ n ∈ [k.major, k.minor, k.patch], n ≤ componentMax := by
      intro n hn
      rw [← numbers, List.rightpad, List.mem_append] at hn
      rcases hn with hn | hn
      · obtain ⟨part, hpart, rfl⟩ := List.mem_map.mp hn
        exact (bytes part hpart).2.2.2
      · rw [List.eq_of_mem_replicate hn]
        exact Nat.zero_le _
    exact ⟨hnumbers _ (by simp), hnumbers _ (by simp), hnumbers _ (by simp)⟩

theorem semantic_of_normalized {k : Key} (h : v.normalized = .ok k) : v.semantic = .ok k.text := by
  rw [semantic, h, Except.map_ok_eq]

/-- Versions tie if they are read alike. -/
theorem order_eq_eq_iff {k l : Key} (hv : v.normalized = .ok k) (hw : w.normalized = .ok l) :
    v.order w = .ok .eq ↔ k = l := by
  have horder : v.order w = .ok (k.order l) := by simp [order, sortKey, hv, hw]
  rw [horder, Except.ok.injEq, Key.order_eq_eq_iff]

/-- What is written for a version is read as the version is, is written for itself, and ties with
the version; it is the same for two versions exactly if they tie. Every three bytes with dots between
them are written for themselves, and nothing is written for a version exactly if its reading fails,
in the way in which that fails. -/
theorem semantic_isCanonical (v w : Version) :
    (∀ k, v.normalized = .ok k → ∃ t, v.semantic = .ok t ∧ normalized ⟨t⟩ = .ok k ∧
      semantic ⟨t⟩ = .ok t ∧ v.order ⟨t⟩ = .ok .eq) ∧
      (∀ k l, v.normalized = .ok k → w.normalized = .ok l →
        (v.semantic = w.semantic ↔ v.order w = .ok .eq)) ∧
      (∀ a b c, a ≤ componentMax → b ≤ componentMax → c ≤ componentMax →
        ∃ t, t = toString a ++ "." ++ toString b ++ "." ++ toString c ∧
          normalized ⟨t⟩ = .ok ⟨a, b, c⟩ ∧ semantic ⟨t⟩ = .ok t) ∧
      ∀ failure, v.semantic.mapError (Failure.ofVersion v) = .error failure ↔
        v.normalized.mapError (Failure.ofVersion v) = .error failure := by
  refine ⟨fun k hk => ?_, fun k l hk hl => ?_, fun a b c ha hb hc => ?_, fun failure => ?_⟩
  · have hread := normalized_text (fits_of_normalized hk)
    exact ⟨k.text, semantic_of_normalized hk, hread, semantic_of_normalized hread,
      (order_eq_eq_iff hk hread).mpr rfl⟩
  · rw [semantic_of_normalized hk, semantic_of_normalized hl, Except.ok.injEq,
      Key.text_injective.eq_iff, order_eq_eq_iff hk hl]
  · have hread := normalized_text (k := ⟨a, b, c⟩) ⟨ha, hb, hc⟩
    exact ⟨_, Key.text_eq a b c, hread, semantic_of_normalized hread⟩
  · rw [semantic]
    cases v.normalized <;> simp [Except.mapError]

end Version

end SdkScout
