import SdkScout.Label
import SdkScout.Proofs.Outcome

/-!
# Which versions have an order

The fault of a version is that of its first component without a reading. A version is malformed, and
ordered as `0.0.0`, unless that component is a run of more digits than a number may be written with:
such a version is oversized, and neither has an order nor is it valid or invalid
(`Version.order_eq_ite`, `Version.isValid_eq_ite`). All other versions are ordered among each other.
-/

namespace SdkScout.Version

/-- A run of digits, not too many, with a value that fits a byte. -/
def IsByte (part : List Char) : Prop :=
  part ≠ [] ∧ part.all Char.isDigit = true ∧ part.length ≤ Text.digitLimit ∧
    Text.natOfDigits part ≤ componentMax

instance : DecidablePred IsByte := fun _ => inferInstanceAs (Decidable (_ ∧ _))

/-- A run of more digits than a number may be written with. -/
def IsOverlong (part : List Char) : Prop :=
  part.all Char.isDigit = true ∧ Text.digitLimit < part.length

instance : DecidablePred IsOverlong := fun _ => inferInstanceAs (Decidable (_ ∧ _))

/-- The first component that is no byte. -/
def oddComponent? (v : Version) : Option (List Char) :=
  v.components.find? (¬ IsByte ·)

/-- The first component that is no byte is overlong. -/
def Oversized (v : Version) : Prop :=
  ∃ part ∈ v.oddComponent?, IsOverlong part

instance : DecidablePred Oversized := fun v =>
  inferInstanceAs (Decidable (∃ part ∈ v.oddComponent?, IsOverlong part))

/-- The numbers of at most three components that are all bytes. -/
def reading? (v : Version) : Option Key :=
  if ∀ part ∈ v.components, IsByte part then Key.ofList? (v.components.map Text.natOfDigits)
  else none

/-- The reading of a version, or `0.0.0` if there is none. -/
def key (v : Version) : Key :=
  v.reading?.getD .zero

/-- A byte is read as its number. -/
theorem readComponent_of_isByte {part : List Char} (h : IsByte part) :
    readComponent part = .ok (Text.natOfDigits part) := by
  obtain ⟨hne, hdigits, hlength, hvalue⟩ := h
  rw [readComponent, if_neg (by simp [hne, hdigits]), if_neg (by omega), if_neg (by omega)]

/-- All other components are malformed, unless they are too long to be read at all. -/
theorem readComponent_of_not_isByte {part : List Char} (h : ¬ IsByte part) :
    readComponent part = .error (if IsOverlong part then .oversized else .malformed) := by
  rw [readComponent]
  split
  · rename_i hshape
    have hlong : ¬ IsOverlong part := by
      rcases hshape with rfl | hdigits
      · simp [IsOverlong, Text.digitLimit]
      · simp [IsOverlong, hdigits]
    rw [if_neg hlong]
  · split <;> simp_all [IsByte, IsOverlong]

/-- The components of a version are read from the first to the last. -/
theorem mapM_readComponent (parts : List (List Char)) :
    parts.mapM readComponent = match parts.find? (¬ IsByte ·) with
      | some part => .error (if IsOverlong part then .oversized else .malformed)
      | none => .ok (parts.map Text.natOfDigits) := by
  induction parts with
  | nil => rfl
  | cons part parts ih =>
    rw [List.mapM_cons, ih, List.find?_cons]
    by_cases h : IsByte part
    · rw [readComponent_of_isByte h]
      cases hfind : parts.find? (¬ IsByte ·) <;> simp [h]
    · simp [readComponent_of_not_isByte h, h]

theorem oddComponent?_eq_none_iff {v : Version} :
    v.oddComponent? = none ↔ ∀ part ∈ v.components, IsByte part := by
  simp [oddComponent?]

/-- The first component that is no byte decides the fault. -/
theorem normalized_of_oddComponent? {v : Version} {part : List Char}
    (h : v.oddComponent? = some part) :
    v.normalized = .error (if IsOverlong part then .oversized else .malformed) := by
  rw [normalized, mapM_readComponent, ← oddComponent?, h]
  rfl

/-- If all components are bytes, their count decides. -/
theorem normalized_of_isByte {v : Version} (h : ∀ part ∈ v.components, IsByte part) :
    v.normalized = match Key.ofList? (v.components.map Text.natOfDigits) with
      | some key => .ok key
      | none => .error .malformed := by
  rw [normalized, mapM_readComponent, ← oddComponent?, oddComponent?_eq_none_iff.mpr h]
  rfl

theorem normalized_eq (v : Version) :
    v.normalized = match v.reading? with
      | some key => .ok key
      | none => .error (if v.Oversized then .oversized else .malformed) := by
  cases hodd : v.oddComponent? with
  | some part =>
    have hnot : ¬ ∀ part ∈ v.components, IsByte part := by
      simp [← oddComponent?_eq_none_iff, hodd]
    have hsize : v.Oversized ↔ IsOverlong part := by simp [Oversized, hodd]
    simp only [normalized_of_oddComponent? hodd, reading?, if_neg hnot, hsize]
  | none =>
    have hbytes := oddComponent?_eq_none_iff.mp hodd
    have hsize : ¬ v.Oversized := by simp [Oversized, hodd]
    rw [normalized_of_isByte hbytes, reading?, if_pos hbytes, if_neg hsize]

theorem components_of_digits {digits : List Char} (h : ∀ c ∈ digits, c.isDigit = true) :
    components ⟨String.ofList digits⟩ = [digits] := by
  rw [components, String.toList_ofList]
  refine List.splitOnP_eq_singleton fun c hc => ?_
  simp only [beq_eq_false_iff_ne]
  rintro rfl
  exact absurd (h _ hc) (by decide)

/-- A single component, if it is not overlong. -/
theorem normalized_of_digits {digits : List Char} (hne : digits ≠ [])
    (h : ∀ c ∈ digits, c.isDigit = true) (hlength : digits.length ≤ Text.digitLimit) :
    normalized ⟨String.ofList digits⟩ = if Text.natOfDigits digits ≤ componentMax
      then .ok ⟨Text.natOfDigits digits, 0, 0⟩ else .error .malformed := by
  have hshape : ¬ (digits = [] ∨ digits.all Char.isDigit = false) := by
    rw [List.all_eq_true.mpr h]
    simp [hne]
  rw [normalized, components_of_digits h, List.mapM_cons, readComponent, if_neg hshape,
    if_neg (Nat.not_lt.mpr hlength)]
  by_cases hvalue : Text.natOfDigits digits ≤ componentMax
  · rw [if_neg (Nat.not_lt.mpr hvalue), if_pos hvalue]
    rfl
  · rw [if_pos (Nat.not_le.mp hvalue), if_neg hvalue]
    rfl

theorem Oversized.reading?_eq_none {v : Version} (h : v.Oversized) : v.reading? = none := by
  obtain ⟨part, hodd, -⟩ := h
  have hnot : ¬ ∀ part ∈ v.components, IsByte part := by
    simp [← oddComponent?_eq_none_iff, Option.mem_def.mp hodd]
  rw [reading?, if_neg hnot]

/-- A version that is not oversized has a key, malformed or not. -/
theorem sortKey_eq_ite (v : Version) :
    v.sortKey = if v.Oversized then .error .oversized else .ok v.key := by
  rw [sortKey, normalized_eq, key]
  by_cases h : v.Oversized
  · simp [h, h.reading?_eq_none]
  · cases v.reading? <;> simp [h]

theorem isValid_eq_ite (v : Version) :
    v.isValid = if v.Oversized then .error .oversized else .ok v.reading?.isSome := by
  rw [isValid, normalized_eq]
  by_cases h : v.Oversized
  · simp [h, h.reading?_eq_none]
  · cases v.reading? <;> simp [h]

/-- Versions are ordered by their keys, unless one of them is oversized. -/
theorem order_eq_ite (v w : Version) :
    v.order w = if v.Oversized ∨ w.Oversized then .error .oversized
      else .ok (v.key.order w.key) := by
  rw [order, sortKey_eq_ite, sortKey_eq_ite]
  by_cases hv : v.Oversized <;> by_cases hw : w.Oversized <;> simp [hv, hw]

theorem not_oversized_of_not_isOverlong {v : Version}
    (h : ∀ part ∈ v.components, ¬ IsOverlong part) : ¬ v.Oversized := by
  rintro ⟨part, hodd, hlong⟩
  exact h part (List.mem_of_find?_eq_some hodd) hlong

/-- Short components are never oversized. -/
theorem not_oversized_of_length_le {v : Version}
    (h : ∀ part ∈ v.components, part.length ≤ Text.digitLimit) : ¬ v.Oversized :=
  not_oversized_of_not_isOverlong fun part hpart hlong => Nat.not_lt.mpr (h part hpart) hlong.2

theorem not_oversized_of_normalized {v : Version} {k : Key} (h : v.normalized = .ok k) :
    ¬ v.Oversized := by
  intro hover
  rw [normalized_eq, hover.reading?_eq_none] at h
  cases h

/-- One digit more than a number may be written with. -/
def manyOnes : Version := ⟨String.ofList (List.replicate (Text.digitLimit + 1) '1')⟩

theorem manyOnes_oversized : manyOnes.Oversized := by
  have hcomponents : manyOnes.components = [List.replicate (Text.digitLimit + 1) '1'] :=
    components_of_digits fun c hc => by simp [List.eq_of_mem_replicate hc]
  refine ⟨List.replicate (Text.digitLimit + 1) '1', ?_, ?_⟩
  · simp [oddComponent?, hcomponents, IsByte]
  · simp [IsOverlong]

end SdkScout.Version
