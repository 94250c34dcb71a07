import SdkScout.Proofs.Text.Decimal
import SdkScout.Proofs.Version.Reading

/-!
# What versions are read as

A version is its components with dots between them (`Version.components_eq_iff`). The components
are read from the first to the last, and only then are they counted: the first one that is no byte
decides how the reading fails, and a version of bytes alone fails if it has more than three
(`Version.Reads`). A byte is the numeral of its value behind any number of zeros, in no more digits
than a number may be written with (`Version.isByte_and_natOfDigits_iff`).
-/

namespace List

/-- The pieces of a split hold everything but what it is split at. -/
theorem exists_mem_splitOn_iff [BEq α] [LawfulBEq α] {a b : α} {xs : List α} :
    (∃ piece ∈ xs.splitOn a, b ∈ piece) ↔ b ∈ xs ∧ b ≠ a := by
  induction xs with
  | nil => simp [splitOn_nil]
  | cons x xs ih =>
    rw [splitOn_cons_eq_if_modifyHead]
    by_cases hx : x = a
    · subst hx
      rw [if_pos (by simp)]
      simp only [mem_cons, exists_eq_or_imp, not_mem_nil, false_or, ih]
      constructor
      · rintro ⟨hb, hne⟩
        exact ⟨.inr hb, hne⟩
      · rintro ⟨rfl | hb, hne⟩
        · exact absurd rfl hne
        · exact ⟨hb, hne⟩
    · obtain ⟨first, rest, hsplit⟩ := exists_cons_of_ne_nil (splitOn_ne_nil a xs)
      rw [if_neg (by simpa using hx), hsplit, modifyHead_cons]
      rw [hsplit] at ih
      simp only [mem_cons, exists_eq_or_imp] at ih ⊢
      rw [or_assoc, ih]
      constructor
      · rintro (rfl | ⟨hb, hne⟩)
        · exact ⟨.inl rfl, hx⟩
        · exact ⟨.inr hb, hne⟩
      · rintro ⟨rfl | hb, hne⟩
        · exact .inl rfl
        · exact .inr ⟨hb, hne⟩

end List

namespace SdkScout

namespace Version

variable {v : Version}

theorem Key.ofList?_eq_some_iff {numbers : List Nat} {key : Key} :
    Key.ofList? numbers = some key ↔ numbers ≠ [] ∧ numbers.length ≤ 3 ∧
      numbers.rightpad 3 0 = [key.major, key.minor, key.patch] := by
  obtain ⟨major, minor, patch⟩ := key
  match numbers with
  | [] | [_] | [_, _] | [_, _, _] => simp [Key.ofList?, List.rightpad]
  | _ :: _ :: _ :: _ :: _ => simp [Key.ofList?]

theorem Key.ofList?_eq_none_iff {numbers : List Nat} :
    Key.ofList? numbers = none ↔ numbers = [] ∨ 3 < numbers.length := by
  match numbers with
  | [] | [_] | [_, _] | [_, _, _] | _ :: _ :: _ :: _ :: _ => simp [Key.ofList?]

theorem components_ne_nil (v : Version) : v.components ≠ [] :=
  List.splitOn_ne_nil _ _

/-- The components are the one way to cut the text at every dot. -/
theorem components_eq_iff {parts : List (List Char)} : v.components = parts ↔
    parts ≠ [] ∧ (∀ part ∈ parts, '.' ∉ part) ∧ ['.'].intercalate parts = v.text.toList := by
  constructor
  · rintro rfl
    refine ⟨v.components_ne_nil, fun part hpart hdot => ?_, List.intercalate_splitOn '.'⟩
    exact (List.exists_mem_splitOn_iff.mp ⟨part, hpart, hdot⟩).2 rfl
  · rintro ⟨hne, hdot, htext⟩
    rw [components, ← htext, List.splitOn_intercalate '.' hdot hne]

/-- The bytes and their values. -/
theorem isByte_and_natOfDigits_iff {part : List Char} {n : Nat} :
    IsByte part ∧ Text.natOfDigits part = n ↔ part.length ≤ Text.digitLimit ∧ n ≤ componentMax ∧
      ∃ zeros, part = List.replicate zeros '0' ++ Text.digitsOfNat n := by
  constructor
  · rintro ⟨⟨hne, hdigits, hlength, hvalue⟩, rfl⟩
    exact ⟨hlength, hvalue, Text.exists_eq_zeros_append hne hdigits⟩
  · rintro ⟨hlength, hn, zeros, rfl⟩
    have hvalue : Text.natOfDigits (List.replicate zeros '0' ++ Text.digitsOfNat n) = n := by
      rw [Text.natOfDigits_zeros_append, Text.natOfDigits_digitsOfNat]
    refine ⟨⟨?_, ?_, hlength, ?_⟩, hvalue⟩
    · simp [Text.digitsOfNat_ne_nil]
    · simp [List.all_append, Text.all_isDigit_digitsOfNat]
    · rwa [hvalue]

theorem IsOverlong.not_isByte {part : List Char} (h : IsOverlong part) : ¬ IsByte part :=
  fun hbyte => Nat.not_lt.mpr hbyte.2.2.1 h.2

/-- The first component that is no byte decides. -/
theorem oddComponent?_eq_some_iff {part : List Char} :
    v.oddComponent? = some part ↔ ∃ before after, v.components = before ++ part :: after ∧
      (∀ other ∈ before, IsByte other) ∧ ¬ IsByte part := by
  rw [oddComponent?, List.find?_eq_some_iff_append]
  constructor
  · rintro ⟨hodd, before, after, hsplit, hbefore⟩
    exact ⟨before, after, hsplit, by simpa using hbefore, by simpa using hodd⟩
  · rintro ⟨before, after, hsplit, hbefore, hodd⟩
    exact ⟨by simpa using hodd, before, after, hsplit, by simpa using hbefore⟩

/-- How a version is read, or how its reading fails. -/
inductive Reads (v : Version) : Except Failure Key → Prop
  /-- Up to three bytes are padded with zeros. -/
  | padded {key : Key} (bytes : ∀ part ∈ v.components, IsByte part)
    (few : v.components.length ≤ 3)
    (numbers : (v.components.map Text.natOfDigits).rightpad 3 0 =
      [key.major, key.minor, key.patch]) : Reads v (.ok key)
  /-- Behind nothing but bytes comes a run of too many digits. -/
  | overlong {before after : List (List Char)} {part : List Char}
    (split : v.components = before ++ part :: after) (bytes : ∀ other ∈ before, IsByte other)
    (long : IsOverlong part) : Reads v (.error .oversizedVersion)
  /-- Behind nothing but bytes comes anything else that is no byte. -/
  | odd {before after : List (List Char)} {part : List Char}
    (split : v.components = before ++ part :: after) (bytes : ∀ other ∈ before, IsByte other)
    (odd : ¬ IsByte part) (short : ¬ IsOverlong part) :
    Reads v (.error (.malformedVersion v.text))
  /-- More than three bytes. -/
  | crowded (bytes : ∀ part ∈ v.components, IsByte part) (many : 3 < v.components.length) :
    Reads v (.error (.malformedVersion v.text))

/-- A version has one reading. -/
theorem Reads.eq {outcome : Except Failure Key} (h : v.Reads outcome) :
    v.normalized.mapError (.ofVersion v) = outcome := by
  cases h with
  | padded bytes few numbers =>
    have hkey := Key.ofList?_eq_some_iff.mpr
      ⟨by simpa using v.components_ne_nil, by simpa using few, numbers⟩
    rw [normalized_of_isByte bytes, hkey]
    rfl
  | overlong split bytes long =>
    have hodd := oddComponent?_eq_some_iff.mpr ⟨_, _, split, bytes, long.not_isByte⟩
    rw [normalized_of_oddComponent? hodd, if_pos long]
    rfl
  | odd split bytes odd short =>
    have hodd := oddComponent?_eq_some_iff.mpr ⟨_, _, split, bytes, odd⟩
    rw [normalized_of_oddComponent? hodd, if_neg short]
    rfl
  | crowded bytes many =>
    have hkey : Key.ofList? (v.components.map Text.natOfDigits) = none :=
      Key.ofList?_eq_none_iff.mpr (.inr (by simpa using many))
    rw [normalized_of_isByte bytes, hkey]
    rfl

/-- Every text has an outcome. -/
theorem exists_reads (v : Version) : ∃ outcome, v.Reads outcome := by
  cases hodd : v.oddComponent? with
  | some part =>
    obtain ⟨before, after, hsplit, hbytes, hpart⟩ := oddComponent?_eq_some_iff.mp hodd
    by_cases hlong : IsOverlong part
    · exact ⟨_, .overlong hsplit hbytes hlong⟩
    · exact ⟨_, .odd hsplit hbytes hpart hlong⟩
  | none =>
    have hbytes := oddComponent?_eq_none_iff.mp hodd
    cases hkey : Key.ofList? (v.components.map Text.natOfDigits) with
    | some key =>
      obtain ⟨-, hfew, hnumbers⟩ := Key.ofList?_eq_some_iff.mp hkey
      exact ⟨_, .padded hbytes (by simpa using hfew) hnumbers⟩
    | none =>
      rcases Key.ofList?_eq_none_iff.mp hkey with hnil | hmany
      · exact absurd hnil (by simpa using v.components_ne_nil)
      · exact ⟨_, .crowded hbytes (by simpa using hmany)⟩

theorem mapError_normalized_eq_iff {outcome : Except Failure Key} :
    v.normalized.mapError (.ofVersion v) = outcome ↔ v.Reads outcome := by
  constructor
  · rintro rfl
    obtain ⟨outcome, hreads⟩ := v.exists_reads
    rwa [hreads.eq]
  · exact Reads.eq

theorem reads_of_normalized {key : Key} (h : v.normalized = .ok key) : v.Reads (.ok key) :=
  mapError_normalized_eq_iff.mp (by rw [h]; rfl)

theorem isByte_of_normalized {key : Key} (h : v.normalized = .ok key) :
    ∀ part ∈ v.components, IsByte part := by
  cases reads_of_normalized h with
  | padded bytes _ _ => exact bytes

/-- A version that has a reading is made of ASCII digits and dots. -/
theorem mem_text_of_normalized {key : Key} (h : v.normalized = .ok key) {c : Char}
    (hc : c ∈ v.text.toList) : c = '.' ∨ '0' ≤ c ∧ c ≤ '9' := by
  by_cases hdot : c = '.'
  · exact .inl hdot
  · obtain ⟨part, hpart, hmem⟩ := List.exists_mem_splitOn_iff.mpr ⟨hc, hdot⟩
    obtain ⟨-, hdigits, -, -⟩ := isByte_of_normalized h part hpart
    exact .inr (by simpa [Char.isDigit, Char.le_def] using List.all_eq_true.mp hdigits c hmem)

/-- Versions are read by their grammar, and their readings fail in exactly the ways of `Reads`. -/
theorem reading_iff_reads (v : Version) :
    (∀ outcome, v.normalized.mapError (.ofVersion v) = outcome ↔ v.Reads outcome) ∧
      (∀ parts, v.components = parts ↔ parts ≠ [] ∧ (∀ part ∈ parts, '.' ∉ part) ∧
        ['.'].intercalate parts = v.text.toList) ∧
      (∀ part n, IsByte part ∧ Text.natOfDigits part = n ↔ part.length ≤ Text.digitLimit ∧
        n ≤ componentMax ∧ ∃ zeros, part = List.replicate zeros '0' ++ Text.digitsOfNat n) ∧
      ∀ key, v.normalized = .ok key →
        [] ∉ v.components ∧ ∀ c ∈ v.text.toList, c = '.' ∨ '0' ≤ c ∧ c ≤ '9' := by
  refine ⟨fun _ => mapError_normalized_eq_iff, fun _ => components_eq_iff,
    fun _ _ => isByte_and_natOfDigits_iff, fun key hkey => ⟨fun hnil => ?_, fun c hc => ?_⟩⟩
  · exact (isByte_of_normalized hkey [] hnil).1 rfl
  · exact mem_text_of_normalized hkey hc

end Version

end SdkScout
