import Mathlib.Data.List.TakeWhile
import SdkScout.Text.Blank

/-!
# White space around a text

A text is trimmed if it neither starts nor ends with white space. Stripping a text takes away as much
white space as there is at either end, and nothing else: what is left is the one trimmed text that has
only white space around it there (`Text.strip_eq_iff`).
-/

namespace SdkScout.Text

/-- White space at the start or at the end would be stripped. -/
structure IsTrimmed (cs : List Char) : Prop where
  first : ∀ c ∈ cs.head?, isBlank c = false
  last : ∀ c ∈ cs.getLast?, isBlank c = false

/-- A text with nothing but white space before and after it. -/
def Surrounded (inner cs : List Char) : Prop :=
  ∃ front back : List Char, (∀ c ∈ front, isBlank c = true) ∧ (∀ c ∈ back, isBlank c = true) ∧
    cs = front ++ inner ++ back

variable {cs inner front back : List Char}

theorem isTrimmed_of_forall (h : ∀ c ∈ cs, isBlank c = false) : IsTrimmed cs :=
  ⟨fun c hc => h c (List.mem_of_head? hc), fun c hc => h c (List.mem_of_getLast? hc)⟩

theorem dropWhile_isBlank_eq_self (h : ∀ c ∈ cs.head?, isBlank c = false) :
    cs.dropWhile isBlank = cs := by
  cases cs with
  | nil => rfl
  | cons c cs => rw [List.dropWhile_cons_of_neg (by simp [h c rfl])]

theorem head?_dropWhile_isBlank (cs : List Char) :
    ∀ c ∈ (cs.dropWhile isBlank).head?, isBlank c = false := by
  intro c hc
  have hnot := List.head?_dropWhile_not isBlank cs
  rw [Option.mem_def.mp hc] at hnot
  exact hnot

/-- Blanks on both sides are what is stripped. -/
theorem strip_append (hfront : ∀ c ∈ front, isBlank c = true)
    (hback : ∀ c ∈ back, isBlank c = true) (h : IsTrimmed inner) :
    strip (front ++ inner ++ back) = inner := by
  rw [strip, List.append_assoc, List.dropWhile_append_of_pos hfront]
  cases inner with
  | nil =>
    rw [List.nil_append, List.dropWhile_eq_nil_iff.mpr hback]
    rfl
  | cons c rest =>
    have hlast : ∀ d ∈ (c :: rest).reverse.head?, isBlank d = false := by
      intro d hd
      rw [List.head?_reverse] at hd
      exact h.last d hd
    have hfirst : (c :: rest ++ back).dropWhile isBlank = c :: rest ++ back :=
      dropWhile_isBlank_eq_self h.first
    rw [hfirst, List.reverse_append, List.dropWhile_append_of_pos (by simpa using hback),
      dropWhile_isBlank_eq_self hlast, List.reverse_reverse]

theorem strip_eq_self (h : IsTrimmed cs) : strip cs = cs := by
  have hstrip : strip ([] ++ cs ++ []) = cs := strip_append (by simp) (by simp) h
  rwa [List.nil_append, List.append_nil] at hstrip

/-- Nothing is left to be stripped. -/
theorem isTrimmed_strip (cs : List Char) : IsTrimmed (strip cs) := by
  refine ⟨fun c hc => ?_, fun c hc => ?_⟩
  · -- The text without white space at its start begins with what is left of it at the end.
    have hprefix : strip cs <+: cs.dropWhile isBlank := by
      rw [strip, ← List.reverse_suffix, List.reverse_reverse]
      exact List.dropWhile_suffix isBlank
    obtain ⟨rest, hrest⟩ := hprefix
    refine head?_dropWhile_isBlank cs c ?_
    rw [← hrest, List.head?_append, Option.mem_def.mp hc]
    rfl
  · rw [strip, List.getLast?_reverse] at hc
    exact head?_dropWhile_isBlank _ c hc

theorem surrounded_strip (cs : List Char) : Surrounded (strip cs) cs := by
  refine ⟨cs.takeWhile isBlank, ((cs.dropWhile isBlank).reverse.takeWhile isBlank).reverse, ?_, ?_,
    ?_⟩
  · intro c hc
    exact List.mem_takeWhile_imp hc
  · intro c hc
    exact List.mem_takeWhile_imp (List.mem_reverse.mp hc)
  · rw [strip, List.append_assoc, ← List.reverse_append, List.takeWhile_append_dropWhile,
      List.reverse_reverse, List.takeWhile_append_dropWhile]

/-- The stripped text is the only one that has no blanks at its ends and is surrounded by them in the
whole. -/
theorem strip_eq_iff : strip cs = inner ↔ IsTrimmed inner ∧ Surrounded inner cs := by
  constructor
  · rintro rfl
    exact ⟨isTrimmed_strip cs, surrounded_strip cs⟩
  · rintro ⟨htrimmed, front, back, hfront, hback, rfl⟩
    exact strip_append hfront hback htrimmed

end SdkScout.Text
