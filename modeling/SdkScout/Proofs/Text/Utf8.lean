import Mathlib.Tactic.SplitIfs
import SdkScout.Text.Utf8

/-!
# UTF-8 read back

The bytes of a character are read as that character, whatever follows them (`Utf8.next_append`), so
what is encoded is decoded again.
-/

namespace SdkScout.Text.Utf8

section
variable {b : UInt8}

theorem lead?_one (h : b.toNat < 0x80) : lead? b = some { payload := b.toNat, tail := 0 } := by
  rw [lead?, if_pos h]

theorem lead?_two (hlow : 0xc2 ≤ b.toNat) (hhigh : b.toNat < 0xe0) :
    lead? b = some { payload := b.toNat - 0xc0, tail := 1 } := by
  rw [lead?, if_neg (by omega), if_neg (by omega), if_pos hhigh]

theorem lead?_three (hlow : 0xe0 ≤ b.toNat) (hhigh : b.toNat < 0xf0) :
    lead? b = some {
      payload := b.toNat - 0xe0
      tail := 2
      low := if b.toNat = 0xe0 then 0xa0 else 0x80
      high := if b.toNat = 0xed then 0x9f else 0xbf } := by
  rw [lead?, if_neg (by omega), if_neg (by omega), if_neg (by omega)]
  split_ifs <;> simp_all

theorem lead?_four (hlow : 0xf0 ≤ b.toNat) (hhigh : b.toNat ≤ 0xf4) :
    lead? b = some {
      payload := b.toNat - 0xf0
      tail := 3
      low := if b.toNat = 0xf0 then 0x90 else 0x80
      high := if b.toNat = 0xf4 then 0x8f else 0xbf } := by
  rw [lead?, if_neg (by omega), if_neg (by omega), if_neg (by omega), if_neg (by omega),
    if_neg (by omega), if_neg (by omega)]
  split_ifs <;> first | omega | simp_all

/-- A byte in its range adds six bits. -/
theorem readTail_cons {code owed low high : Nat} {bytes : List UInt8} (hlow : low ≤ b.toNat)
    (hhigh : b.toNat ≤ high) : readTail code (owed + 1) low high (b :: bytes) =
      readTail (64 * code + (b.toNat - 0x80)) owed 0x80 0xbf bytes := by
  rw [readTail, if_pos ⟨hlow, hhigh⟩]

end

theorem toNat_ofNat_of_lt {n : Nat} (h : n < 256) : (UInt8.ofNat n).toNat = n := by
  rw [UInt8.toNat_ofNat', Nat.mod_eq_of_lt h]

/-- The bytes of a character, and what they are read as. -/
theorem next_append (c : Char) : ∃ b rest, String.utf8EncodeChar c = b :: rest ∧
    ∀ bytes, next b (rest ++ bytes) = (some c, bytes) := by
  have hvalid : c.val.toNat < 0xd800 ∨ 0xdfff < c.val.toNat ∧ c.val.toNat < 0x110000 := c.valid
  have hread : ∀ {n}, n = c.val.toNat → (some n).map Char.ofNat = some c := by
    rintro _ rfl
    exact congrArg some (Char.ofNat_toNat c)
  simp only [String.utf8EncodeChar]
  generalize c.val.toNat = n at hvalid hread ⊢
  have hlast := toNat_ofNat_of_lt (n := n % 64 + 128) (by omega)
  have hthird := toNat_ofNat_of_lt (n := n / 64 % 64 + 128) (by omega)
  split_ifs with hone htwo hthree
  · have hb := toNat_ofNat_of_lt (n := n) (by omega)
    refine ⟨_, _, rfl, fun bytes => ?_⟩
    rw [next, lead?_one (by omega), List.nil_append]
    simp only [readTail]
    rw [hread hb]
  · have hb := toNat_ofNat_of_lt (n := n / 64 % 32 + 192) (by omega)
    refine ⟨_, _, rfl, fun bytes => ?_⟩
    rw [next, lead?_two (by omega) (by omega)]
    simp only [List.cons_append, List.nil_append]
    rw [readTail_cons (by omega) (by omega), readTail]
    simp only
    rw [hread (by omega)]
  · have hb := toNat_ofNat_of_lt (n := n / 4096 % 16 + 224) (by omega)
    refine ⟨_, _, rfl, fun bytes => ?_⟩
    rw [next, lead?_three (by omega) (by omega)]
    simp only [List.cons_append, List.nil_append]
    rw [readTail_cons (by split_ifs <;> omega) (by split_ifs <;> omega),
      readTail_cons (by omega) (by omega), readTail]
    simp only
    rw [hread (by omega)]
  · have hb := toNat_ofNat_of_lt (n := n / 262144 % 8 + 240) (by omega)
    have hsecond := toNat_ofNat_of_lt (n := n / 4096 % 64 + 128) (by omega)
    refine ⟨_, _, rfl, fun bytes => ?_⟩
    rw [next, lead?_four (by omega) (by omega)]
    simp only [List.cons_append, List.nil_append]
    rw [readTail_cons (by split_ifs <;> omega) (by split_ifs <;> omega),
      readTail_cons (by omega) (by omega), readTail_cons (by omega) (by omega), readTail]
    simp only
    rw [hread (by omega)]

/-- Each character is decoded from its own bytes. -/
theorem decodeParts_encode (cs : List Char) : decodeParts (encode cs) = cs.map some := by
  induction cs with
  | nil => rw [encode, List.flatMap_nil, decodeParts, List.map_nil]
  | cons c cs ih =>
    obtain ⟨b, rest, hencode, hnext⟩ := next_append c
    have hcons : encode (c :: cs) = b :: (rest ++ encode cs) := by
      rw [encode, List.flatMap_cons, hencode, List.cons_append, ← encode]
    rw [hcons, decodeParts, hnext, ih, List.map_cons]

/-- What is encoded decodes to itself. -/
theorem decode?_encode (cs : List Char) : decode? (encode cs) = some cs := by
  rw [decode?, decodeParts_encode, List.mapM_map]
  exact (List.mapM_pure (f := id)).trans (congrArg some cs.map_id)

/-- Decoding with replacements replaces nothing in what is encoded. -/
theorem decodeLossy_encode (cs : List Char) : decodeLossy (encode cs) = cs := by
  rw [decodeLossy, decodeParts_encode, List.map_map]
  exact cs.map_id

end SdkScout.Text.Utf8
