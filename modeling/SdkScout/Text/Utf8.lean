/-! UTF-8. A character is a first byte and up to three further bytes; the first byte fixes how many
follow and the range of the second, and all later ones lie in `0x80`-`0xbf`. An ill-formed part is
the longest prefix of a character that no character continues, or one byte that starts none. -/

namespace SdkScout.Text.Utf8

/-- What the first byte of a character announces: its own payload bits, the number of bytes that
follow, and the range of the second byte. -/
structure Lead where
  payload : Nat
  tail : Nat
  low : Nat := 0x80
  high : Nat := 0xbf

def lead? (b : UInt8) : Option Lead :=
  let n := b.toNat
  if n < 0x80 then some { payload := n, tail := 0 }
  else if n < 0xc2 then none
  else if n < 0xe0 then some { payload := n - 0xc0, tail := 1 }
  else if n = 0xe0 then some { payload := 0, tail := 2, low := 0xa0 }
  else if n = 0xed then some { payload := 0xd, tail := 2, high := 0x9f }
  else if n < 0xf0 then some { payload := n - 0xe0, tail := 2 }
  else if n = 0xf0 then some { payload := 0, tail := 3, low := 0x90 }
  else if n < 0xf4 then some { payload := n - 0xf0, tail := 3 }
  else if n = 0xf4 then some { payload := 4, tail := 3, high := 0x8f }
  else none

/-- Reads the bytes that a character still owes: its code point, or nothing when a byte is missing
or out of range; and the bytes that were not consumed. -/
def readTail (code : Nat) : (owed low high : Nat) → List UInt8 → Option Nat × List UInt8
  | 0, _, _, bytes => (some code, bytes)
  | _ + 1, _, _, [] => (none, [])
  | owed + 1, low, high, b :: bytes =>
    if low ≤ b.toNat ∧ b.toNat ≤ high then
      readTail (64 * code + (b.toNat - 0x80)) owed 0x80 0xbf bytes
    else (none, b :: bytes)

theorem length_readTail (code owed low high : Nat) (bytes : List UInt8) :
    (readTail code owed low high bytes).2.length ≤ bytes.length := by
  induction owed generalizing code low high bytes with
  | zero => simp [readTail]
  | succ owed ih =>
    cases bytes with
    | nil => simp [readTail]
    | cons b bytes =>
      simp only [readTail]
      split
      · exact Nat.le_succ_of_le (ih ..)
      · simp

/-- The first character, or nothing for an ill-formed part; and the bytes after it. -/
def next (b : UInt8) (bytes : List UInt8) : Option Char × List UInt8 :=
  match lead? b with
  | none => (none, bytes)
  | some lead =>
    let (code, rest) := readTail lead.payload lead.tail lead.low lead.high bytes
    (code.map Char.ofNat, rest)

theorem length_next (b : UInt8) (bytes : List UInt8) :
    (next b bytes).2.length ≤ bytes.length := by
  unfold next
  split
  · simp
  · exact length_readTail ..

/-- The characters of a byte sequence, with nothing in the place of each ill-formed part. -/
def decodeParts : List UInt8 → List (Option Char)
  | [] => []
  | b :: bytes =>
    (next b bytes).1 :: decodeParts (next b bytes).2
  termination_by bytes => bytes.length
  decreasing_by exact Nat.lt_succ_of_le (length_next b bytes)

/-- Decodes a well-formed byte sequence. -/
def decode? (bytes : List UInt8) : Option (List Char) :=
  (decodeParts bytes).mapM id

/-- Decodes any byte sequence, with U+FFFD in the place of each ill-formed part. -/
def decodeLossy (bytes : List UInt8) : List Char :=
  (decodeParts bytes).map (·.getD '\uFFFD')

def encode (cs : List Char) : List UInt8 :=
  cs.flatMap String.utf8EncodeChar

end SdkScout.Text.Utf8
