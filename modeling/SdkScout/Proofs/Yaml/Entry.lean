import SdkScout.Proofs.Outcome
import SdkScout.Proofs.Yaml.Line
import SdkScout.Yaml.Document

/-!
# A mapping with one entry

A line of a word, a colon and a word, or a word in quotes, is a mapping with one entry
(`Yaml.read_entry`).
-/

namespace SdkScout.Yaml

/-- The characters that mean nothing else wherever they stand. -/
def isWordChar (c : Char) : Bool := c.isAlphanum || c = '_'

structure IsWord (cs : List Char) : Prop where
  nonempty : cs ≠ []
  chars : ∀ c ∈ cs, isWordChar c = true

/-- There are so few of them that they can be tried out. -/
theorem of_isWordChar {p : Char → Prop} (h : ∀ n < 128, isWordChar (.ofNat n) = true → p (.ofNat n))
    {c : Char} (hc : isWordChar c = true) : p c := by
  have hranges : isWordChar c = (decide ('A'.val ≤ c.val ∧ c.val ≤ 'Z'.val) ||
    ('a'.val ≤ c.val && c.val ≤ 'z'.val) || ('0'.val ≤ c.val && c.val ≤ '9'.val) || c = '_') := rfl
  have hlt : c.toNat < 128 := by
    simp only [hranges, UInt32.le_iff_toNat_le, Bool.or_eq_true, Bool.and_eq_true,
      decide_eq_true_eq] at hc
    rcases hc with (((⟨-, hc⟩ | ⟨-, hc⟩) | ⟨-, hc⟩) | rfl)
    · exact Nat.lt_of_le_of_lt hc (by decide)
    · exact Nat.lt_of_le_of_lt hc (by decide)
    · exact Nat.lt_of_le_of_lt hc (by decide)
    · decide
  rw [← Char.ofNat_toNat c] at hc ⊢
  exact h _ hlt hc

section
variable {c : Char} (h : isWordChar c = true)
include h

theorem isBlank_of_isWordChar : isBlank c = false :=
  of_isWordChar (p := fun c => isBlank c = false) (by decide +kernel) h

theorem isBreak_of_isWordChar : isBreak c = false :=
  of_isWordChar (p := fun c => isBreak c = false) (by decide +kernel) h

theorem isAllowed_of_isWordChar : isAllowed c = true :=
  of_isWordChar (p := fun c => isAllowed c = true) (by decide +kernel) h

theorem startsPlain_of_isWordChar (inFlow : Bool) (rest : List Char) :
    Lexer.startsPlain inFlow (c :: rest) = true := by
  have hc : (!isBlank c && !isBreak c && !Lexer.indicators.contains c) = true :=
    of_isWordChar (p := fun c => (!isBlank c && !isBreak c && !Lexer.indicators.contains c) = true)
      (by decide +kernel) h
  rw [Lexer.startsPlain, hc, Bool.true_or]

theorem ne_of_isWordChar {x : Char} (hx : isWordChar x = false) : c ≠ x := by
  rintro rfl
  exact Bool.false_ne_true (hx.symm.trans h)

end

/-- A character that a token may start with: no gap and no comment. -/
def isSolid (c : Char) : Bool := !isSpace c && !isBreak c && c ≠ '#' && c ≠ '\uFEFF'

theorem isSolid_of_isWordChar {c : Char} (h : isWordChar c = true) : isSolid c = true :=
  of_isWordChar (p := fun c => isSolid c = true) (by decide +kernel) h

namespace Cursor

variable {run rest : List Char} {index line column : Nat}

/-- A run of characters in a line. -/
theorem skip_append (h : ∀ x ∈ run, isBreak x = false ∧ x ≠ '\uFEFF') :
    skip run.length ⟨run ++ rest, index, line, column⟩ =
      ⟨rest, index + run.length, line, column + run.length⟩ := by
  induction run generalizing index column with
  | nil => rfl
  | cons x run ih =>
    obtain ⟨⟨hbreak, hmark⟩, hrun⟩ := List.forall_mem_cons.mp h
    have hnext : next ⟨x :: run ++ rest, index, line, column⟩ =
        ⟨run ++ rest, index + 1, line, column + 1⟩ := by simp [next, hbreak, hmark]
    rw [List.length_cons, skip, hnext, ih hrun]
    simp only [Nat.add_assoc, Nat.add_comm 1]

/-- The cursor goes over a word without a change of line. -/
theorem skip_word (h : ∀ x ∈ run, isWordChar x = true) :
    skip run.length ⟨run ++ rest, index, line, column⟩ =
      ⟨rest, index + run.length, line, column + run.length⟩ :=
  skip_append fun x hx => ⟨isBreak_of_isWordChar (h x hx), ne_of_isWordChar (h x hx) (by decide)⟩

theorem takeWhile_of_head {p : Char → Bool} {c : Cursor} (h : ∀ x ∈ c.rest.head?, p x = false) :
    c.takeWhile p = ([], c) := by
  obtain ⟨rest, _, _, _⟩ := c
  cases rest with
  | nil => rfl
  | cons x rest => simp [Cursor.takeWhile, h x rfl, skip]

theorem takeBreak_of_head {c : Cursor} (h : ∀ x ∈ c.rest.head?, isBreak x = false) :
    c.takeBreak = ([], c) := by
  obtain ⟨rest, _, _, _⟩ := c
  cases rest with
  | nil => rfl
  | cons x rest => simp [takeBreak, h x rfl]

end Cursor

namespace Plain

variable {run rest : List Char} {index line column : Nat} {indent : Int}

theorem word_append (h : ∀ x ∈ run, isWordChar x = true) (hstop : word false rest = []) :
    word false (run ++ rest) = run := by
  induction run with
  | nil => exact hstop
  | cons x run ih =>
    obtain ⟨hx, hrun⟩ := List.forall_mem_cons.mp h
    have hcolon : x ≠ ':' := ne_of_isWordChar hx (by decide)
    simp [word, isBlank_of_isWordChar hx, isBreak_of_isWordChar hx, hcolon, ih hrun]

theorem gap_of_head {c : Cursor} (h : ∀ x ∈ c.rest.head?, isSpace x = false ∧ isBreak x = false) :
    gap c = ⟨[], c, false⟩ := by
  rw [gap, Cursor.takeWhile_of_head fun x hx => (h x hx).1]
  simp only [Cursor.takeBreak_of_head fun x hx => (h x hx).2]

/-- The last line end, after which nothing comes. -/
theorem gap_of_lineEnd :
    gap ⟨['\n'], index, line, column⟩ = ⟨[' '], ⟨[], index + 1, line + 1, 0⟩, true⟩ := rfl

/-- A plain scalar of one word, if the gap behind it ends the scalar. -/
theorem scan_word (h : IsWord run) (hstop : word false rest = [])
    {g : Gap} (hgap : gap ⟨rest, index + run.length, line, column + run.length⟩ = g)
    (hends : g.text = [] ∨ (g.cursor.column : Int) < indent) :
    scan false indent ⟨run ++ rest, index, line, column⟩ = ⟨run, g.cursor, g.newLine⟩ := by
  obtain ⟨x, run', rfl⟩ := List.exists_cons_of_ne_nil h.nonempty
  have hx : x ≠ '#' := ne_of_isWordChar (h.chars x List.mem_cons_self) (by decide)
  have hhead : ¬ (x :: run' ++ rest).head? = some '#' := by simpa using hx
  rw [scan, words]
  simp only [if_neg hhead, word_append h.chars hstop, Cursor.skip_word h.chars, hgap]
  rw [if_neg (by simp), if_pos (by tauto)]
  rfl

end Plain

namespace Quoted

variable {run rest : List Char} {index line column : Nat}

theorem body_mark (double : Bool) (hrest : rest.head? ≠ some '\'') (fuel : Nat) :
    body double (fuel + 1) ⟨mark double :: rest, index, line, column⟩ =
      .ok ([], ⟨rest, index + 1, line, column + 1⟩) := by
  cases double with
  | true => rfl
  | false =>
    cases rest with
    | nil => rfl
    | cons x rest =>
      have hx : x ≠ '\'' := by simpa using hrest
      simp [mark, body, hx, Cursor.next, isBreak]

theorem body_cons (double : Bool) {x : Char} (hx : isWordChar x = true) (fuel : Nat) :
    body double (fuel + 1) ⟨x :: rest, index, line, column⟩ =
      (body double fuel ⟨rest, index + 1, line, column + 1⟩).map fun (text, c) =>
        (x :: text, c) := by
  have hne : ∀ y, isWordChar y = false → x ≠ y := fun _ => ne_of_isWordChar hx
  simp [body, isBlank_of_isWordChar hx, isBreak_of_isWordChar hx, Cursor.next,
    hne '\'' (by decide), hne '"' (by decide), hne '\\' (by decide), hne '\uFEFF' (by decide)]

/-- A quoted word goes up to the next mark. -/
theorem body_word (double : Bool) (h : ∀ x ∈ run, isWordChar x = true)
    (hrest : rest.head? ≠ some '\'') {fuel : Nat} (hfuel : run.length < fuel) :
    body double fuel ⟨run ++ mark double :: rest, index, line, column⟩ =
      .ok (run, ⟨rest, index + run.length + 1, line, column + run.length + 1⟩) := by
  induction run generalizing fuel index column with
  | nil =>
    obtain ⟨fuel, rfl⟩ := Nat.exists_eq_add_one_of_ne_zero (Nat.ne_zero_of_lt hfuel)
    exact body_mark double hrest fuel
  | cons x run ih =>
    obtain ⟨hx, hrun⟩ := List.forall_mem_cons.mp h
    obtain ⟨fuel, rfl⟩ := Nat.exists_eq_add_one_of_ne_zero (Nat.ne_zero_of_lt hfuel)
    rw [List.cons_append, body_cons double hx, ih hrun (Nat.succ_lt_succ_iff.mp hfuel)]
    simp only [Except.map_ok_eq, List.length_cons, Nat.add_assoc, Nat.add_comm 1]

theorem scan_word (double : Bool) (h : ∀ x ∈ run, isWordChar x = true)
    (hrest : rest.head? ≠ some '\'') :
    scan double ⟨mark double :: (run ++ mark double :: rest), index, line, column⟩ =
      .ok (run, ⟨rest, index + run.length + 2, line, column + run.length + 2⟩) := by
  have hnext : Cursor.next ⟨mark double :: (run ++ mark double :: rest), index, line, column⟩ =
      ⟨run ++ mark double :: rest, index + 1, line, column + 1⟩ := by cases double <;> rfl
  rw [scan, hnext, body_word double h hrest (by simp; omega), Nat.add_right_comm index 1,
    Nat.add_right_comm column 1]

end Quoted

namespace Style

theorem exists_write_eq_cons {text : List Char} (h : IsWord text) (style : Style) :
    ∃ x rest, style.write text = x :: rest ∧ isSolid x = true := by
  cases style with
  | plain =>
    obtain ⟨x, rest, rfl⟩ := List.exists_cons_of_ne_nil h.nonempty
    exact ⟨x, rest, rfl, isSolid_of_isWordChar (h.chars x List.mem_cons_self)⟩
  | quoted double => exact ⟨_, _, rfl, by cases double <;> decide⟩

end Style

namespace Lexer

variable {l : Lexer} {x : Char} {rest : List Char}

theorem toNextToken_of_solid (h : l.cursor.rest = x :: rest) (hx : isSolid x = true) :
    l.toNextToken = l := by
  simp only [isSolid, Bool.and_eq_true, Bool.not_eq_true', decide_eq_true_eq] at hx
  obtain ⟨⟨⟨hspace, hbreak⟩, hcomment⟩, hmark⟩ := hx
  have hskip : l.cursor.skipWhile isSpace = l.cursor := by
    rw [Cursor.skipWhile, Cursor.takeWhile_of_head]
    simpa [h] using hspace
  have htake : l.cursor.takeBreak = ([], l.cursor) :=
    Cursor.takeBreak_of_head (by simpa [h] using hbreak)
  rw [toNextToken, if_neg (by simp [h, hmark])]
  simp [skipGaps, hskip, h, hcomment, htake]

theorem scanToken_of_word (h : l.cursor.rest = x :: rest) (hx : isWordChar x = true) :
    l.scanToken = l.plainScalar := by
  have hne : ∀ y, isWordChar y = false → x ≠ y := fun _ => ne_of_isWordChar hx
  have hplain := startsPlain_of_isWordChar hx l.inFlow rest
  simp [scanToken, h, hplain, hne '%' (by decide), hne '-' (by decide), hne '.' (by decide),
    hne '[' (by decide), hne '{' (by decide), hne ']' (by decide), hne '}' (by decide),
    hne ',' (by decide), hne '?' (by decide), hne ':' (by decide), hne '*' (by decide),
    hne '&' (by decide), hne '!' (by decide), hne '|' (by decide), hne '>' (by decide),
    hne '\'' (by decide), hne '"' (by decide)]

theorem toNextToken_of_space (h : l.cursor.rest = ' ' :: x :: rest) (hx : isSolid x = true) :
    l.toNextToken = { l with cursor := l.cursor.next } := by
  simp only [isSolid, Bool.and_eq_true, Bool.not_eq_true', decide_eq_true_eq] at hx
  obtain ⟨⟨⟨hspace, hbreak⟩, hcomment⟩, -⟩ := hx
  have hnext : l.cursor.next.rest = x :: rest := by simp [Cursor.next, h, isBreak]
  have hskip : l.cursor.skipWhile isSpace = l.cursor.next := by
    have hrun : (' ' :: x :: rest).takeWhile isSpace = [' '] := by
      rw [List.takeWhile_cons_of_pos (by decide), List.takeWhile_cons_of_neg (by simp [hspace])]
    simp [Cursor.skipWhile, Cursor.takeWhile, h, hrun, Cursor.skip]
  have htake : l.cursor.next.takeBreak = ([], l.cursor.next) :=
    Cursor.takeBreak_of_head (by simpa [hnext] using hbreak)
  rw [toNextToken, if_neg (by simp [h])]
  simp [skipGaps, hskip, hnext, hcomment, htake]

theorem tokensFrom_of_toNextToken {l' : Lexer} (hnext : l.toNextToken = l')
    (hrest : l'.cursor.rest = x :: rest) (hlapse : l'.lapseAll = .ok l')
    (hblocks : l'.closeBlocks l'.cursor.column = l') (fuel : Nat) :
    l.tokensFrom (fuel + 1) = l'.scanToken >>= tokensFrom fuel := by
  simp [tokensFrom, hnext, hlapse, hblocks, hrest]

section
variable {key value : List Char}

/-- Behind the first word of a text. It may turn out to be a key. -/
def behindKey (key rest : List Char) : Lexer where
  cursor := ⟨rest, key.length, 0, key.length⟩
  tokens := [.scalar (String.ofList key) true]
  indents := []
  keyAllowed := false
  candidate := some ⟨0, false, 0, 0, 0⟩
  outer := []

/-- Behind the colon, which makes the word a key. -/
def behindColon (key rest : List Char) : Lexer where
  cursor := ⟨rest, key.length + 1, 0, key.length + 1⟩
  tokens := [.value, .scalar (String.ofList key) true, .key, .blockMappingStart]
  indents := [0]
  keyAllowed := false
  candidate := none
  outer := []

/-- The first token is the key, so far as a scalar. -/
theorem scanToken_start (hkey : IsWord key) :
    (start (key ++ ':' :: ' ' :: rest)).scanToken = .ok (behindKey key (':' :: ' ' :: rest)) := by
  obtain ⟨x, key', hcons⟩ := List.exists_cons_of_ne_nil hkey.nonempty
  have hx : isWordChar x = true := hkey.chars x (by simp [hcons])
  have hscan : Plain.scan false 0 ⟨key ++ ':' :: ' ' :: rest, 0, 0, 0⟩ =
      ⟨key, ⟨':' :: ' ' :: rest, key.length, 0, key.length⟩, false⟩ := by
    have hgap := Plain.gap_of_head (c := ⟨':' :: ' ' :: rest, 0 + key.length, 0, 0 + key.length⟩)
      (by rintro _ ⟨⟩; decide)
    simpa using Plain.scan_word hkey rfl hgap (.inl rfl)
  have hplain : (start (key ++ ':' :: ' ' :: rest)).scanToken =
      (start (key ++ ':' :: ' ' :: rest)).plainScalar :=
    scanToken_of_word (by rw [hcons]; rfl) hx
  rw [hplain, plainScalar, saveCandidate]
  simp [start, dropCandidate, inFlow, indent, push, hscan, behindKey, Cursor.start]

theorem scanToken_behindKey :
    (behindKey key (':' :: ' ' :: rest)).scanToken = .ok (behindColon key (' ' :: rest)) := rfl

/-- At a value behind a key and one space. -/
def atValue (key rest : List Char) : Lexer :=
  { behindColon key (' ' :: rest) with cursor := ⟨rest, key.length + 2, 0, key.length + 2⟩ }

/-- Behind the value. -/
def behindValue (key value : List Char) (plain keyAllowed : Bool) (cursor : Cursor) : Lexer :=
  { behindColon key [] with
    cursor
    tokens := .scalar (String.ofList value) plain :: (behindColon key []).tokens
    keyAllowed }

/-- Behind the last value of the outermost mapping. At most a line end is left. -/
structure AtEnd (l : Lexer) (tokens : List Token) : Prop where
  rest : l.cursor.rest = [] ∨ l.cursor.rest = ['\n']
  tokens : l.tokens = tokens
  indents : l.indents = [0]
  candidate : l.candidate = none
  outer : l.outer = []

/-- At the end the open block is closed. -/
theorem tokensFrom_atEnd {tokens : List Token} (h : l.AtEnd tokens) (fuel : Nat) :
    l.tokensFrom (fuel + 1) = .ok (.streamEnd :: .blockEnd :: tokens).reverse := by
  obtain ⟨⟨rest, index, line, column⟩, _, _, keyAllowed, _, _⟩ := l
  obtain ⟨hrest, rfl, rfl, rfl, rfl⟩ := h
  rcases hrest with rfl | rfl
  · simp [tokensFrom, toNextToken, skipGaps, Cursor.skipWhile, Cursor.takeWhile, Cursor.skip,
      Cursor.takeBreak, lapseAll, lapse, closeBlocks, inFlow, separator, dropCandidate, push]
  · simp [tokensFrom, toNextToken, skipGaps, Cursor.skipWhile, Cursor.takeWhile, Cursor.skip,
      Cursor.takeBreak, lapseAll, lapse, closeBlocks, inFlow, separator, dropCandidate, push,
      Cursor.next, isSpace, isBreak]

section
variable {lineEnd : List Char} (key)

theorem scanToken_plain_atValue (hvalue : IsWord value) (hend : lineEnd = [] ∨ lineEnd = ['\n']) :
    ∃ keyAllowed cursor, (atValue key (value ++ lineEnd)).scanToken =
      .ok (behindValue key value true keyAllowed cursor) ∧ cursor.rest = [] := by
  obtain ⟨x, value', hcons⟩ := List.exists_cons_of_ne_nil hvalue.nonempty
  have hstop : Plain.word false lineEnd = [] := by rcases hend with rfl | rfl <;> rfl
  have hgap : ∀ place, ∃ g, Plain.gap ⟨lineEnd, place, 0, place⟩ = g ∧
      (g.text = [] ∨ (g.cursor.column : Int) < 1) ∧ g.cursor.rest = [] := by
    intro place
    rcases hend with rfl | rfl
    · exact ⟨_, Plain.gap_of_head (by simp), .inl rfl, rfl⟩
    · exact ⟨_, Plain.gap_of_lineEnd, .inr (by simp), rfl⟩
  obtain ⟨g, hg, hends, hrest⟩ := hgap (key.length + 2 + value.length)
  have hscan : Plain.scan false 1 ⟨value ++ lineEnd, key.length + 2, 0, key.length + 2⟩ =
      ⟨value, g.cursor, g.newLine⟩ := Plain.scan_word hvalue hstop hg hends
  have hplain : (atValue key (value ++ lineEnd)).scanToken =
      (atValue key (value ++ lineEnd)).plainScalar :=
    scanToken_of_word (by rw [hcons]; rfl) (hvalue.chars x (by simp [hcons]))
  refine ⟨g.newLine, g.cursor, ?_, hrest⟩
  rw [hplain, plainScalar, saveCandidate]
  simp [atValue, behindColon, inFlow, indent, hscan, push, behindValue]

theorem scanToken_quoted_atValue (double : Bool) (hvalue : IsWord value)
    (hend : lineEnd = [] ∨ lineEnd = ['\n']) :
    ∃ cursor, (atValue key (Style.write value (.quoted double) ++ lineEnd)).scanToken =
      .ok (behindValue key value false false cursor) ∧ cursor.rest = lineEnd := by
  have hhead : lineEnd.head? ≠ some '\'' := by rcases hend with rfl | rfl <;> decide
  have hwrite : Style.write value (.quoted double) ++ lineEnd =
      Quoted.mark double :: (value ++ Quoted.mark double :: lineEnd) := by simp [Style.write]
  have hquoted :
      (atValue key (Quoted.mark double :: (value ++ Quoted.mark double :: lineEnd))).scanToken =
      (atValue key (Quoted.mark double :: (value ++ Quoted.mark double :: lineEnd))).quotedScalar
        double := by cases double <;> rfl
  have hscan : Quoted.scan double ⟨Quoted.mark double :: (value ++ Quoted.mark double :: lineEnd),
      key.length + 2, 0, key.length + 2⟩ = .ok (value,
        ⟨lineEnd, key.length + 2 + value.length + 2, 0, key.length + 2 + value.length + 2⟩) :=
    Quoted.scan_word double hvalue.chars hhead
  refine ⟨⟨lineEnd, key.length + 2 + value.length + 2, 0, key.length + 2 + value.length + 2⟩, ?_, rfl⟩
  rw [hwrite, hquoted, quotedScalar, saveCandidate]
  simp [atValue, behindColon, hscan, push, behindValue]

theorem scanToken_atValue (style : Style) (hvalue : IsWord value)
    (hend : lineEnd = [] ∨ lineEnd = ['\n']) :
    ∃ keyAllowed cursor, (atValue key (style.write value ++ lineEnd)).scanToken =
      .ok (behindValue key value style.isPlain keyAllowed cursor) ∧
      (cursor.rest = [] ∨ cursor.rest = ['\n']) := by
  cases style with
  | plain =>
    obtain ⟨keyAllowed, cursor, hscan, hrest⟩ := scanToken_plain_atValue key hvalue hend
    exact ⟨keyAllowed, cursor, hscan, .inl hrest⟩
  | quoted double =>
    obtain ⟨cursor, hscan, hrest⟩ := scanToken_quoted_atValue key double hvalue hend
    exact ⟨false, cursor, hscan, hrest ▸ hend⟩

end

/-- A line comes to seven tokens, in four passes. -/
theorem tokensFrom_entry (style : Style) (hkey : IsWord key) (hlength : key.length ≤ candidateReach)
    (hvalue : IsWord value) {lineEnd : List Char} (hend : lineEnd = [] ∨ lineEnd = ['\n'])
    (fuel : Nat) :
    (start (key ++ ':' :: ' ' :: (style.write value ++ lineEnd))).tokensFrom (fuel + 4) =
      .ok [.blockMappingStart, .key, .scalar (String.ofList key) true, .value,
        .scalar (String.ofList value) style.isPlain, .blockEnd, .streamEnd] := by
  obtain ⟨x, key', hcons⟩ := List.exists_cons_of_ne_nil hkey.nonempty
  have hx : isSolid x = true := isSolid_of_isWordChar (hkey.chars x (by simp [hcons]))
  obtain ⟨y, value', hwrite, hy⟩ := style.exists_write_eq_cons hvalue
  obtain ⟨keyAllowed, cursor, hscan, hrest⟩ := scanToken_atValue key style hvalue hend
  generalize hline : style.write value ++ lineEnd = line at hscan
  have hcons' : line = y :: (value' ++ lineEnd) := by rw [← hline, hwrite, List.cons_append]
  have hlapse : (behindKey key (':' :: ' ' :: line)).lapseAll =
      .ok (behindKey key (':' :: ' ' :: line)) := by
    have hreach : ¬ candidateReach < key.length := Nat.not_lt.mpr hlength
    simp [lapseAll, lapse, behindKey, hasLapsed, hreach]
  have hstart : (start (key ++ ':' :: ' ' :: line)).toNextToken = start (key ++ ':' :: ' ' :: line) :=
    toNextToken_of_solid (by rw [hcons]; rfl) hx
  -- The key cannot be told from a plain scalar before its colon, which puts two tokens in front of it.
  rw [tokensFrom_of_toNextToken hstart (by rw [hcons]; rfl) rfl rfl, scanToken_start hkey,
    Except.ok_bind, tokensFrom_of_toNextToken (toNextToken_of_solid rfl (by decide)) rfl hlapse rfl,
    scanToken_behindKey, Except.ok_bind]
  have hcolon : (behindColon key (' ' :: line)).toNextToken = atValue key line := by
    rw [hcons']
    exact toNextToken_of_space rfl hy
  rw [tokensFrom_of_toNextToken hcolon (by rw [hcons']; rfl) rfl rfl, hscan, Except.ok_bind,
    tokensFrom_atEnd ⟨hrest, rfl, rfl, rfl, rfl⟩]
  rfl

end

end Lexer

theorem Style.all_isAllowed_write (style : Style) {text : List Char} (h : IsWord text) :
    (style.write text).all isAllowed = true := by
  have htext : text.all isAllowed = true :=
    List.all_eq_true.mpr fun c hc => isAllowed_of_isWordChar (h.chars c hc)
  cases style with
  | plain => exact htext
  | quoted double => cases double <;> simpa [write, Quoted.mark, isAllowed] using htext

section
variable {key value lineEnd : List Char}

/-- The fuel that a text has is enough for its line. -/
theorem Token.ofText_entry (style : Style) (hkey : IsWord key)
    (hlength : key.length ≤ Lexer.candidateReach) (hvalue : IsWord value)
    (hend : lineEnd = [] ∨ lineEnd = ['\n']) :
    Token.ofText (key ++ ':' :: ' ' :: (style.write value ++ lineEnd)) =
      .ok [.blockMappingStart, .key, .scalar (String.ofList key) true, .value,
        .scalar (String.ofList value) style.isPlain, .blockEnd, .streamEnd] := by
  have hkeyAllowed : key.all isAllowed = true := Style.plain.all_isAllowed_write hkey
  have hendAllowed : lineEnd.all isAllowed = true := by rcases hend with rfl | rfl <;> decide
  have hallowed : (key ++ ':' :: ' ' :: (style.write value ++ lineEnd)).all isAllowed = true := by
    simp only [List.all_append, List.all_cons, hkeyAllowed, style.all_isAllowed_write hvalue,
      hendAllowed]
    rfl
  -- One pass for each of the four places where the lexer stops, the end included.
  have hfuel : 4 ≤ (key ++ ':' :: ' ' :: (style.write value ++ lineEnd)).length + 1 := by
    have hkey := List.length_pos_iff.mpr hkey.nonempty
    simp only [List.length_append, List.length_cons]
    omega
  obtain ⟨fuel, hfuel⟩ := Nat.exists_eq_add_of_le' hfuel
  rw [Token.ofText, if_pos hallowed, hfuel, Lexer.tokensFrom_entry style hkey hlength hvalue hend]

theorem Node.ofTokens_entry (key value : String) (plain : Bool) :
    Node.ofTokens [.blockMappingStart, .key, .scalar key true, .value, .scalar value plain,
      .blockEnd, .streamEnd] =
    .ok (some (.mapping .mapping [(.scalar (scalarTag true key none) key,
      .scalar (scalarTag plain value none) value)])) := rfl

/-- The value of a scalar is none of a collection. -/
theorem Node.value_scalar {tag : Tag} {text : String} {v : Value}
    (h : Scalar.value tag text.toList = .ok v) : Node.value (.scalar tag text) = .ok v := by
  have htag : tag.isCollection = false := by
    cases tag <;> first | rfl | cases h
  simp [Node.value, htag, scalarValue, h]

/-- An entry with a text for a key is a mapping of it. -/
theorem Node.value_entry {keyNode valueNode : Node} {name : String} {v : Value}
    (htag : keyNode.tag = .str) (hkey : keyNode.value = .ok (.text name))
    (hvalue : valueNode.value = .ok v) :
    Node.value (.mapping .mapping [(keyNode, valueNode)]) = .ok (.mapping [(.text name, v)]) := by
  simp only [Node.value, entriesOf, htag, hkey, hvalue]
  rfl

/-- A line of a word, a colon and a scalar of one word is read as a mapping of the one to the value of
the other. -/
theorem read_entry (style : Style) (hkey : IsWord key) (hlength : key.length ≤ Lexer.candidateReach)
    (hstr : Schema.implicitTag key = .str) (hvalue : IsWord value)
    (hend : lineEnd = [] ∨ lineEnd = ['\n']) {v : Value}
    (h : Scalar.value (Node.scalarTag style.isPlain (String.ofList value) none) value = .ok v) :
    read (key ++ ':' :: ' ' :: (style.write value ++ lineEnd)) =
      .ok (.mapping [(.text (String.ofList key), v)]) := by
  have htag : Node.scalarTag true (String.ofList key) none = .str := by simp [Node.scalarTag, hstr]
  have hkeyValue : Node.value (.scalar .str (String.ofList key)) = .ok (.text (String.ofList key)) :=
    Node.value_scalar (by simp [Scalar.value])
  have hvalueValue : Node.value (.scalar (Node.scalarTag style.isPlain (String.ofList value) none)
      (String.ofList value)) = .ok v := Node.value_scalar (by rwa [String.toList_ofList])
  rw [read, Token.ofText_entry style hkey hlength hvalue hend, Except.ok_bind,
    Node.ofTokens_entry, Except.ok_bind, htag]
  change (Node.value _).mapError _ = _
  rw [Node.value_entry rfl hkeyValue hvalueValue]
  rfl

end

end SdkScout.Yaml
