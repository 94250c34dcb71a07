import SdkScout.Proofs.Profile.Chain
import SdkScout.Proofs.Search.Bounds
import SdkScout.Proofs.Text.Utf8
import SdkScout.Proofs.Version.Comparison
import SdkScout.Proofs.Yaml.Digits

/-!
# A bound in digits

A profile of a single line may set a bound by digits, in quotes or without. In quotes the digits are the
bound. Without them they are taken for a number first, and for one to base eight if a zero stands in
front and no digit forbids it (`Profile.plainBound`). Such a number is less than the one in quotes once
it comes to eight, and as long as it can be a bound, the search goes by it without a word
(`Profile.load_digits_unless_octal`). Of the reader of documents no more is assumed than what it makes of
such a line (`Yaml.ReadsDigits`).
-/

namespace SdkScout.Profile

variable {w : World} {path source key : String} {set : Version → Search.Setting} {b : Version}
  {digits text lineEnd : List Char} {readYaml : List Char → Except Yaml.Fault Value}

/-! ## Line ends -/

/-- What a line may end with, at the end of a file. -/
def lineEnds : List (List Char) := [[], ['\n'], ['\r'], ['\r', '\n']]

/-- Text without carriage returns stays as it is. -/
theorem normalizeLines_append (h : '\r' ∉ text) (rest : List Char) :
    normalizeLines (text ++ rest) = text ++ normalizeLines rest := by
  induction text with
  | nil => rfl
  | cons c text ih =>
    rw [List.mem_cons, not_or] at h
    have hcons : normalizeLines (c :: (text ++ rest)) = c :: normalizeLines (text ++ rest) := by
      rw [normalizeLines]
      · rintro _ rfl
        exact absurd rfl h.1
      · rintro rfl
        exact absurd rfl h.1
    rw [List.cons_append, hcons, ih h.2, List.cons_append]

theorem normalizeLines_lineEnd (h : lineEnd ∈ lineEnds) :
    normalizeLines lineEnd = [] ∨ normalizeLines lineEnd = ['\n'] := by
  simp only [lineEnds, List.mem_cons, List.not_mem_nil, or_false] at h
  rcases h with rfl | rfl | rfl | rfl
  · exact .inl rfl
  all_goals exact .inr rfl

/-! ## One entry -/

/-- The profile with a bound and nothing else. -/
def bounded (set : Version → Search.Setting) (b : Version) (source : String) : Profile where
  search := ({} : Search).apply (set b)
  kind := .unparsed
  source := source

theorem mem_versionKeys_iff : (key, set) ∈ versionKeys ↔
    key = "minimum_version" ∧ set = .minimum ∨ key = "maximum_version" ∧ set = .maximum := by
  simp [versionKeys]

/-- A profile of one entry that asks for a bound sets that bound and nothing else. -/
theorem ofEntries_bound {v : Value} (hkey : (key, set) ∈ versionKeys)
    (h : Asks w (.bound set) v [set b]) :
    ofEntries w source [(.text key, v)] = .ok (bounded set b source) := by
  have hmethod : (key, .bound set) ∈ methods ∧ key ≠ "sdk" := by
    rcases mem_versionKeys_iff.mp hkey with ⟨rfl, rfl⟩ | ⟨rfl, rfl⟩ <;> simp [methods]
  have hlookup : [(key, v)].lookup "sdk" = none := by
    rw [List.lookup_cons, beq_false_of_ne hmethod.2.symm]
    rfl
  have hdescribes : Describes w source [(key, v)] (bounded set b source) := by
    refine ⟨rfl, ?_, fun order horder => ⟨[[set b]], ?_, rfl, fun _ => rfl⟩⟩
    · rw [hlookup]
      rfl
    · obtain rfl := List.perm_singleton.mp horder
      exact .cons ⟨_, hmethod.1, h⟩ .nil
  exact hdescribes.ofEntries_eq (by simp)

/-! ## Digits -/

/-- What is assumed of the reader of documents, about profiles of one line that set a bound. -/
def ReadsBounds (readYaml : List Char → Except Yaml.Fault Value) : Prop :=
  Yaml.ReadsDigits (versionKeys.map (·.1)) readYaml

/-- The reader of the program is as it is assumed to be. -/
theorem readsBounds_read : ReadsBounds Yaml.read := by
  refine Yaml.readsDigits_read fun key hkey => ?_
  simp only [versionKeys, List.map_cons, List.map_nil, List.mem_cons, List.not_mem_nil, or_false]
    at hkey
  rcases hkey with rfl | rfl
  · exact ⟨⟨by decide, List.all_eq_true.mp (by decide)⟩, by decide, by decide +kernel⟩
  · exact ⟨⟨by decide, List.all_eq_true.mp (by decide)⟩, by decide, by decide +kernel⟩

/-- The bound that digits without quotes stand for. -/
def plainBound (digits : List Char) : Version :=
  ⟨if Yaml.IsOctal digits then toString (Yaml.octalValue digits) else String.ofList digits⟩

/-- The bound that digits stand for in some style. -/
def boundOf (digits : List Char) : Yaml.Style → Version
  | .plain => plainBound digits
  | .quoted _ => ⟨String.ofList digits⟩

/-- A file of one line: a key, and digits in some style. -/
def digitsLine (key : String) (style : Yaml.Style) (digits lineEnd : List Char) : List UInt8 :=
  Text.Utf8.encode (Yaml.line key style digits lineEnd)

section
variable (hne : digits ≠ []) (h : ∀ c ∈ digits, c.isDigit = true)

theorem toString_eq_ofList (n : Nat) : toString (n : Int) = String.ofList (Text.digitsOfNat n) :=
  Nat.toString_eq_ofList_toDigits

include hne h in
/-- A number is written out with no more digits than there are. -/
theorem asks_ofDigits (w : World) (set : Version → Search.Setting)
    (hlength : digits.length ≤ Text.digitLimit) :
    Asks w (.bound set) (Yaml.ofDigits digits) [set (plainBound digits)] := by
  have hall : digits.all Char.isDigit = true := List.all_eq_true.mpr h
  have hshort {n : Nat} (hn : n ≤ Text.natOfDigits digits) :
      (Text.digitsOfNat (n : Int).natAbs).length ≤ Text.digitLimit :=
    (Text.length_digitsOfNat_le hne hall hn).trans hlength
  rw [Yaml.ofDigits, plainBound]
  by_cases hoctal : Yaml.IsOctal digits
  · rw [if_pos hoctal, if_pos hoctal]
    exact .wholeBound set (hshort (Yaml.octalValue_le h hoctal))
  · rw [if_neg hoctal, if_neg hoctal]
    by_cases hpadded : Yaml.IsPadded digits
    · rw [if_pos hpadded]
      exact .bound set _
    · have hzero : digits.head? = some '0' → digits.length = 1 := fun hhead =>
        not_not.mp fun hlong => hpadded ⟨hhead, hlong⟩
      have hnumeral : String.ofList digits = toString (Text.natOfDigits digits : Int) := by
        rw [toString_eq_ofList, Text.digitsOfNat_natOfDigits hne hall hzero]
      rw [if_neg hpadded, hnumeral]
      exact .wholeBound set (hshort le_rfl)

include hne h in
/-- In any style the line is read as the key with a value that asks for the bound. -/
theorem exists_value_of_digits (hreader : ReadsBounds readYaml) (hkey : (key, set) ∈ versionKeys)
    (hlength : digits.length ≤ Text.digitLimit) (hend : lineEnd = [] ∨ lineEnd = ['\n'])
    (style : Yaml.Style) (w : World) : ∃ v,
      readYaml (Yaml.line key style digits lineEnd) = .ok (.mapping [(.text key, v)]) ∧
      Asks w (.bound set) v [set (boundOf digits style)] := by
  have hline : Yaml.IsDigitLine (versionKeys.map (·.1)) key digits lineEnd :=
    ⟨List.mem_map_of_mem hkey, hne, h, hend⟩
  cases style with
  | plain => exact ⟨_, hreader.plain hline hlength, asks_ofDigits hne h w set hlength⟩
  | quoted double => exact ⟨_, hreader.quoted hline double, .bound set _⟩

include h in
theorem return_notMem_write (style : Yaml.Style) : '\r' ∉ style.write digits := by
  have hdigits : '\r' ∉ digits := fun hmem => absurd (h _ hmem) (by decide)
  cases style with
  | plain => exact hdigits
  | quoted double => cases double <;> simp [Yaml.Style.write, Yaml.Quoted.mark, hdigits]

include h in
/-- Only the end of the line changes. -/
theorem normalizeLines_line (hkey : (key, set) ∈ versionKeys) (style : Yaml.Style) :
    normalizeLines (Yaml.line key style digits lineEnd) =
      Yaml.line key style digits (normalizeLines lineEnd) := by
  have hreturn : '\r' ∉ key.toList := by
    rcases mem_versionKeys_iff.mp hkey with ⟨rfl, -⟩ | ⟨rfl, -⟩ <;> decide
  have hline : '\r' ∉ key.toList ++ ':' :: ' ' :: style.write digits := by
    simp [hreturn, return_notMem_write h style]
  simpa [Yaml.line] using normalizeLines_append hline lineEnd

include hne h in
/-- Loading succeeds in every style, with the bound that the style gives. -/
theorem load_digitsLine (hreader : ReadsBounds readYaml) (hkey : (key, set) ∈ versionKeys)
    (hlength : digits.length ≤ Text.digitLimit) (hend : lineEnd ∈ lineEnds) (style : Yaml.Style)
    (hread : w.read path = .ok (digitsLine key style digits lineEnd)) :
    load readYaml w path = .ok (bounded set (boundOf digits style) path) := by
  obtain ⟨v, hvalue, hasks⟩ :=
    exists_value_of_digits hne h hreader hkey hlength (normalizeLines_lineEnd hend) style w
  rw [load, hread, Except.ok_bind, digitsLine, Text.Utf8.decode?_encode]
  simp only [normalizeLines_line h hkey, hvalue]
  exact ofEntries_bound hkey hasks

/-! ## The numbers of the bounds -/

/-- The number that digits without quotes stand for. -/
def plainNumber (digits : List Char) : Nat :=
  if Yaml.IsOctal digits then Yaml.octalValue digits else Text.natOfDigits digits

include hne h in
/-- The bound is well formed as long as its number is that of a component. -/
theorem normalized_plainBound (hlength : digits.length ≤ Text.digitLimit) :
    (plainBound digits).normalized = if plainNumber digits ≤ Version.componentMax
      then .ok ⟨plainNumber digits, 0, 0⟩ else .error .malformed := by
  rw [plainBound, plainNumber]
  split
  · rename_i hoctal
    have hall : digits.all Char.isDigit = true := List.all_eq_true.mpr h
    have hshort : (Text.digitsOfNat (Yaml.octalValue digits)).length ≤ Text.digitLimit :=
      (Text.length_digitsOfNat_le hne hall (Yaml.octalValue_le h hoctal)).trans hlength
    have hreading := Version.normalized_of_digits (Text.digitsOfNat_ne_nil _)
      (List.all_eq_true.mp (Text.all_isDigit_digitsOfNat _)) hshort
    rwa [Text.natOfDigits_digitsOfNat, ← toString_eq_ofList] at hreading
  · exact Version.normalized_of_digits hne h hlength

theorem sortKey_of_number {n : Nat} (hb : b.normalized =
    if n ≤ Version.componentMax then .ok ⟨n, 0, 0⟩ else .error .malformed) :
    b.sortKey = .ok ⟨if n ≤ Version.componentMax then n else 0, 0, 0⟩ := by
  rw [Version.sortKey, hb]
  by_cases hn : n ≤ Version.componentMax
  · rw [if_pos hn, if_pos hn]
  · rw [if_neg hn, if_neg hn]
    rfl

include hne h in
/-- The bounds tie unless the number to base eight is a wrong one, and can be a bound. -/
theorem order_plainBound_eq_iff (hlength : digits.length ≤ Text.digitLimit) :
    (plainBound digits).order ⟨String.ofList digits⟩ = .ok .eq ↔ ¬ (Yaml.IsOctal digits ∧
      8 ≤ Yaml.octalValue digits ∧ Yaml.octalValue digits ≤ Version.componentMax) := by
  have hkeys : (plainBound digits).order ⟨String.ofList digits⟩ = .ok (Version.Key.order
      ⟨if plainNumber digits ≤ Version.componentMax then plainNumber digits else 0, 0, 0⟩
      ⟨if Text.natOfDigits digits ≤ Version.componentMax then Text.natOfDigits digits else 0,
        0, 0⟩) := by
    rw [Version.order, sortKey_of_number (normalized_plainBound hne h hlength),
      sortKey_of_number (Version.normalized_of_digits hne h hlength)]
    rfl
  rw [hkeys, Except.ok.injEq, Version.Key.order_eq_eq_iff, Version.Key.mk.injEq, plainNumber]
  by_cases hoctal : Yaml.IsOctal digits
  -- Two numbers that are too large for a bound tie, since both are ordered as zero.
  · have hvalue := Yaml.octalValue_eq_or_lt h hoctal.2
    simp only [hoctal, if_true, true_and, and_true]
    split <;> split <;> omega
  · simp [hoctal]

/-- Unless they are read to base eight, digits are the same bound in all styles. -/
theorem boundOf_of_not_octal (hoctal : ¬ Yaml.IsOctal digits) (style : Yaml.Style) :
    boundOf digits style = ⟨String.ofList digits⟩ := by
  cases style with
  | plain => rw [boundOf, plainBound, if_neg hoctal]
  | quoted double => rfl

include hne h in
/-- A single digit behind zeros is the same number to either base. -/
theorem normalized_boundOf_of_octal_lt (hlength : digits.length ≤ Text.digitLimit)
    (hoctal : Yaml.IsOctal digits) (hvalue : Yaml.octalValue digits < 8) (style : Yaml.Style) :
    (boundOf digits style).normalized = .ok ⟨Yaml.octalValue digits, 0, 0⟩ := by
  have hbyte : Yaml.octalValue digits ≤ Version.componentMax := hvalue.le.trans (by decide)
  have heq : Text.natOfDigits digits = Yaml.octalValue digits := by
    rcases Yaml.octalValue_eq_or_lt h hoctal.2 with ⟨-, heq⟩ | ⟨hlarge, -⟩
    · exact heq.symm
    · exact absurd hvalue (Nat.not_lt.mpr hlarge)
  cases style with
  | plain =>
    rw [boundOf, normalized_plainBound hne h hlength, plainNumber, if_pos hoctal, if_pos hbyte]
  | quoted double =>
    rw [boundOf, Version.normalized_of_digits hne h hlength, heq, if_pos hbyte]

/-- A search goes by the reading of its bound, not by the text. -/
theorem run_bounded_congr {b' : Version} {k : Version.Key} (hkey : (key, set) ∈ versionKeys)
    (hb : b.normalized = .ok k) (hb' : b'.normalized = .ok k) (source source' : String) (w : World) :
    (bounded set b source).run w = (bounded set b' source').run w := by
  have hreadings : (some b).map Version.normalized = (some b').map Version.normalized := by
    rw [Option.map_some, Option.map_some, hb, hb']
  rcases mem_versionKeys_iff.mp hkey with ⟨-, rfl⟩ | ⟨-, rfl⟩
  · refine Search.run_eq_of_normalized ?_ hreadings rfl rfl rfl
    rintro v (hv | hv)
    · cases hv
      exact ⟨k, hb⟩
    · cases hv
  · refine Search.run_eq_of_normalized ?_ rfl hreadings rfl rfl
    rintro v (hv | hv)
    · cases hv
    · cases hv
      exact ⟨k, hb⟩

/-- A malformed bound is refused before the search asks for anything. -/
theorem run_bounded_malformed (hkey : (key, set) ∈ versionKeys)
    (hb : b.normalized = .error .malformed) (source : String) (w : World) :
    (bounded set b source).run w = ⟨.error (.malformedVersion b.text), 0⟩ := by
  have hcheck : Search.checkBound (some b) = .error (.malformedVersion b.text) := by
    rw [Search.checkBound, hb]
    rfl
  have hbounds : (({} : Search).apply (set b)).checkBounds = .error (.malformedVersion b.text) := by
    rcases mem_versionKeys_iff.mp hkey with ⟨-, rfl⟩ | ⟨-, rfl⟩
    · rw [Search.checkBounds, Search.apply, hcheck]
      rfl
    · rw [Search.checkBounds, Search.apply, hcheck]
      rfl
  rw [run, Search.run, bounded, hbounds]

end

/-- A profile of one line that sets a bound by digits is accepted in every style, whatever the line ends
with. Without quotes the digits tie with themselves in quotes, unless they are read to base eight and
come to a number from eight to `Version.componentMax`: then that smaller number is the bound, and it is
a well-formed one. Below eight, and where the digits are not read to base eight, the search is the same
in all styles; above `Version.componentMax` it is refused in all of them, each under its own text. -/
theorem load_digits_unless_octal (hreader : ReadsBounds readYaml) (hkey : (key, set) ∈ versionKeys)
    (hne : digits ≠ []) (h : ∀ c ∈ digits, c.isDigit = true)
    (hlength : digits.length ≤ Text.digitLimit) (hend : lineEnd ∈ lineEnds) :
    (∀ style w path, w.read path = .ok (digitsLine key style digits lineEnd) →
        load readYaml w path = .ok (bounded set (boundOf digits style) path)) ∧
      ((plainBound digits).order ⟨String.ofList digits⟩ = .ok .eq ↔ ¬ (Yaml.IsOctal digits ∧
        8 ≤ Yaml.octalValue digits ∧ Yaml.octalValue digits ≤ Version.componentMax)) ∧
      (¬ (Yaml.IsOctal digits ∧ 8 ≤ Yaml.octalValue digits) → ∀ style style' source source' w,
        (bounded set (boundOf digits style) source).run w =
          (bounded set (boundOf digits style') source').run w) ∧
      (Yaml.IsOctal digits → 8 ≤ Yaml.octalValue digits →
        Yaml.octalValue digits < Text.natOfDigits digits ∧
        if Yaml.octalValue digits ≤ Version.componentMax then
          (plainBound digits).normalized = .ok ⟨Yaml.octalValue digits, 0, 0⟩
        else ∀ style source w, (bounded set (boundOf digits style) source).run w =
          ⟨.error (.malformedVersion (boundOf digits style).text), 0⟩) := by
  refine ⟨fun style w path => load_digitsLine hne h hreader hkey hlength hend style,
    order_plainBound_eq_iff hne h hlength, fun hties => ?_, fun hoctal hvalue => ?_⟩
  · intro style style' source source' w
    by_cases hoctal : Yaml.IsOctal digits
    · have hread := normalized_boundOf_of_octal_lt hne h hlength hoctal
        (Nat.not_le.mp fun hvalue => hties ⟨hoctal, hvalue⟩)
      exact run_bounded_congr hkey (hread style) (hread style') source source' w
    · rw [boundOf_of_not_octal hoctal, boundOf_of_not_octal hoctal]
      rfl
  · have hlt : Yaml.octalValue digits < Text.natOfDigits digits := by
      rcases Yaml.octalValue_eq_or_lt h hoctal.2 with ⟨hsmall, -⟩ | ⟨-, hlt⟩
      · exact absurd hvalue (Nat.not_le.mpr hsmall)
      · exact hlt
    have hplain := normalized_plainBound hne h hlength
    rw [plainNumber, if_pos hoctal] at hplain
    refine ⟨hlt, ?_⟩
    split
    · rename_i hbyte
      rw [hplain, if_pos hbyte]
    · rename_i hlarge
      intro style source w
      refine run_bounded_malformed hkey ?_ source w
      cases style with
      | plain => exact hplain.trans (if_neg hlarge)
      | quoted double =>
        refine (Version.normalized_of_digits hne h hlength).trans (if_neg ?_)
        exact fun hbyte => hlarge (hlt.le.trans hbyte)

def plainName : Path.Component := ⟨"plain.yaml", by decide⟩

def quotedName : Path.Component := ⟨"quoted.yaml", by decide⟩

/-- The active developer directory has SDKs of the versions 10.14 and 13.1. Two profiles set a bound by
the same digits, without quotes and with them. -/
def digitsWorld (key digits : String) : World :=
  { World.ofTree [(Search.opt, .developerTree [(Search.macOsxPlatform,
        [⟨"MacOSX10.14.sdk", by decide⟩, ⟨"MacOSX13.1.sdk", by decide⟩])]),
      (plainName, .file (.ok (digitsLine key .plain digits.toList ['\n']))),
      (quotedName, .file (.ok (digitsLine key (.quoted true) digits.toList ['\n'])))] with
    environment := [("DEVELOPER_DIR", "/opt")] }

theorem read_digitsWorld (key digits : String) :
    (digitsWorld key digits).read "plain.yaml" = .ok (digitsLine key .plain digits.toList ['\n']) ∧
      (digitsWorld key digits).read "quoted.yaml" =
        .ok (digitsLine key (.quoted true) digits.toList ['\n']) :=
  ⟨rfl, rfl⟩

/-- The names of what a profile finds. -/
def foundNames (p : Profile) (w : World) : Option (List String) :=
  ((p.run w).result.map fun sdks => sdks.map (·.path.name)).toOption

theorem load_digits_unless_octal_seven :
    ReadsBounds Yaml.read ∧ ("minimum_version", Search.Setting.minimum) ∈ versionKeys ∧
      "007".toList ≠ [] ∧ (∀ c ∈ "007".toList, c.isDigit = true) ∧
      "007".toList.length ≤ Text.digitLimit ∧ ['\n'] ∈ lineEnds ∧
      load Yaml.read (digitsWorld "minimum_version" "007") "plain.yaml" =
        .ok (bounded .minimum ⟨"7"⟩ "plain.yaml") ∧
      load Yaml.read (digitsWorld "minimum_version" "007") "quoted.yaml" =
        .ok (bounded .minimum ⟨"007"⟩ "quoted.yaml") ∧
      Version.order ⟨"7"⟩ ⟨"007"⟩ = .ok .eq ∧
      (bounded .minimum ⟨"7"⟩ "plain.yaml").run (digitsWorld "minimum_version" "007") =
        (bounded .minimum ⟨"007"⟩ "quoted.yaml").run (digitsWorld "minimum_version" "007") ∧
      foundNames (bounded .minimum ⟨"7"⟩ "plain.yaml") (digitsWorld "minimum_version" "007") =
        some ["MacOSX10.14.sdk", "MacOSX13.1.sdk"] := by
  have hkey : ("minimum_version", Search.Setting.minimum) ∈ versionKeys := List.mem_cons_self
  have hdigits : ∀ c ∈ "007".toList, c.isDigit = true := List.all_eq_true.mp (by decide)
  have hend : ['\n'] ∈ lineEnds := by decide
  obtain ⟨hload, horder, hrun, -⟩ :=
    load_digits_unless_octal readsBounds_read hkey (by decide) hdigits (by decide) hend
  obtain ⟨hplain, hquoted⟩ := read_digitsWorld "minimum_version" "007"
  have hbound : plainBound "007".toList = ⟨"7"⟩ := by decide +kernel
  have hsmall : ¬ (Yaml.IsOctal "007".toList ∧ 8 ≤ Yaml.octalValue "007".toList) := by
    decide +kernel
  refine ⟨readsBounds_read, hkey, by decide, hdigits, by decide, hend, ?_, hload _ _ _ hquoted, ?_,
    ?_, by decide +kernel⟩
  · exact hbound ▸ hload _ _ _ hplain
  · exact hbound ▸ horder.mpr fun hwrong => hsmall ⟨hwrong.1, hwrong.2.1⟩
  · exact hbound ▸ hrun hsmall .plain (.quoted true) "plain.yaml" "quoted.yaml" _

/-- Fourteen to base eight is twelve, so the same digits without quotes leave the greater version out. -/
theorem load_octal_fourteen :
    load Yaml.read (digitsWorld "maximum_version" "014") "plain.yaml" =
        .ok (bounded .maximum ⟨"12"⟩ "plain.yaml") ∧
      load Yaml.read (digitsWorld "maximum_version" "014") "quoted.yaml" =
        .ok (bounded .maximum ⟨"014"⟩ "quoted.yaml") ∧
      Version.order ⟨"12"⟩ ⟨"014"⟩ = .ok .lt ∧
      foundNames (bounded .maximum ⟨"12"⟩ "plain.yaml") (digitsWorld "maximum_version" "014") =
        some ["MacOSX10.14.sdk"] ∧
      foundNames (bounded .maximum ⟨"014"⟩ "quoted.yaml") (digitsWorld "maximum_version" "014") =
        some ["MacOSX10.14.sdk", "MacOSX13.1.sdk"] := by
  have hkey : ("maximum_version", Search.Setting.maximum) ∈ versionKeys := by simp [versionKeys]
  obtain ⟨hplain, hquoted⟩ := read_digitsWorld "maximum_version" "014"
  have hdigits : ∀ c ∈ "014".toList, c.isDigit = true := List.all_eq_true.mp (by decide)
  have hend : ['\n'] ∈ lineEnds := by decide
  have hloadPlain :=
    load_digitsLine (by decide) hdigits readsBounds_read hkey (by decide) hend .plain hplain
  have hloadQuoted :=
    load_digitsLine (by decide) hdigits readsBounds_read hkey (by decide) hend (.quoted true) hquoted
  have hbound : plainBound "014".toList = ⟨"12"⟩ := by decide +kernel
  exact ⟨hbound ▸ hloadPlain, hloadQuoted, by decide +kernel, by decide +kernel, by decide +kernel⟩

end SdkScout.Profile
