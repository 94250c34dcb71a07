import Mathlib.Data.List.TakeWhile
import SdkScout.Proofs.PathText
import SdkScout.Sdk

/-!
# The names of SDK directories

A name ends in `.sdk`, and what stands before that is cut before its first decimal digit. No other
cut leaves the platform's name without digits and starts the version with one
(`SdkPath.Composes.unique`), so a path is read exactly as its name is put together
(`SdkPath.ofPath?_eq_some_iff`).
-/

namespace SdkScout

namespace SdkPath

/-- A name is put together from the name of a platform, which has no decimal digit, a version, which
starts with one unless it is empty, and the suffix. -/
structure Composes (platform version name : String) : Prop where
  name_eq : name = platform ++ version ++ ".sdk"
  platform_plain : ∀ c ∈ platform.toList, Text.isDecimalDigit c = false
  version_digit : ∀ c ∈ version.toList.head?, Text.isDecimalDigit c = true

/-- The version with some text. The empty text stands for none. -/
def versionOf? (text : String) : Option Version :=
  if text = "" then none else some ⟨text⟩

theorem stem?_eq_some_iff {name stem : List Char} :
    stem? name = some stem ↔ name = stem ++ suffix := by
  rw [stem?]
  constructor
  · intro h
    split at h
    · rename_i hsuffix
      obtain ⟨front, rfl⟩ := List.isSuffixOf_iff_suffix.mp hsuffix
      simpa using h
    · cases h
  · rintro rfl
    rw [if_pos (List.isSuffixOf_iff_suffix.mpr (List.suffix_append _ _))]
    simp

/-- A stem is split in front of its first digit. -/
theorem splitVersion_eq_iff {stem platform version : List Char} :
    splitVersion stem = (platform, version) ↔ stem = platform ++ version ∧
      (∀ c ∈ platform, Text.isDecimalDigit c = false) ∧
      ∀ c ∈ version.head?, Text.isDecimalDigit c = true := by
  rw [splitVersion, Prod.mk.injEq]
  constructor
  · rintro ⟨rfl, rfl⟩
    refine ⟨List.takeWhile_append_dropWhile.symm, fun c hc => ?_, fun c hc => ?_⟩
    · simpa using List.mem_takeWhile_imp hc
    · have hhead := List.head?_dropWhile_not (!Text.isDecimalDigit ·) stem
      rw [Option.mem_def.mp hc] at hhead
      simpa using hhead
  · rintro ⟨rfl, hplatform, hversion⟩
    have hplain : ∀ c ∈ platform, (!Text.isDecimalDigit c) = true := by simpa using hplatform
    rw [List.takeWhile_append_of_pos hplain, List.dropWhile_append_of_pos hplain]
    cases version with
    | nil => simp
    | cons c rest =>
      have hdigit : Text.isDecimalDigit c = true := hversion c rfl
      simp [hdigit]

theorem composes_iff {platform version name : String} : Composes platform version name ↔
    ∃ stem, stem? name.toList = some stem ∧
      splitVersion stem = (platform.toList, version.toList) := by
  simp only [stem?_eq_some_iff, splitVersion_eq_iff]
  constructor
  · rintro ⟨rfl, hplatform, hversion⟩
    exact ⟨_, by simp [suffix], rfl, hplatform, hversion⟩
  · rintro ⟨_, hname, rfl, hplatform, hversion⟩
    refine ⟨?_, hplatform, hversion⟩
    rw [← String.toList_inj, hname]
    simp [suffix]

/-- A name has one platform and one version. -/
theorem Composes.unique {platform version platform' version' name : String}
    (h : Composes platform version name) (h' : Composes platform' version' name) :
    platform = platform' ∧ version = version' := by
  obtain ⟨stem, hstem, hsplit⟩ := composes_iff.mp h
  obtain ⟨stem', hstem', hsplit'⟩ := composes_iff.mp h'
  obtain rfl : stem = stem' := Option.some.inj (hstem.symm.trans hstem')
  obtain ⟨hplatform, hversion⟩ := Prod.mk.inj (hsplit.symm.trans hsplit')
  exact ⟨String.toList_inj.mp hplatform, String.toList_inj.mp hversion⟩

theorem ofPath?_eq_some_iff {path : Path} {s : SdkPath} : ofPath? path = some s ↔ s.path = path ∧
    ∃ version, Composes s.platform.name version path.name ∧ s.version = versionOf? version := by
  rw [ofPath?, Option.map_eq_some_iff]
  constructor
  · rintro ⟨stem, hstem, rfl⟩
    refine ⟨rfl, String.ofList (splitVersion stem).2, composes_iff.mpr ⟨stem, hstem, ?_⟩, ?_⟩
    · simp
    · simp [versionOf?]
  · obtain ⟨_, ⟨platform⟩, _⟩ := s
    rintro ⟨rfl, version, hname, rfl⟩
    obtain ⟨stem, hstem, hsplit⟩ := composes_iff.mp hname
    refine ⟨stem, hstem, ?_⟩
    simp [hsplit, versionOf?]

/-- Every name with the ending of an SDK is read. -/
theorem exists_ofPath?_iff {path : Path} :
    (∃ s, ofPath? path = some s) ↔ ∃ stem, path.name = stem ++ ".sdk" := by
  simp only [ofPath?, Option.map_eq_some_iff]
  constructor
  · rintro ⟨_, stem, hstem, -⟩
    refine ⟨String.ofList stem, ?_⟩
    rw [← String.toList_inj, stem?_eq_some_iff.mp hstem]
    simp [suffix]
  · rintro ⟨stem, hname⟩
    exact ⟨_, stem.toList, stem?_eq_some_iff.mpr (by simp [hname, suffix]), rfl⟩

end SdkPath

namespace Sdk

open SdkPath

theorem pathOf_eq_ok_iff {path : Path} {s : SdkPath} :
    pathOf path = .ok s ↔ SdkPath.ofPath? path = some s := by
  rw [pathOf]
  cases SdkPath.ofPath? path <;> simp

/-- All other paths are refused, with the path. -/
theorem pathOf_eq_error_iff {path : Path} {failure : Failure} :
    pathOf path = .error failure ↔
      failure = .notSdk path ∧ ¬ ∃ stem, path.name = stem ++ ".sdk" := by
  rw [← exists_ofPath?_iff, pathOf]
  cases SdkPath.ofPath? path <;> simp [eq_comm]

/-- A path is that of an SDK if its last component ends in `.sdk`, and is refused as a whole if
not. It is read as its last component is put together, for which there is one way at most; and
whatever is put together in that way, in any directory, is read as what it is made of. -/
theorem pathOf_reads_names (path directory : Path) :
    ((∃ s, pathOf path = .ok s) ↔ ∃ stem, path.name = stem ++ ".sdk") ∧
      (∀ failure, pathOf path = .error failure ↔
        failure = .notSdk path ∧ ¬ ∃ stem, path.name = stem ++ ".sdk") ∧
      (∀ s, pathOf path = .ok s ↔ s.path = path ∧
        ∃ version, Composes s.platform.name version path.name ∧ s.version = versionOf? version) ∧
      (∀ platform version platform' version', Composes platform version path.name →
        Composes platform' version' path.name → platform = platform' ∧ version = version') ∧
      ∀ platform version name, Composes platform version name →
        '/' ∉ platform.toList → '/' ∉ version.toList →
        pathOf (directory.join (.ofString name)) =
          .ok ⟨directory.join (.ofString name), ⟨platform⟩, versionOf? version⟩ := by
  refine ⟨?_, fun _ => pathOf_eq_error_iff, fun s => ?_, fun _ _ _ _ h h' => h.unique h', ?_⟩
  · simp only [pathOf_eq_ok_iff, exists_ofPath?_iff]
  · rw [pathOf_eq_ok_iff, SdkPath.ofPath?_eq_some_iff]
  · intro platform version name hname hplatform hversion
    have hcomponent : Path.IsComponent name := by
      rw [hname.name_eq]
      exact Path.isComponent_append (by simp [hplatform, hversion]) (by decide) (by decide)
    rw [pathOf_eq_ok_iff, SdkPath.ofPath?_eq_some_iff]
    refine ⟨rfl, version, ?_, rfl⟩
    rwa [Path.name_join_ofString directory hcomponent]

/-- A version may look like a suffix itself, and its first digit may be of any script. -/
example : pathOf (.ofString "dev/Mac\u06641.sdk.sdk") =
    .ok ⟨.ofString "dev/Mac\u06641.sdk.sdk", ⟨"Mac"⟩, some ⟨"\u06641.sdk"⟩⟩ := by decide +kernel

end Sdk

end SdkScout
