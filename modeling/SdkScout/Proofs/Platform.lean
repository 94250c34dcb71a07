import Mathlib.Data.List.TakeWhile
import SdkScout.Platform
import SdkScout.Proofs.PathText

/-!
# The names of platform directories

The directory of a platform has the platform's name before `.platform`, and such a name is read up
to its first dot. So a platform is read back from its directory exactly if its name has no dot, and
nothing else is the name of a platform directory (`Platform.ofDirectoryName?_eq_some_iff`).
-/

namespace SdkScout.Platform

/-- A platform is read from its directory name alone, and has no dot in its own. -/
theorem ofDirectoryName?_eq_some_iff {name : String} {p : Platform} :
    ofDirectoryName? name = some p ↔ '.' ∉ p.name.toList ∧ name = p.directoryName := by
  have hdot : ".platform".toList = '.' :: "platform".toList := rfl
  simp only [ofDirectoryName?, directoryName]
  constructor
  · intro h
    split at h
    · rename_i hdrop
      obtain rfl := Option.some.inj h
      have hstem : name.toList.takeWhile (· ≠ '.') <+: name.toList := List.takeWhile_prefix _
      have happend := List.prefix_iff_eq_append.mp hstem
      refine ⟨fun hmem => ?_, ?_⟩
      · rw [String.toList_ofList] at hmem
        simpa using List.mem_takeWhile_imp hmem
      · rw [← String.toList_inj, String.toList_append, String.toList_ofList, ← hdrop, happend]
    · cases h
  · rintro ⟨hplain, rfl⟩
    have hstem : (p.name ++ ".platform").toList.takeWhile (· ≠ '.') = p.name.toList := by
      rw [String.toList_append, hdot, List.takeWhile_append_of_pos, List.takeWhile_cons_of_neg,
        List.append_nil]
      · simp
      · intro c hc
        have hne : c ≠ '.' := fun h => hplain (h ▸ hc)
        simpa using hne
    rw [hstem, if_pos (by simp), String.ofList_toList]

/-- The names that are read: a stem without a dot, and the ending of a platform. -/
theorem exists_ofDirectoryName?_iff {name : String} : (∃ p, ofDirectoryName? name = some p) ↔
    ∃ stem : String, '.' ∉ stem.toList ∧ name = stem ++ ".platform" := by
  simp only [ofDirectoryName?_eq_some_iff]
  constructor
  · rintro ⟨p, hplain, hname⟩
    exact ⟨p.name, hplain, hname⟩
  · rintro ⟨stem, hplain, hname⟩
    exact ⟨⟨stem⟩, hplain, hname⟩

theorem ofPath_eq_ok_iff {path : Path} {p : Platform} :
    ofPath path = .ok p ↔ '.' ∉ p.name.toList ∧ path.name = p.directoryName := by
  rw [← ofDirectoryName?_eq_some_iff, ofPath, ofPath?]
  cases ofDirectoryName? path.name <;> simp

/-- All other paths are refused by their own text. -/
theorem ofPath_eq_error_iff {path : Path} {failure : Failure} :
    ofPath path = .error failure ↔ failure = .notPlatform path.toString ∧
      ¬ ∃ stem : String, '.' ∉ stem.toList ∧ path.name = stem ++ ".platform" := by
  rw [← exists_ofDirectoryName?_iff, ofPath, ofPath?]
  cases ofDirectoryName? path.name <;> simp [eq_comm]

/-- Under a developer directory, the directory of a platform is named by the platform alone. -/
theorem name_pathIn {p : Platform} (h : '/' ∉ p.name.toList) (developer : Path) :
    (p.pathIn developer).name = p.directoryName :=
  Path.name_join_ofString _ (Path.isComponent_append h (by decide) (by decide))

/-- Reading the directory of a platform gives it back, unless its name holds a dot. -/
theorem ofPath_pathIn {p : Platform} (h : '/' ∉ p.name.toList) (developer : Path) :
    ofPath (p.pathIn developer) =
      if '.' ∈ p.name.toList then .error (.notPlatform (p.pathIn developer).toString)
      else .ok p := by
  split
  · rename_i hdot
    refine ofPath_eq_error_iff.mpr ⟨rfl, ?_⟩
    rintro ⟨stem, hplain, hname⟩
    rw [name_pathIn h, directoryName, String.append_left_inj] at hname
    exact hplain (hname ▸ hdot)
  · rename_i hplain
    exact ofPath_eq_ok_iff.mpr ⟨hplain, name_pathIn h developer⟩

/-- A platform is known by its name alone. -/
theorem known?_eq_some_iff {p : Platform} {k : KnownPlatform} :
    p.known? = some k ↔ p = ofKnown k := by
  constructor
  · intro h
    have hname : k.name = p.name := by simpa using List.find?_some h
    rw [ofKnown, hname]
  · rintro rfl
    cases k <;> decide

/-- A path is that of a platform directory if its last component is a name without dots before
`.platform`, and that is the platform's own directory name; any other path is refused as a whole. A
platform whose name is a component is read back from its directory if its name has no dot, with
whatever it is known as, and its directory is refused if it has one. -/
theorem ofPath_reads_names (path developer : Path) :
    (∀ p, ofPath path = .ok p ↔ '.' ∉ p.name.toList ∧ path.name = p.name ++ ".platform") ∧
      (∀ failure, ofPath path = .error failure ↔ failure = .notPlatform path.toString ∧
        ¬ ∃ stem : String, '.' ∉ stem.toList ∧ path.name = stem ++ ".platform") ∧
      Path.ofString path.toString = path ∧
      (∀ p, ofPath path = .ok p → p.directoryName = path.name) ∧
      (∀ p : Platform, '/' ∉ p.name.toList → ofPath (p.pathIn developer) =
        if '.' ∈ p.name.toList then .error (.notPlatform (p.pathIn developer).toString)
        else .ok p) ∧
      ∀ (p : Platform) (k : KnownPlatform), p.known? = some k ↔ p = ofKnown k :=
  ⟨fun _ => ofPath_eq_ok_iff, fun _ => ofPath_eq_error_iff, path.ofString_toString,
    fun _ hp => (ofPath_eq_ok_iff.mp hp).2.symm, fun _ h => ofPath_pathIn h developer,
    fun _ _ => known?_eq_some_iff⟩

/-- A hidden directory can be that of the platform without a name. -/
example : ofPath (.ofString "dev/Platforms/.platform") = .ok ⟨""⟩ := by decide +kernel

end SdkScout.Platform
