import SdkScout.Proofs.Search.Schedule

/-!
# What the wanted platform restricts

The platform that is wanted chooses among the platform directories of a developer directory. It does
not choose among SDKs: every SDK in the directory of the wanted platform is found, and every SDK in a
directory of SDKs that is a root itself, whatever its own name or its settings say
(`Search.Completes.mem_selection_iff_holds`). So all SDKs found are for the wanted platform exactly if
no other SDK within the bounds lies in one of these places.
-/

namespace SdkScout

namespace SearchRoot

/-- The directories that a root stands for in a search for a platform: a directory of SDKs for itself,
and a developer directory for the SDKs of the platform's own directory. -/
inductive Covers (w : World) (p : Platform) : SearchRoot → Path → Prop
  | sdks : Covers w p ⟨.sdks, directory⟩ directory
  | developer : w.platformDirectories developer = .ok ds → d ∈ ds → d.platform = p →
    Covers w p ⟨.developer, developer⟩ d.sdksPath

/-- An SDK is an entry of a directory that the root stands for. -/
def Holds (w : World) (kind : SdkKind) (p : Platform) (root : SearchRoot) (sdk : Sdk) : Prop :=
  ∃ directory, root.Covers w p directory ∧ ∃ cs, w.childrenIfPresent directory = .ok cs ∧
    ∃ path ∈ cs, Sdk.ofDirectory w path kind = .ok sdk

theorem mem_sdksDirectories_iff {w : World} {p : Platform} {root : SearchRoot}
    {directories : List Path} (h : root.sdksDirectories w (some p) = .ok directories)
    {directory : Path} : directory ∈ directories ↔ root.Covers w p directory := by
  obtain ⟨kind, path⟩ := root
  cases kind with
  | sdks =>
    cases h
    constructor
    · intro hmem
      cases List.mem_singleton.mp hmem
      exact .sdks
    · rintro ⟨⟩
      exact List.mem_singleton_self _
  | developer =>
    obtain ⟨ds, hds, h⟩ := Except.bind_eq_ok_iff.mp h
    cases h
    constructor
    · intro hmem
      obtain ⟨d, hd, rfl⟩ := List.mem_map.mp hmem
      obtain ⟨hd, hp⟩ := List.mem_filter.mp hd
      exact .developer hds hd (by simpa using hp)
    · rintro (_ | ⟨hds', hd, hp⟩)
      cases hds.symm.trans hds'
      exact List.mem_map_of_mem (List.mem_filter.mpr ⟨hd, by simpa using hp⟩)

end SearchRoot

namespace Search

variable {s : Search} {w : World} {kind : SdkKind} {p : Platform}

theorem Completes.mem_selection_iff_holds {roots : List SearchRoot} (h : s.Completes w kind roots)
    (hp : s.platform = some p) {sdk : Sdk} :
    sdk ∈ s.selection w kind roots ↔
      ∃ root ∈ roots, root.Holds w kind p sdk ∧ s.accepts sdk = .ok true := by
  have hcovers : ∀ root ∈ roots, ∀ directory,
      directory ∈ s.expansion w root ↔ root.Covers w p directory :=
    fun root hroot _ => SearchRoot.mem_sdksDirectories_iff (hp ▸ h.expands root hroot)
  have hsearched : ∀ root ∈ roots, ∀ directory ∈ s.expansion w root,
      directory ∈ s.searchedDirectories w roots :=
    fun root hroot _ hd => List.mem_eraseDups.mpr (List.mem_flatMap.mpr ⟨root, hroot, hd⟩)
  rw [mem_selection_iff]
  constructor
  · rintro ⟨root, hroot, directory, hd, hsdk, hadmits⟩
    have hdir := hsearched root hroot directory hd
    refine ⟨root, hroot, ⟨directory, (hcovers root hroot directory).mp hd, ?_⟩, ?_⟩
    · exact (Sdk.mem_inDirectory_iff (h.enumerates directory hdir)).mp hsdk
    · rw [h.judges directory hdir sdk hsdk, hadmits]
  · rintro ⟨root, hroot, ⟨directory, hcov, hsdk⟩, haccepts⟩
    have hd := (hcovers root hroot directory).mpr hcov
    have hdir := hsearched root hroot directory hd
    refine ⟨root, hroot, directory, hd, ?_, by simp [admits, haccepts]⟩
    exact (Sdk.mem_inDirectory_iff (h.enumerates directory hdir)).mpr hsdk

/-- A search for a platform finds the SDKs within the bounds that its roots hold, whatever platform
each of them is for. They are all for the wanted platform exactly if the roots hold no others. -/
theorem platforms_eq_iff {sdks : List Sdk} (hp : s.platform = some p)
    (h : (s.run w kind).result = .ok sdks) :
    ∃ roots, (s.roots w).result = .ok roots ∧
      (∀ sdk, sdk ∈ sdks ↔
        ∃ root ∈ roots, root.Holds w kind p sdk ∧ s.accepts sdk = .ok true) ∧
      ((∀ sdk ∈ sdks, sdk.platform = p) ↔ ∀ root ∈ roots, ∀ sdk, root.Holds w kind p sdk →
        s.accepts sdk = .ok true → sdk.platform = p) := by
  obtain ⟨-, roots, hroots, hcompletes, rfl⟩ := run_eq_ok_iff.mp h
  have hmem : ∀ sdk, sdk ∈ s.selection w kind roots ↔
      ∃ root ∈ roots, root.Holds w kind p sdk ∧ s.accepts sdk = .ok true :=
    fun _ => hcompletes.mem_selection_iff_holds hp
  refine ⟨roots, hroots, hmem, fun hall root hroot sdk hholds haccepts => ?_, fun hall sdk hsdk => ?_⟩
  · exact hall sdk ((hmem sdk).mpr ⟨root, hroot, hholds, haccepts⟩)
  · obtain ⟨root, hroot, hholds, haccepts⟩ := (hmem sdk).mp hsdk
    exact hall root hroot sdk hholds haccepts

/-- An SDK for another platform lies in the directory of a platform, and one in a directory of
SDKs. -/
def strayWorld : World :=
  .ofTree [(opt, .developerTree [(macOsxPlatform, [⟨"iPhoneOS16.4.sdk", by decide⟩])]),
    (⟨"sdks", by decide⟩, .directory {} [(⟨"WatchOS9.sdk", by decide⟩, .directory {} [])])]

def straySearch : Search where
  developerDirectory := false
  developerDirectories := [.ofString "/opt"]
  sdksDirectories := [.ofString "/sdks"]
  platform := some (.ofKnown .macOsx)

private theorem run_straySearch :
    ∃ sdks, (straySearch.run strayWorld .unparsed).result = .ok sdks ∧
      sdks.map (·.platform) = [.ofKnown .iphoneOs, .ofKnown .watchOs] := by
  have hplatforms : ((straySearch.run strayWorld .unparsed).result.map fun sdks =>
      sdks.map (·.platform)).toOption = some [.ofKnown .iphoneOs, .ofKnown .watchOs] := by
    decide +kernel
  cases hrun : (straySearch.run strayWorld .unparsed).result with
  | error _ => simp [hrun] at hplatforms
  | ok sdks => exact ⟨sdks, rfl, by simpa [hrun] using hplatforms⟩

theorem platforms_eq_iff_stray :
    straySearch.platform = some (.ofKnown .macOsx) ∧
      ∃ sdks, (straySearch.run strayWorld .unparsed).result = .ok sdks ∧
      ∃ roots, (straySearch.roots strayWorld).result = .ok roots ∧
        ¬ ∀ root ∈ roots, ∀ sdk, root.Holds strayWorld .unparsed (.ofKnown .macOsx) sdk →
          straySearch.accepts sdk = .ok true → sdk.platform = .ofKnown .macOsx := by
  obtain ⟨sdks, hrun, hplatforms⟩ := run_straySearch
  obtain ⟨roots, hroots, -, hiff⟩ := platforms_eq_iff (p := .ofKnown .macOsx) rfl hrun
  refine ⟨rfl, sdks, hrun, roots, hroots, fun hall => ?_⟩
  have hmem : (.ofKnown .iphoneOs : Platform) ∈ sdks.map (·.platform) := by simp [hplatforms]
  obtain ⟨sdk, hsdk, hsdkPlatform⟩ := List.mem_map.mp hmem
  exact absurd (hsdkPlatform.symm.trans (hiff.mpr hall sdk hsdk)) (by decide)

/-- A search for one platform can find nothing but SDKs for others. -/
theorem exists_platforms_ne :
    ∃ sdks, (straySearch.run strayWorld .unparsed).result = .ok sdks ∧ sdks ≠ [] ∧
      ∀ sdk ∈ sdks, straySearch.platform ≠ some sdk.platform := by
  obtain ⟨sdks, hrun, hplatforms⟩ := run_straySearch
  refine ⟨sdks, hrun, ?_, fun sdk hsdk => ?_⟩
  · rintro rfl
    simp at hplatforms
  · have hmem : sdk.platform ∈ sdks.map (·.platform) := List.mem_map_of_mem hsdk
    rw [hplatforms] at hmem
    rcases List.mem_cons.mp hmem with h | h
    · rw [h]
      decide
    · rw [List.mem_singleton.mp h]
      decide

end Search

end SdkScout
