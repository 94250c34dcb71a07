import SdkScout.Proofs.PlatformDirectory
import SdkScout.Search

/-!
# The directories of SDKs that a root stands for

A developer directory stands for the directories of SDKs of its platforms. That of one platform can
be told from the entries of `Platforms` without reading any other of them
(`SearchRoot.sdksDirectories_some`), and all of them together are those of the platforms that are
listed, one after the other (`SearchRoot.sdksDirectories_of_lists`).
-/

namespace SdkScout

/-- Where the SDKs of a platform are in a developer directory with some entries in `Platforms`. -/
def Platform.sdksPaths (developer : Path) (names : List Path.Component) (p : Platform) :
    List Path :=
  if p.IsListed names then
    [((p.pathIn developer).child PlatformDirectory.developer).child PlatformDirectory.sdks]
  else []

namespace SearchRoot

variable {w : World} {developer : Path} {names : List Path.Component} {ps : List Platform}

theorem sdksDirectories_developer
    (hds : w.platformDirectories developer = .ok (ps.map (Platform.directoryIn developer)))
    (wanted : Option Platform) : sdksDirectories w wanted ⟨.developer, developer⟩ =
      .ok ((ps.filter fun p => wanted.all (p = ·)).map fun p =>
        (p.directoryIn developer).sdksPath) := by
  rw [sdksDirectories, hds]
  refine congrArg Except.ok ?_
  rw [List.filter_map, List.map_map]
  rfl

/-- Different platforms have different directories, so at most one of these is for the wanted. -/
theorem sdksDirectories_some (h : w.Lists (developer.child Platform.platformsDirectory) names)
    (p : Platform) : sdksDirectories w (some p) ⟨.developer, developer⟩ =
      .ok (p.sdksPaths developer names) := by
  obtain ⟨ps, hds, hmem, hsorted⟩ := World.exists_platforms h
  have hnodup : ps.Nodup := hsorted.imp fun {p q} hlt heq => by
    rw [heq] at hlt
    exact lt_irrefl (q.pathIn developer).key hlt
  have hfilter : ps.filter (· = p) = if p.IsListed names then [p] else [] := by
    rw [List.filter_eq, hnodup.count]
    simp only [hmem]
    split <;> rfl
  rw [sdksDirectories_developer hds]
  simp only [Option.all_some, hfilter, Platform.sdksPaths]
  split <;> rfl

/-- Where `Platforms` can be listed, or is missing and so has no entries, a developer directory
stands for the directory of SDKs of the wanted platform if that is listed, and for none if it is not.
With no platform wanted, it stands for the directories of all platforms that are listed, in the order
of their paths. A directory of SDKs stands for itself, whatever is wanted. -/
theorem sdksDirectories_of_lists (w : World) (developer : Path) :
    (∀ names, w.Lists (developer.child Platform.platformsDirectory) names →
      (∀ p, sdksDirectories w (some p) ⟨.developer, developer⟩ =
        .ok (p.sdksPaths developer names)) ∧
      ∃ ps : List Platform, (∀ p, p ∈ ps ↔ p.IsListed names) ∧
        ps.Pairwise (fun p q => p.pathIn developer < q.pathIn developer) ∧
        sdksDirectories w none ⟨.developer, developer⟩ =
          .ok (ps.flatMap (Platform.sdksPaths developer names))) ∧
      ∀ wanted path, sdksDirectories w wanted ⟨.sdks, path⟩ = .ok [path] := by
  refine ⟨fun names h => ⟨sdksDirectories_some h, ?_⟩, fun _ _ => rfl⟩
  obtain ⟨ps, hds, hmem, hsorted⟩ := World.exists_platforms h
  refine ⟨ps, hmem, hsorted, ?_⟩
  rw [sdksDirectories_developer hds, List.filter_eq_self.mpr fun _ _ => Option.all_none,
    List.map_eq_flatMap]
  refine congrArg Except.ok (List.flatMap_congr fun p hp => ?_)
  rw [Platform.sdksPaths, if_pos ((hmem p).mp hp)]
  rfl

/-- The entry `Watch.OS.platform` is for no platform, and `/opt` is missing. -/
theorem sdksDirectories_of_lists_mixed :
    sdksDirectories (platformsWorld mixedEntries) (some ⟨"WatchOS"⟩)
        ⟨.developer, .ofString "/dev"⟩ =
          .ok [.ofString "/dev/Platforms/WatchOS.platform/Developer/SDKs"] ∧
      sdksDirectories (platformsWorld mixedEntries) (some ⟨"Watch.OS"⟩)
        ⟨.developer, .ofString "/dev"⟩ = .ok [] ∧
      (platformsWorld mixedEntries).Lists (.ofString "/opt/Platforms") [] ∧
      sdksDirectories (platformsWorld mixedEntries) (some ⟨"WatchOS"⟩)
        ⟨.developer, .ofString "/opt"⟩ = .ok [] := by
  have hplatforms : (Path.ofString "/dev").child Platform.platformsDirectory =
      .ofString "/dev/Platforms" := by decide +kernel
  have hmissing : (Path.ofString "/opt").child Platform.platformsDirectory =
      .ofString "/opt/Platforms" := by decide +kernel
  have hlists : (platformsWorld mixedEntries).Lists (.ofString "/dev/Platforms") mixedEntries :=
    .listed (by decide +kernel)
  have hnothing : (platformsWorld mixedEntries).Lists (.ofString "/opt/Platforms") [] :=
    .missing (e := ⟨2, "/opt/Platforms"⟩) (by decide +kernel) rfl
  obtain ⟨hdev, -⟩ := sdksDirectories_of_lists (platformsWorld mixedEntries) (.ofString "/dev")
  obtain ⟨hopt, -⟩ := sdksDirectories_of_lists (platformsWorld mixedEntries) (.ofString "/opt")
  obtain ⟨hsome, -⟩ := hdev mixedEntries (hplatforms ▸ hlists)
  obtain ⟨hnone, -⟩ := hopt [] (hmissing ▸ hnothing)
  refine ⟨(hsome _).trans ?_, (hsome _).trans ?_, hnothing, (hnone _).trans ?_⟩ <;> decide +kernel

end SearchRoot

end SdkScout
