import SdkScout.Proofs.Search.Schedule

/-!
# No SDK is found twice

The directories that a search selects from are different, and so are the SDKs of one directory. An SDK
lies right below the directory that it was found in, so a path fixes the directory, and no two SDKs
that a search finds have the same path, however its roots overlap.
-/

namespace SdkScout.Search

variable {s : Search} {w : World} {kind : SdkKind}

theorem paths_enumeration_eq_map (w : World) (kind : SdkKind) (directory : Path) :
    ∃ names : List Path.Component, names.Nodup ∧
      (enumeration w kind directory).map (·.path) = names.map directory.child := by
  cases h : Sdk.inDirectory w kind directory with
  | error _ => exact ⟨[], .nil, by simp [enumeration, h]⟩
  | ok sdks => simpa [enumeration, h] using Sdk.paths_inDirectory_eq_map h

/-- A directory gives no path twice. -/
theorem paths_enumeration_nodup (directory : Path) :
    ((enumeration w kind directory).map (·.path)).Nodup := by
  obtain ⟨names, hnames, heq⟩ := paths_enumeration_eq_map w kind directory
  rw [heq]
  exact hnames.map directory.child_injective

/-- Different directories have no path in common. -/
theorem paths_enumeration_disjoint {d e : Path} (h : d ≠ e) :
    List.Disjoint ((enumeration w kind d).map (·.path)) ((enumeration w kind e).map (·.path)) := by
  obtain ⟨names, -, hd⟩ := paths_enumeration_eq_map w kind d
  obtain ⟨names', -, he⟩ := paths_enumeration_eq_map w kind e
  rw [hd, he]
  intro path hpath hpath'
  obtain ⟨c, -, rfl⟩ := List.mem_map.mp hpath
  obtain ⟨c', -, heq⟩ := List.mem_map.mp hpath'
  exact h (Path.child_inj.mp heq).1.symm

theorem paths_selection_nodup (roots : List SearchRoot) :
    ((s.selection w kind roots).map (·.path)).Nodup := by
  have hall : (((s.searchedDirectories w roots).flatMap (enumeration w kind)).map (·.path)).Nodup := by
    rw [List.map_flatMap, List.nodup_flatMap]
    refine ⟨fun d _ => paths_enumeration_nodup d, ?_⟩
    exact (List.nodup_eraseDups _).imp paths_enumeration_disjoint
  exact hall.sublist (List.filter_sublist.map _)

theorem run_paths_nodup {sdks : List Sdk} (h : (s.run w kind).result = .ok sdks) :
    (sdks.map (·.path)).Nodup := by
  obtain ⟨-, roots, -, -, rfl⟩ := run_eq_ok_iff.mp h
  exact paths_selection_nodup roots

/-- Both SDKs of the developer directory are found, and each of them once. -/
theorem run_paths_nodup_overlapping :
    ∃ sdks, (overlappingSearch.run smallWorld .unparsed).result = .ok sdks ∧
      sdks.map (·.path.name) = ["MacOSX10.15.sdk", "MacOSX13.3.sdk"] ∧
      (sdks.map (·.path)).Nodup := by
  have hnames : ((overlappingSearch.run smallWorld .unparsed).result.map fun sdks =>
      sdks.map (·.path.name)).toOption = some ["MacOSX10.15.sdk", "MacOSX13.3.sdk"] := by
    decide +kernel
  cases hrun : (overlappingSearch.run smallWorld .unparsed).result with
  | error _ => simp [hrun] at hnames
  | ok sdks => exact ⟨sdks, rfl, by simpa [hrun] using hnames, run_paths_nodup hrun⟩

end SdkScout.Search
