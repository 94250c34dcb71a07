import SdkScout.Proofs.Listing
import SdkScout.Proofs.Platform

/-!
# The platform directories of a developer directory

The platforms of a developer directory are those that are listed in `Platforms`
(`Platform.IsListed`), and the platform directories are the directories of these platforms
(`World.mem_platformDirectories_iff`). So platform and path determine each other. Since the
directories come by path, nothing depends on the order of the listing
(`World.platformDirectories_of_lists`).
-/

namespace SdkScout

namespace Platform

/-- The name of a platform directory: a stem without dots, then `.platform`. -/
def IsDirectoryName (name : String) : Prop :=
  ∃ stem : String, '.' ∉ stem.toList ∧ name = stem ++ ".platform"

theorem isSome_ofDirectoryName?_iff {name : String} :
    (ofDirectoryName? name).isSome = true ↔ IsDirectoryName name :=
  Option.isSome_iff_exists.trans exists_ofDirectoryName?_iff

instance : DecidablePred IsDirectoryName := fun _ => decidable_of_iff _ isSome_ofDirectoryName?_iff

/-- Among some names is that of the platform's directory, and it is read as the platform's. -/
def IsListed (names : List Path.Component) (p : Platform) : Prop :=
  '.' ∉ p.name.toList ∧ ∃ c ∈ names, c.text = p.directoryName

instance (names : List Path.Component) : DecidablePred (IsListed names) := fun _ =>
  inferInstanceAs (Decidable (_ ∧ _))

/-- A platform is listed if its name is read from one of the entries. -/
theorem isListed_iff_mem {names : List Path.Component} {p : Platform} :
    p.IsListed names ↔ p ∈ names.filterMap fun c => ofDirectoryName? c.text := by
  simp only [IsListed, List.mem_filterMap, ofDirectoryName?_eq_some_iff]
  constructor
  · rintro ⟨hplain, c, hc, hname⟩
    exact ⟨c, hc, hplain, hname⟩
  · rintro ⟨c, hc, hplain, hname⟩
    exact ⟨hplain, c, hc, hname⟩

/-- The platform's directory in a developer directory. -/
def directoryIn (developer : Path) (p : Platform) : PlatformDirectory where
  path := p.pathIn developer
  platform := p

theorem pathIn_eq_child {p : Platform} {c : Path.Component} (h : c.text = p.directoryName)
    (developer : Path) : p.pathIn developer = (developer.child platformsDirectory).child c := by
  rw [pathIn, ← h, Path.join_ofString_text]

end Platform

namespace PlatformDirectory

theorem isSome_ofPath?_child (path : Path) (c : Path.Component) :
    (ofPath? (path.child c)).isSome = decide (Platform.IsDirectoryName c.text) := by
  rw [ofPath?, Option.isSome_map, Platform.ofPath?, Path.name_child, Bool.eq_iff_iff,
    decide_eq_true_iff, Platform.isSome_ofDirectoryName?_iff]

theorem ofPath?_child_eq_some_iff {developer : Path} {c : Path.Component} {d : PlatformDirectory} :
    ofPath? ((developer.child Platform.platformsDirectory).child c) = some d ↔
      ∃ p : Platform, '.' ∉ p.name.toList ∧ c.text = p.directoryName ∧
        d = p.directoryIn developer := by
  simp only [ofPath?, Platform.ofPath?, Path.name_child, Option.map_eq_some_iff,
    Platform.ofDirectoryName?_eq_some_iff, Platform.directoryIn]
  constructor
  · rintro ⟨p, ⟨hplain, hname⟩, rfl⟩
    exact ⟨p, hplain, hname, by rw [Platform.pathIn_eq_child hname]⟩
  · rintro ⟨p, hplain, hname, rfl⟩
    exact ⟨p, ⟨hplain, hname⟩, by rw [Platform.pathIn_eq_child hname]⟩

end PlatformDirectory

namespace World

variable {w : World} {developer : Path} {names : List Path.Component} {ds : List PlatformDirectory}

theorem platformDirectories_eq (h : w.Lists (developer.child Platform.platformsDirectory) names) :
    w.platformDirectories developer = .ok (PlatformDirectory.sorted
      ((names.map (developer.child Platform.platformsDirectory).child).filterMap
        PlatformDirectory.ofPath?)) := by
  rw [platformDirectories, h.childrenIfPresent_eq]
  rfl

/-- The platforms of a developer directory are those that are listed, each at its own path. -/
theorem mem_platformDirectories_iff
    (h : w.Lists (developer.child Platform.platformsDirectory) names)
    (hds : w.platformDirectories developer = .ok ds) {d : PlatformDirectory} :
    d ∈ ds ↔ ∃ p : Platform, p.IsListed names ∧ d = p.directoryIn developer := by
  cases (platformDirectories_eq h).symm.trans hds
  simp only [PlatformDirectory.sorted, Path.sortOn, List.mem_mergeSort, List.filterMap_map,
    List.mem_filterMap, Function.comp_apply, PlatformDirectory.ofPath?_child_eq_some_iff]
  constructor
  · rintro ⟨c, hc, p, hplain, hname, hd⟩
    exact ⟨p, ⟨hplain, c, hc, hname⟩, hd⟩
  · rintro ⟨p, ⟨hplain, c, hc, hname⟩, hd⟩
    exact ⟨c, hc, p, hplain, hname, hd⟩

/-- The platform directories are those of the listed platforms, in the order of their paths. -/
theorem exists_platforms (h : w.Lists (developer.child Platform.platformsDirectory) names) :
    ∃ ps : List Platform,
      w.platformDirectories developer = .ok (ps.map (Platform.directoryIn developer)) ∧
      (∀ p, p ∈ ps ↔ p.IsListed names) ∧
      ps.Pairwise fun p q => p.pathIn developer < q.pathIn developer := by
  have hds := platformDirectories_eq h
  generalize PlatformDirectory.sorted _ = ds at hds
  have hmem := fun d => mem_platformDirectories_iff h hds (d := d)
  have hmap : (ds.map (·.platform)).map (Platform.directoryIn developer) = ds := by
    rw [List.map_map]
    refine (List.map_congr_left fun d hd => ?_).trans (List.map_id ds)
    obtain ⟨p, -, rfl⟩ := (hmem d).mp hd
    rfl
  refine ⟨ds.map (·.platform), by rw [hmap, hds], fun p => ?_, ?_⟩
  · constructor
    · intro hp
      obtain ⟨d, hd, rfl⟩ := List.mem_map.mp hp
      obtain ⟨p, hlisted, rfl⟩ := (hmem d).mp hd
      exact hlisted
    · intro hp
      exact List.mem_map.mpr ⟨_, (hmem _).mpr ⟨p, hp, rfl⟩, rfl⟩
  · have hsorted := platformDirectories_pairwise hds
    rw [← hmap, List.pairwise_map] at hsorted
    exact hsorted

/-- Each entry with the name of a platform is found once. -/
theorem paths_platformDirectories_perm
    (h : w.Lists (developer.child Platform.platformsDirectory) names)
    (hds : w.platformDirectories developer = .ok ds) :
    (ds.map (·.path)).Perm ((names.filter fun c => Platform.IsDirectoryName c.text).map
      (developer.child Platform.platformsDirectory).child) := by
  cases (platformDirectories_eq h).symm.trans hds
  refine ((List.mergeSort_perm _ _).map _).trans (.of_eq ?_)
  rw [List.map_filterMap_eq_filter fun _ _ => PlatformDirectory.path_ofPath?, List.filter_map]
  simp only [Function.comp_def, PlatformDirectory.isSome_ofPath?_child]

/-- The platforms do not depend on the order of the listing. -/
theorem platformDirectories_eq_of_perm {w' : World} {names' : List Path.Component}
    (h : w.Lists (developer.child Platform.platformsDirectory) names)
    (h' : w'.Lists (developer.child Platform.platformsDirectory) names')
    (hperm : names.Perm names') :
    w.platformDirectories developer = w'.platformDirectories developer := by
  rw [platformDirectories_eq h, platformDirectories_eq h']
  refine congrArg Except.ok (Path.sortOn_eq_of_perm ((hperm.map _).filterMap _) ?_)
  refine .sublist ?_ (childrenIfPresent_nodup h.childrenIfPresent_eq)
  exact List.map_filterMap_sublist (fun _ _ => PlatformDirectory.path_ofPath?) _

/-- The platform directories of a developer directory are the entries of `Platforms` that are named
like one, each of them once, and strictly increasing by path. The order in which `Platforms`
delivers its entries does not matter. Each of them is where its platform has its directory, so no
two are for the same platform. -/
theorem platformDirectories_of_lists {w : World} {developer : Path} {names : List Path.Component}
    (h : w.Lists (developer.child Platform.platformsDirectory) names) :
    ∃ ds, w.platformDirectories developer = .ok ds ∧
      (ds.map (·.path)).Perm ((names.filter fun c => Platform.IsDirectoryName c.text).map
        (developer.child Platform.platformsDirectory).child) ∧
      ds.Pairwise (fun d e => d.path < e.path) ∧
      (∀ (w' : World) (names' : List Path.Component),
        w'.Lists (developer.child Platform.platformsDirectory) names' → names.Perm names' →
          w'.platformDirectories developer = .ok ds) ∧
      (∀ d ∈ ds, d.path = d.platform.pathIn developer) ∧
      ∀ d ∈ ds, ∀ e ∈ ds, d.platform = e.platform → d = e := by
  have hds := platformDirectories_eq h
  refine ⟨_, hds, paths_platformDirectories_perm h hds, platformDirectories_pairwise hds,
    fun w' names' h' hperm => ?_, fun d hd => ?_, fun d hd e he hplatform => ?_⟩
  · rw [← platformDirectories_eq_of_perm h h' hperm, hds]
  · obtain ⟨p, -, rfl⟩ := (mem_platformDirectories_iff h hds).mp hd
    rfl
  · obtain ⟨p, -, rfl⟩ := (mem_platformDirectories_iff h hds).mp hd
    obtain ⟨q, -, rfl⟩ := (mem_platformDirectories_iff h hds).mp he
    have hpq : p = q := hplatform
    rw [hpq]

end World

/-- Platforms, one of them without a name, and entries that are none. -/
def mixedEntries : List Path.Component :=
  [⟨"iPhoneOS.platform", by decide⟩, ⟨"Icon", by decide⟩, ⟨".platform", by decide⟩,
    ⟨"Watch.OS.platform", by decide⟩, ⟨"WatchOS.platform", by decide⟩]

/-- A developer directory `/dev` with some entries in `Platforms`. -/
def platformsWorld (entries : List Path.Component) : World :=
  .ofTree [(⟨"dev", by decide⟩, .developerTree (entries.map (·, [])))]

theorem World.platformDirectories_of_lists_mixed :
    (platformsWorld mixedEntries).Lists (.ofString "/dev/Platforms") mixedEntries ∧
      (platformsWorld mixedEntries.reverse).Lists (.ofString "/dev/Platforms")
        mixedEntries.reverse ∧
      ∃ ds, (platformsWorld mixedEntries).platformDirectories (.ofString "/dev") = .ok ds ∧
        (platformsWorld mixedEntries.reverse).platformDirectories (.ofString "/dev") = .ok ds ∧
        ds.map (·.path) = [.ofString "/dev/Platforms/.platform",
          .ofString "/dev/Platforms/WatchOS.platform",
          .ofString "/dev/Platforms/iPhoneOS.platform"] := by
  have hplatforms : (Path.ofString "/dev").child Platform.platformsDirectory =
      .ofString "/dev/Platforms" := by decide +kernel
  have hlists : (platformsWorld mixedEntries).Lists (.ofString "/dev/Platforms") mixedEntries :=
    .listed (by decide +kernel)
  have hreversed : (platformsWorld mixedEntries.reverse).Lists (.ofString "/dev/Platforms")
      mixedEntries.reverse := .listed (by decide +kernel)
  have hdev : (platformsWorld mixedEntries).Lists
      ((Path.ofString "/dev").child Platform.platformsDirectory) mixedEntries :=
    hplatforms ▸ hlists
  obtain ⟨ds, hds, hpaths, hsorted, hsame, -, -⟩ := platformDirectories_of_lists hdev
  have hreversedDs := hsame _ _ (hplatforms ▸ hreversed) (List.reverse_perm mixedEntries).symm
  refine ⟨hlists, hreversed, ds, hds, hreversedDs, ?_⟩
  refine (hpaths.trans (by decide +kernel)).eq_of_pairwise (fun p q _ _ hpq hqp => ?_)
    (List.pairwise_map.mpr hsorted) (by decide +kernel)
  exact absurd hqp (lt_asymm (α := List String) hpq)

end SdkScout
