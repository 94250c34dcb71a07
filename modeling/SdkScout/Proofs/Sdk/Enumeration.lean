import Mathlib.Data.List.Sort
import SdkScout.Proofs.PlatformDirectory

/-!
# Enumerations are all or nothing

A child of a directory adds itself to an enumeration if it is an SDK, it adds nothing if it is foreign,
and otherwise it breaks the enumeration (`Sdk.Adds`, `Sdk.Breaks`). So the SDKs of a directory are what
its children add, and the failure is that of the first child that breaks (`Sdk.Holds`, `Sdk.Fails`);
the platforms of a developer directory are gone through in the same way (`Sdk.PlatformsHold`,
`Sdk.PlatformsFail`). Foreign children leave no trace (`Sdk.inDirectory_eq_outcomes`).
-/

namespace SdkScout

namespace World

variable {w : World} {directory developer : Path}

/-- A directory that is there cannot be listed. -/
structure Unlistable (w : World) (directory : Path) (failure : Failure) : Prop where
  fails : w.children directory = .error failure
  present : ∀ e : SystemError, failure = .system e → e.code ≠ 2

/-- A listing fails where a directory is there and cannot be listed. -/
theorem childrenIfPresent_eq_error_iff {failure : Failure} :
    w.childrenIfPresent directory = .error failure ↔ w.Unlistable directory failure := by
  constructor
  · intro h
    rw [childrenIfPresent] at h
    split at h
    · cases h
    · rename_i hpresent
      refine ⟨h, ?_⟩
      rintro ⟨code, text⟩ rfl rfl
      exact hpresent text h
  · rintro ⟨hfails, hpresent⟩
    rw [childrenIfPresent, hfails]
    split
    · rename_i heq
      cases heq
      exact absurd rfl (hpresent _ rfl)
    · rfl

theorem childrenIfPresent_eq_ok_iff_lists {cs : List Path} :
    w.childrenIfPresent directory = .ok cs ↔
      ∃ names, w.Lists directory names ∧ cs = names.map directory.child := by
  constructor
  · intro h
    rcases childrenIfPresent_eq_ok_iff.mp h with ⟨hmissing, rfl⟩ | hchildren
    · refine ⟨[], .missing (e := ⟨2, directory.toString⟩) ?_ rfl, rfl⟩
      rw [children, hmissing]
      rfl
    · obtain ⟨access, entries, -, -, rfl⟩ := children_eq_ok_iff.mp hchildren
      exact ⟨_, .listed hchildren, rfl⟩
  · rintro ⟨names, hlists, rfl⟩
    exact hlists.childrenIfPresent_eq

/-- The platforms that are listed in a developer directory, by the paths of their directories. -/
inductive ListsPlatforms (w : World) (developer : Path) : List Platform → Prop
  | listed {names : List Path.Component} {platforms : List Platform} :
    w.Lists (developer.child Platform.platformsDirectory) names →
    (∀ p, p ∈ platforms ↔ p.IsListed names) →
    (platforms.Pairwise fun p q => p.pathIn developer < q.pathIn developer) →
    ListsPlatforms w developer platforms

/-- A directory has one listing. -/
theorem Lists.unique {names names' : List Path.Component} (h : w.Lists directory names)
    (h' : w.Lists directory names') : names = names' := by
  have heq := h.childrenIfPresent_eq.symm.trans h'.childrenIfPresent_eq
  exact List.map_injective_iff.mpr directory.child_injective (Except.ok.inj heq)

theorem ListsPlatforms.unique {ps qs : List Platform} (h : w.ListsPlatforms developer ps)
    (h' : w.ListsPlatforms developer qs) : ps = qs := by
  obtain ⟨hlists, hps, hpsSorted⟩ := h
  obtain ⟨hlists', hqs, hqsSorted⟩ := h'
  cases hlists.unique hlists'
  have hasymm : Std.Asymm fun p q : Platform => p.pathIn developer < q.pathIn developer :=
    ⟨fun _ _ => lt_asymm (α := List String)⟩
  exact hpsSorted.eq_of_mem_iff hqsSorted fun p => (hps p).trans (hqs p).symm

/-- The platforms are those that are listed. -/
theorem platformDirectories_eq_ok_iff {ds : List PlatformDirectory} :
    w.platformDirectories developer = .ok ds ↔ ∃ platforms,
      w.ListsPlatforms developer platforms ∧ ds = platforms.map (Platform.directoryIn developer) := by
  constructor
  · intro h
    obtain ⟨cs, hcs, -⟩ := Except.bind_eq_ok_iff.mp h
    obtain ⟨names, hlists, rfl⟩ := childrenIfPresent_eq_ok_iff_lists.mp hcs
    obtain ⟨platforms, hds, hmem, hsorted⟩ := exists_platforms hlists
    cases hds.symm.trans h
    exact ⟨platforms, .listed hlists hmem hsorted, rfl⟩
  · rintro ⟨platforms, hplatforms, rfl⟩
    obtain ⟨hlists, -, -⟩ := id hplatforms
    obtain ⟨others, hds, hmem, hsorted⟩ := exists_platforms hlists
    rw [hds, hplatforms.unique (.listed hlists hmem hsorted)]

theorem platformDirectories_eq_error_iff {failure : Failure} :
    w.platformDirectories developer = .error failure ↔
      w.Unlistable (developer.child Platform.platformsDirectory) failure := by
  rw [← childrenIfPresent_eq_error_iff, platformDirectories, Except.bind_eq_error_iff]
  simp

end World

namespace Sdk

variable {w : World} {kind : SdkKind} {failure : Failure}

/-- What a child of a directory adds to an enumeration: itself if it is an SDK. A foreign child adds
nothing. -/
inductive Adds (w : World) (kind : SdkKind) (path : Path) : List Sdk → Prop
  | sdk {sdk : Sdk} : ofDirectory w path kind = .ok sdk → Adds w kind path [sdk]
  | foreign {named : Path} : ofDirectory w path kind = .error (.notSdk named) → Adds w kind path []

/-- A child of a directory fails, and not only because it is foreign. -/
structure Breaks (w : World) (kind : SdkKind) (path : Path) (failure : Failure) : Prop where
  fails : ofDirectory w path kind = .error failure
  notForeign : ∀ named, failure ≠ .notSdk named

/-- The SDKs of a directory: what its children add, in the order of the listing. -/
inductive Holds (w : World) (kind : SdkKind) (directory : Path) : List Sdk → Prop
  | listed {names : List Path.Component} {found : List (List Sdk)} :
    w.Lists directory names →
    List.Forall₂ (fun c => Adds w kind (directory.child c)) names found →
    Holds w kind directory found.flatten

/-- A directory cannot be listed, or one of its children is the first to break the enumeration. What
comes after that child may be anything. -/
inductive Fails (w : World) (kind : SdkKind) (directory : Path) (failure : Failure) : Prop
  | listing : w.Unlistable directory failure → Fails w kind directory failure
  | child {names before after : List Path.Component} {c : Path.Component} :
    w.Lists directory names →
    names = before ++ c :: after →
    (∀ b ∈ before, ∃ found, Adds w kind (directory.child b) found) →
    Breaks w kind (directory.child c) failure →
    Fails w kind directory failure

/-- The SDKs of a developer directory: those of its platforms, in the order of the platforms. -/
inductive PlatformsHold (w : World) (kind : SdkKind) (developer : Path) : List Sdk → Prop
  | listed {platforms : List Platform} {found : List (List Sdk)} :
    w.ListsPlatforms developer platforms →
    List.Forall₂ (fun p => Holds w kind (p.directoryIn developer).sdksPath) platforms found →
    PlatformsHold w kind developer found.flatten

/-- The platforms of a developer directory cannot be listed, or one of them is the first to fail. What
comes after that platform may be anything. -/
inductive PlatformsFail (w : World) (kind : SdkKind) (developer : Path) (failure : Failure) : Prop
  | listing : w.Unlistable (developer.child Platform.platformsDirectory) failure →
    PlatformsFail w kind developer failure
  | platform {platforms before after : List Platform} {p : Platform} :
    w.ListsPlatforms developer platforms →
    platforms = before ++ p :: after →
    (∀ q ∈ before, ∃ sdks, Holds w kind (q.directoryIn developer).sdksPath sdks) →
    Fails w kind (p.directoryIn developer).sdksPath failure →
    PlatformsFail w kind developer failure

/-! ## One directory -/

/-- What a child adds, or the failure that it breaks the enumeration with. -/
def contribution (w : World) (kind : SdkKind) (path : Path) : Except Failure (List Sdk) :=
  match ofDirectory w path kind with
  | .ok sdk => .ok [sdk]
  | .error (.notSdk _) => .ok []
  | .error failure => .error failure

/-- What a path adds to an enumeration, told from the world. -/
theorem contribution_eq_ok_iff {path : Path} {found : List Sdk} :
    contribution w kind path = .ok found ↔ Adds w kind path found := by
  constructor
  · intro h
    rw [contribution] at h
    split at h
    · cases h
      exact .sdk ‹_›
    · cases h
      exact .foreign ‹_›
    · cases h
  · rintro (h | h) <;> rw [contribution, h]

theorem contribution_eq_error_iff {path : Path} :
    contribution w kind path = .error failure ↔ Breaks w kind path failure := by
  constructor
  · intro h
    rw [contribution] at h
    split at h
    · cases h
    · cases h
    · rename_i hnotForeign hfails
      cases h
      exact ⟨hfails, hnotForeign⟩
  · rintro ⟨hfails, hnotForeign⟩
    rw [contribution, hfails]
    cases failure with
    | notSdk named => exact absurd rfl (hnotForeign named)
    | _ => rfl

/-- An enumeration collects what the paths add. -/
theorem among_eq_mapM (paths : List Path) :
    among w kind paths = (paths.mapM (contribution w kind)).map List.flatten := by
  induction paths with
  | nil => rfl
  | cons path paths ih =>
    rw [among, ih, List.mapM_cons, contribution]
    cases paths.mapM (contribution w kind) <;> split <;> simp_all

section
variable {directory : Path} {names : List Path.Component} {sdks : List Sdk}

theorem inDirectory_eq_mapM (h : w.Lists directory names) : inDirectory w kind directory =
    (names.mapM fun c => contribution w kind (directory.child c)).map List.flatten := by
  rw [inDirectory, h.childrenIfPresent_eq, Except.ok_bind, among_eq_mapM, List.mapM_map]
  rfl

theorem inDirectory_eq_ok_iff_holds :
    inDirectory w kind directory = .ok sdks ↔ Holds w kind directory sdks := by
  constructor
  · intro h
    obtain ⟨cs, hcs, -⟩ := Except.bind_eq_ok_iff.mp h
    obtain ⟨names, hlists, -⟩ := World.childrenIfPresent_eq_ok_iff_lists.mp hcs
    rw [inDirectory_eq_mapM hlists] at h
    simp only [Except.map_eq_ok_iff, Except.mapM_eq_ok_iff, contribution_eq_ok_iff] at h
    obtain ⟨found, hfound, rfl⟩ := h
    exact .listed hlists hfound
  · rintro ⟨hlists, hfound⟩
    rw [inDirectory_eq_mapM hlists]
    simp only [Except.map_eq_ok_iff, Except.mapM_eq_ok_iff, contribution_eq_ok_iff]
    exact ⟨_, hfound, rfl⟩

/-- An enumeration fails with its first entry that breaks it, or with the listing. -/
theorem inDirectory_eq_error_iff :
    inDirectory w kind directory = .error failure ↔ Fails w kind directory failure := by
  constructor
  · intro h
    rcases Except.bind_eq_error_iff.mp h with hlisting | ⟨cs, hcs, -⟩
    · exact .listing (World.childrenIfPresent_eq_error_iff.mp hlisting)
    · obtain ⟨names, hlists, -⟩ := World.childrenIfPresent_eq_ok_iff_lists.mp hcs
      rw [inDirectory_eq_mapM hlists] at h
      simp only [Except.map_eq_error_iff, Except.mapM_eq_error_iff, contribution_eq_ok_iff,
        contribution_eq_error_iff] at h
      obtain ⟨before, c, after, hsplit, hbefore, hbreaks⟩ := h
      exact .child hlists hsplit hbefore hbreaks
  · rintro (hlisting | ⟨hlists, hsplit, hbefore, hbreaks⟩)
    · exact Except.bind_eq_error_iff.mpr (.inl (World.childrenIfPresent_eq_error_iff.mpr hlisting))
    · rw [inDirectory_eq_mapM hlists]
      simp only [Except.map_eq_error_iff, Except.mapM_eq_error_iff, contribution_eq_ok_iff,
        contribution_eq_error_iff]
      exact ⟨_, _, _, hsplit, hbefore, hbreaks⟩

end

/-! ## All platforms -/

section
variable {developer : Path} {platforms : List Platform} {sdks : List Sdk}

theorem inDeveloperDirectory_of_platforms (h : w.ListsPlatforms developer platforms) :
    inDeveloperDirectory w kind developer =
      (platforms.mapM fun p => inDirectory w kind (p.directoryIn developer).sdksPath).map
        List.flatten := by
  rw [inDeveloperDirectory_eq_mapM (World.platformDirectories_eq_ok_iff.mpr ⟨platforms, h, rfl⟩),
    List.mapM_map]
  rfl

theorem inDeveloperDirectory_eq_ok_iff :
    inDeveloperDirectory w kind developer = .ok sdks ↔ PlatformsHold w kind developer sdks := by
  constructor
  · intro h
    obtain ⟨ds, hds, -⟩ := Except.bind_eq_ok_iff.mp h
    obtain ⟨platforms, hplatforms, -⟩ := World.platformDirectories_eq_ok_iff.mp hds
    rw [inDeveloperDirectory_of_platforms hplatforms] at h
    simp only [Except.map_eq_ok_iff, Except.mapM_eq_ok_iff, inDirectory_eq_ok_iff_holds] at h
    obtain ⟨found, hfound, rfl⟩ := h
    exact .listed hplatforms hfound
  · rintro ⟨hplatforms, hfound⟩
    rw [inDeveloperDirectory_of_platforms hplatforms]
    simp only [Except.map_eq_ok_iff, Except.mapM_eq_ok_iff, inDirectory_eq_ok_iff_holds]
    exact ⟨_, hfound, rfl⟩

theorem inDeveloperDirectory_eq_error_iff :
    inDeveloperDirectory w kind developer = .error failure ↔
      PlatformsFail w kind developer failure := by
  constructor
  · intro h
    rcases Except.bind_eq_error_iff.mp h with hlisting | ⟨ds, hds, -⟩
    · exact .listing (World.platformDirectories_eq_error_iff.mp hlisting)
    · obtain ⟨platforms, hplatforms, -⟩ := World.platformDirectories_eq_ok_iff.mp hds
      rw [inDeveloperDirectory_of_platforms hplatforms] at h
      simp only [Except.map_eq_error_iff, Except.mapM_eq_error_iff, inDirectory_eq_ok_iff_holds,
        inDirectory_eq_error_iff] at h
      obtain ⟨before, p, after, hsplit, hbefore, hfails⟩ := h
      exact .platform hplatforms hsplit hbefore hfails
  · rintro (hlisting | ⟨hplatforms, hsplit, hbefore, hfails⟩)
    · exact Except.bind_eq_error_iff.mpr
        (.inl (World.platformDirectories_eq_error_iff.mpr hlisting))
    · rw [inDeveloperDirectory_of_platforms hplatforms]
      simp only [Except.map_eq_error_iff, Except.mapM_eq_error_iff, inDirectory_eq_ok_iff_holds,
        inDirectory_eq_error_iff]
      exact ⟨_, _, _, hsplit, hbefore, hfails⟩

end

/-! ## Foreign children -/

/-- A child that is no SDK. -/
def isForeign : Except Failure Sdk → Bool
  | .error (.notSdk _) => true
  | _ => false

/-- What comes of the children of a directory, without the foreign ones. -/
def outcomes (w : World) (kind : SdkKind) (directory : Path) :
    Except Failure (List (Except Failure Sdk)) :=
  (w.childrenIfPresent directory).map fun cs =>
    (cs.map fun path => ofDirectory w path kind).filter fun outcome => !isForeign outcome

theorem among_eq_mapM_id (paths : List Path) : among w kind paths =
    ((paths.map fun path => ofDirectory w path kind).filter fun outcome => !isForeign outcome).mapM
      id := by
  induction paths with
  | nil => rfl
  | cons path paths ih =>
    rw [among, ih, List.map_cons, List.filter_cons]
    cases ofDirectory w path kind with
    | ok sdk => simp [isForeign]
    | error failure => cases failure <;> rfl

/-- The enumeration of a directory sees nothing of its foreign children. -/
theorem inDirectory_eq_outcomes (directory : Path) :
    inDirectory w kind directory = outcomes w kind directory >>= (·.mapM id) := by
  rw [inDirectory, outcomes]
  cases w.childrenIfPresent directory with
  | error _ => rfl
  | ok cs => exact among_eq_mapM_id cs

/-- Nothing counts but the platforms and the outcomes of what they hold. -/
theorem inDeveloperDirectory_congr {w' : World} {developer : Path}
    (hdirectories : w'.platformDirectories developer = w.platformDirectories developer)
    (houtcomes : ∀ platforms, w.ListsPlatforms developer platforms → ∀ p ∈ platforms,
      outcomes w' kind (p.directoryIn developer).sdksPath =
        outcomes w kind (p.directoryIn developer).sdksPath) :
    inDeveloperDirectory w' kind developer = inDeveloperDirectory w kind developer := by
  cases hds : w.platformDirectories developer with
  | error _ =>
    rw [inDeveloperDirectory, inDeveloperDirectory, hdirectories, hds, Except.error_bind,
      Except.error_bind]
  | ok ds =>
    obtain ⟨platforms, hplatforms, rfl⟩ := World.platformDirectories_eq_ok_iff.mp hds
    rw [inDeveloperDirectory_eq_mapM hds, inDeveloperDirectory_eq_mapM (hdirectories.trans hds)]
    refine congrArg (Except.map List.flatten) (Except.mapM_congr fun d hd => ?_)
    obtain ⟨p, hp, rfl⟩ := List.mem_map.mp hd
    rw [inDirectory_eq_outcomes, inDirectory_eq_outcomes, houtcomes platforms hplatforms p hp]

/-- The enumeration of a developer directory is all or nothing. It has a result exactly if `Platforms`
and the SDK directories of all platforms are listed or missing, and every child is an SDK or foreign;
then it is what the children add, platforms by path and children in the order of the listing. It has a
failure exactly if a listing or a child fails with it and all before that is in order, whatever comes
after it. Foreign children are as good as not there. -/
theorem inDeveloperDirectory_all_or_nothing (w : World) (kind : SdkKind) (developer : Path) :
    (∀ sdks, inDeveloperDirectory w kind developer = .ok sdks ↔
      PlatformsHold w kind developer sdks) ∧
    (∀ failure, inDeveloperDirectory w kind developer = .error failure ↔
      PlatformsFail w kind developer failure) ∧
    ∀ w' : World, w'.platformDirectories developer = w.platformDirectories developer →
      (∀ platforms, w.ListsPlatforms developer platforms → ∀ p ∈ platforms,
        outcomes w' kind (p.directoryIn developer).sdksPath =
          outcomes w kind (p.directoryIn developer).sdksPath) →
      inDeveloperDirectory w' kind developer = inDeveloperDirectory w kind developer :=
  ⟨fun _ => inDeveloperDirectory_eq_ok_iff, fun _ => inDeveloperDirectory_eq_error_iff,
    fun _ => inDeveloperDirectory_congr⟩

end Sdk

/-- A developer directory `/tools` with two platforms. Next to the SDK of one of them, which has
unreadable settings, are other entries. -/
def brokenWorld (others : List (Path.Component × Node)) : World :=
  let sdksTree (entries : List (Path.Component × Node)) : Node := .directory {}
    [(PlatformDirectory.developer, .directory {} [(PlatformDirectory.sdks, .directory {} entries)])]
  .ofTree [(⟨"tools", by decide⟩, .directory {} [(Platform.platformsDirectory, .directory {} [
    (⟨"DriverKit.platform", by decide⟩, sdksTree [(⟨"DriverKit23.sdk", by decide⟩, .directory {} [])]),
    (⟨"AppleTVOS.platform", by decide⟩, sdksTree (others ++ [(⟨"AppleTVOS17.sdk", by decide⟩,
      .directory {} [(Settings.jsonName, .file (.ok (Text.Utf8.encode "\x7b".toList)))])]))])])]

def readme : List (Path.Component × Node) := [(⟨"README.txt", by decide⟩, .file (.ok []))]

theorem brokenWorld_listsPlatforms (others : List (Path.Component × Node)) :
    (brokenWorld others).ListsPlatforms (.ofString "/tools") [⟨"AppleTVOS"⟩, ⟨"DriverKit"⟩] := by
  have hlists : (brokenWorld others).Lists ((Path.ofString "/tools").child Platform.platformsDirectory)
      [⟨"DriverKit.platform", by decide⟩, ⟨"AppleTVOS.platform", by decide⟩] := .listed rfl
  refine .listed hlists (fun p => ?_) (by decide +kernel)
  rw [Platform.isListed_iff_mem]
  exact List.Perm.mem_iff (by decide +kernel)

theorem brokenWorld_outcomes : ∀ others ∈ [[], readme], ∀ p ∈ [Platform.mk "AppleTVOS", ⟨"DriverKit"⟩],
    Sdk.outcomes (brokenWorld others) .parsed (p.directoryIn (.ofString "/tools")).sdksPath =
      .ok (if p = ⟨"AppleTVOS"⟩ then [.error (.settings
        "/tools/Platforms/AppleTVOS.platform/Developer/SDKs/AppleTVOS17.sdk/SDKSettings.json" .unreadable)]
        else []) := by
  intro others hothers p hp
  have h : (Sdk.outcomes (brokenWorld others) .parsed
      (p.directoryIn (.ofString "/tools")).sdksPath).map (·.map Except.failure?) =
      .ok (if p = ⟨"AppleTVOS"⟩ then [some (.settings
        "/tools/Platforms/AppleTVOS.platform/Developer/SDKs/AppleTVOS17.sdk/SDKSettings.json" .unreadable)]
        else []) := by
    revert others p
    decide +kernel
  obtain ⟨outcomes, houtcomes, hfailures⟩ := Except.map_eq_ok_iff.mp h
  rw [houtcomes]
  by_cases htv : p = ⟨"AppleTVOS"⟩
  · rw [if_pos htv] at hfailures ⊢
    simpa [List.map_eq_singleton_iff, Except.failure?_eq_some_iff] using hfailures
  · rw [if_neg htv] at hfailures ⊢
    simpa using hfailures

/-- By their names both SDKs are found, with settings the first one breaks the enumeration, and what
else is next to it does not matter. -/
theorem Sdk.inDeveloperDirectory_all_or_nothing_broken :
    (∃ sdks, inDeveloperDirectory (brokenWorld readme) .unparsed (.ofString "/tools") = .ok sdks ∧
      sdks.map (·.path) = [.ofString "/tools/Platforms/AppleTVOS.platform/Developer/SDKs/AppleTVOS17.sdk",
        .ofString "/tools/Platforms/DriverKit.platform/Developer/SDKs/DriverKit23.sdk"]) ∧
    inDeveloperDirectory (brokenWorld readme) .parsed (.ofString "/tools") =
      .error (.settings
        "/tools/Platforms/AppleTVOS.platform/Developer/SDKs/AppleTVOS17.sdk/SDKSettings.json" .unreadable) ∧
    inDeveloperDirectory (brokenWorld []) .parsed (.ofString "/tools") =
      inDeveloperDirectory (brokenWorld readme) .parsed (.ofString "/tools") := by
  have hplatforms := brokenWorld_listsPlatforms readme
  obtain ⟨holds, -, -⟩ :=
    inDeveloperDirectory_all_or_nothing (brokenWorld readme) .unparsed (.ofString "/tools")
  obtain ⟨-, fails, congr⟩ :=
    inDeveloperDirectory_all_or_nothing (brokenWorld readme) .parsed (.ofString "/tools")
  refine ⟨?_, ?_, ?_⟩
  · have htv : ((inDirectory (brokenWorld readme) .unparsed
        (Platform.directoryIn (.ofString "/tools") ⟨"AppleTVOS"⟩).sdksPath).map
          (·.map (·.path))).toOption =
        some [.ofString "/tools/Platforms/AppleTVOS.platform/Developer/SDKs/AppleTVOS17.sdk"] := by
      decide +kernel
    have hkit : ((inDirectory (brokenWorld readme) .unparsed
        (Platform.directoryIn (.ofString "/tools") ⟨"DriverKit"⟩).sdksPath).map
          (·.map (·.path))).toOption =
        some [.ofString "/tools/Platforms/DriverKit.platform/Developer/SDKs/DriverKit23.sdk"] := by
      decide +kernel
    obtain ⟨tv, htv, htvPaths⟩ := Except.map_eq_ok_iff.mp (Except.toOption_eq_some_iff.mp htv)
    obtain ⟨kit, hkit, hkitPaths⟩ :=
      Except.map_eq_ok_iff.mp (Except.toOption_eq_some_iff.mp hkit)
    refine ⟨_, (holds _).mpr (.listed hplatforms (.cons (inDirectory_eq_ok_iff_holds.mp htv)
      (.cons (inDirectory_eq_ok_iff_holds.mp hkit) .nil))), ?_⟩
    simp [htvPaths, hkitPaths]
  · refine (fails _).mpr (.platform hplatforms (List.nil_append _).symm (by simp) ?_)
    rw [← inDirectory_eq_error_iff, ← Except.failure?_eq_some_iff]
    decide +kernel
  · refine congr (brokenWorld []) ?_ fun platforms h p hp => ?_
    · rw [World.platformDirectories_eq_ok_iff.mpr ⟨_, hplatforms, rfl⟩,
        World.platformDirectories_eq_ok_iff.mpr ⟨_, brokenWorld_listsPlatforms [], rfl⟩]
    · cases h.unique hplatforms
      rw [brokenWorld_outcomes [] (by simp) p hp, brokenWorld_outcomes readme (by simp) p hp]

end SdkScout
