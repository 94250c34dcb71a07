import Mathlib.Data.List.Nodup
import SdkScout.Proofs.FirstOccurrence
import SdkScout.Proofs.Outcome
import SdkScout.Proofs.PathOrder

/-!
# Listings

What is read off the listing of a directory: its children have different names
(`World.childrenIfPresent_eq_map`), the platform directories among them are strictly increasing by
path (`World.platformDirectories_pairwise`), and the SDKs among them keep the order of the listing
(`Sdk.paths_inDirectory_sublist`). An enumeration fails with its listing or with the first entry that
blocks it (`Sdk.blocking?`).
-/

namespace List

variable {α β : Type} {f : α → Option β} {g : β → α}

/-- A partial map that `g` undoes only leaves elements out. -/
theorem map_filterMap_eq_filter (h : ∀ a b, f a = some b → g b = a) (xs : List α) :
    (xs.filterMap f).map g = xs.filter fun a => (f a).isSome := by
  induction xs with
  | nil => rfl
  | cons x xs ih =>
    cases hf : f x with
    | none => simpa [hf] using ih
    | some b => simpa [hf, h x b hf] using ih

theorem map_filterMap_sublist (h : ∀ a b, f a = some b → g b = a) (xs : List α) :
    ((xs.filterMap f).map g).Sublist xs := by
  rw [map_filterMap_eq_filter h]
  exact filter_sublist

end List

namespace SdkScout

/-- A refusal is never taken for something that is missing. -/
theorem Refusal.code_ne_two (refusal : Refusal) : refusal.code ≠ 2 := fun h =>
  refusal.notAbsence (h ▸ by decide)

theorem Node.entry?_eq_none_iff {name : String} {entries : List (Path.Component × Node)} :
    entry? name entries = none ↔ ∀ c ∈ names entries, c.text ≠ name := by
  simp [names, entry?, List.find?_eq_none]

namespace World

/-- A directory delivers its names, each of them once, unless the system refuses to list it. -/
theorem children_eq_ok_iff {w : World} {path : Path} {cs : List Path} :
    w.children path = .ok cs ↔ ∃ access entries,
      w.find true path.toString = .ok (.directory access entries) ∧ access.listingRefusal? = none ∧
        cs = (Node.names entries).map path.child := by
  rw [children]
  cases w.find true path.toString with
  | error _ => simp
  | ok node =>
    cases node with
    | directory access entries => cases h : access.listingRefusal? <;> simp [h, eq_comm]
    | _ => simp

/-- Only a missing directory is taken for an empty one. -/
theorem childrenIfPresent_of_error {w : World} {path : Path} {code : Nat} (hcode : code ≠ 2)
    (h : w.children path = .error (.system ⟨code, path.toString⟩)) :
    w.childrenIfPresent path = .error (.system ⟨code, path.toString⟩) := by
  rw [childrenIfPresent, h]
  split
  · rename_i heq
    cases heq
    exact absurd rfl hcode
  · rfl

theorem childrenIfPresent_eq_ok_iff {w : World} {path : Path} {cs : List Path} :
    w.childrenIfPresent path = .ok cs ↔
      w.find true path.toString = .error .missing ∧ cs = [] ∨ w.children path = .ok cs := by
  rw [childrenIfPresent, children]
  cases w.find true path.toString with
  | ok node =>
    cases node with
    | directory access entries =>
      cases h : access.listingRefusal? with
      | none => simp [h]
      | some refusal =>
        have hcode := refusal.code_ne_two
        split <;> simp_all
    | _ => simp
  | error o =>
    cases o with
    | refused refusal =>
      have hcode := refusal.code_ne_two
      simp only [Obstacle.failure]
      split <;> simp_all
    | _ => simp [Obstacle.failure, eq_comm]

/-- The children are the path with each name once. -/
theorem childrenIfPresent_eq_map {w : World} {path : Path} {cs : List Path}
    (h : w.childrenIfPresent path = .ok cs) :
    ∃ names : List Path.Component, names.Nodup ∧ cs = names.map path.child := by
  rcases childrenIfPresent_eq_ok_iff.mp h with ⟨-, rfl⟩ | hchildren
  · exact ⟨[], .nil, rfl⟩
  · obtain ⟨access, entries, -, -, rfl⟩ := children_eq_ok_iff.mp hchildren
    exact ⟨_, List.nodup_eraseDups _, rfl⟩

theorem childrenIfPresent_nodup {w : World} {path : Path} {cs : List Path}
    (h : w.childrenIfPresent path = .ok cs) : cs.Nodup := by
  obtain ⟨names, hnames, rfl⟩ := childrenIfPresent_eq_map h
  exact hnames.map path.child_injective

/-- The names that a directory delivers, in its order; one that is missing has none. -/
inductive Lists (w : World) (directory : Path) : List Path.Component → Prop
  | listed {names : List Path.Component} :
    w.children directory = .ok (names.map directory.child) → Lists w directory names
  | missing {e : SystemError} :
    w.children directory = .error (.system e) → e.code = 2 → Lists w directory []

theorem Lists.childrenIfPresent_eq {w : World} {directory : Path} {names : List Path.Component}
    (h : w.Lists directory names) :
    w.childrenIfPresent directory = .ok (names.map directory.child) := by
  cases h with
  | listed hchildren => exact childrenIfPresent_eq_ok_iff.mpr (.inr hchildren)
  | @missing e hchildren hcode =>
    obtain ⟨code, text⟩ := e
    cases hcode
    rw [childrenIfPresent, hchildren]
    rfl

end World

namespace PlatformDirectory

theorem path_ofPath? {path : Path} {d : PlatformDirectory} (h : ofPath? path = some d) :
    d.path = path := by
  obtain ⟨platform, -, rfl⟩ := Option.map_eq_some_iff.mp h
  rfl

/-- Directories of SDKs tell their platforms apart. -/
theorem sdksPath_inj {d e : PlatformDirectory} : d.sdksPath = e.sdksPath ↔ d.path = e.path := by
  simp [sdksPath, Path.child_inj]

end PlatformDirectory

namespace World

variable {w : World} {developer : Path} {ds : List PlatformDirectory}

/-- Platforms come strictly increasing by path, so none comes twice. -/
theorem platformDirectories_pairwise (h : w.platformDirectories developer = .ok ds) :
    ds.Pairwise fun d e => d.path < e.path := by
  obtain ⟨cs, hcs, hds⟩ := Except.bind_eq_ok_iff.mp h
  cases hds
  refine Path.pairwise_lt_sortOn (.sublist ?_ (childrenIfPresent_nodup hcs))
  exact List.map_filterMap_sublist (fun _ _ => PlatformDirectory.path_ofPath?) cs

theorem sdksPaths_nodup (h : w.platformDirectories developer = .ok ds) :
    (ds.map (·.sdksPath)).Nodup := by
  refine List.pairwise_map.mpr ((platformDirectories_pairwise h).imp fun {d e} hlt heq => ?_)
  rw [PlatformDirectory.sdksPath_inj.mp heq] at hlt
  exact lt_irrefl e.path.key hlt

end World

namespace Sdk

variable {w : World} {kind : SdkKind}

section
variable {path : Path} {sdkPath : SdkPath} {settings : Settings} {failure : Failure}

/-- The name alone can rule out an SDK, whatever the directory holds. -/
theorem ofDirectory_eq_notSdk (hpath : SdkPath.ofPath? path = none) :
    ofDirectory w path kind = .error (.notSdk path) := by
  cases kind <;> rw [ofDirectory, pathOf, hpath] <;> rfl

variable (hpath : SdkPath.ofPath? path = some sdkPath)
include hpath

/-- Without settings, all but the link is told from the name. -/
theorem ofDirectory_unparsed_eq :
    ofDirectory w path .unparsed = (w.isSymlink path).map fun isSymlink =>
      { path, isSymlink, platform := sdkPath.platform, detail := .unparsed sdkPath.version } := by
  rw [ofDirectory, pathOf, hpath, Except.ok_bind]
  cases w.isSymlink path <;> rfl

theorem ofDirectory_parsed_of_error (h : Settings.ofDirectory w path = .error failure) :
    ofDirectory w path .parsed = .error failure := by
  rw [ofDirectory, pathOf, hpath, Except.ok_bind, h]
  rfl

/-- A directory without settings is no SDK if settings are asked for. -/
theorem ofDirectory_parsed_of_none (h : Settings.ofDirectory w path = .ok none) :
    ofDirectory w path .parsed = .error (.notSdk path) := by
  rw [ofDirectory, pathOf, hpath, Except.ok_bind, h]
  rfl

theorem ofDirectory_parsed_of_some (h : Settings.ofDirectory w path = .ok (some settings)) :
    ofDirectory w path .parsed =
      settledPlatform sdkPath.platform settings.platformName >>= fun platform =>
        (w.isSymlink path).map fun isSymlink =>
          { path, isSymlink, platform, detail := .parsed settings } := by
  rw [ofDirectory, pathOf, hpath, Except.ok_bind, h, Except.ok_bind]
  cases w.isSymlink path <;> rfl

end

/-- An SDK keeps the path that it was read from. -/
theorem path_ofDirectory {path : Path} {sdk : Sdk} (h : ofDirectory w path kind = .ok sdk) :
    sdk.path = path := by
  cases kind with
  | unparsed =>
    obtain ⟨_, -, h⟩ := Except.bind_eq_ok_iff.mp h
    obtain ⟨_, -, h⟩ := Except.bind_eq_ok_iff.mp h
    cases h
    rfl
  | parsed =>
    obtain ⟨_, -, h⟩ := Except.bind_eq_ok_iff.mp h
    obtain ⟨settings, -, h⟩ := Except.bind_eq_ok_iff.mp h
    cases settings with
    | none => cases h
    | some settings =>
      obtain ⟨_, -, h⟩ := Except.bind_eq_ok_iff.mp h
      obtain ⟨_, -, h⟩ := Except.bind_eq_ok_iff.mp h
      cases h
      rfl

variable (w kind)

/-- The failure that a path ends an enumeration with. One that is no SDK ends none. -/
def blocking? (path : Path) : Option Failure :=
  match ofDirectory w path kind with
  | .ok _ | .error (.notSdk _) => none
  | .error failure => some failure

/-- The first blocking path decides the failure, and if there is none, all SDKs are found. -/
theorem among_eq_ofFailure? (paths : List Path) :
    among w kind paths = .ofFailure? (paths.findSome? (blocking? w kind))
      (paths.filterMap fun path => (ofDirectory w path kind).toOption) := by
  induction paths with
  | nil => rfl
  | cons path paths ih =>
    rw [among, ih, List.findSome?_cons, List.filterMap_cons, blocking?]
    split
    case h_1 sdk h => cases paths.findSome? (blocking? w kind) <;> simp [h]
    case h_2 p h => simp [h]
    case h_3 failure hne h => cases failure <;> simp_all

variable {w kind}

/-- A path blocks if it fails otherwise than by being no SDK. -/
theorem blocking?_eq_some_iff {path : Path} {failure : Failure} :
    blocking? w kind path = some failure ↔
      ofDirectory w path kind = .error failure ∧ ∀ p, failure ≠ .notSdk p := by
  rw [blocking?]
  grind

theorem blocking?_eq_none_iff {path : Path} : blocking? w kind path = none ↔
    (∃ sdk, ofDirectory w path kind = .ok sdk) ∨
      ∃ p, ofDirectory w path kind = .error (.notSdk p) := by
  rw [blocking?]
  grind

/-- A directory is enumerated if it can be listed and none of its entries blocks. -/
theorem inDirectory_eq_ok_iff {directory : Path} {sdks : List Sdk} :
    inDirectory w kind directory = .ok sdks ↔ ∃ cs, w.childrenIfPresent directory = .ok cs ∧
      (∀ path ∈ cs, blocking? w kind path = none) ∧
      (cs.filterMap fun path => (ofDirectory w path kind).toOption) = sdks := by
  simp only [inDirectory, Except.bind_eq_ok_iff, among_eq_ofFailure?, Except.ofFailure?_eq_ok_iff,
    List.findSome?_eq_none_iff]

/-- A developer directory is enumerated platform by platform. -/
theorem inDeveloperDirectory_eq_mapM {developer : Path} {ds : List PlatformDirectory}
    (hds : w.platformDirectories developer = .ok ds) :
    inDeveloperDirectory w kind developer =
      (ds.mapM fun d => inDirectory w kind d.sdksPath).map List.flatten := by
  rw [inDeveloperDirectory, hds, Except.ok_bind]
  cases ds.mapM fun d => inDirectory w kind d.sdksPath <;> rfl

/-- An enumeration fails with the listing or with one of the entries. -/
theorem inDirectory_fails {directory : Path} {failure : Failure}
    (h : inDirectory w kind directory = .error failure) :
    w.childrenIfPresent directory = .error failure ∨
      ∃ path, ofDirectory w path kind = .error failure := by
  rcases Except.bind_eq_error_iff.mp h with hlisting | ⟨paths, -, h⟩
  · exact .inl hlisting
  · rw [among_eq_ofFailure?, Except.ofFailure?_eq_error_iff] at h
    obtain ⟨path, -, hblocks⟩ := List.exists_of_findSome?_eq_some h
    exact .inr ⟨path, (blocking?_eq_some_iff.mp hblocks).1⟩

/-- SDKs come in the order of the listing. -/
theorem paths_inDirectory_sublist {directory : Path} {sdks : List Sdk}
    (h : inDirectory w kind directory = .ok sdks) :
    ∃ cs, w.childrenIfPresent directory = .ok cs ∧ (sdks.map (·.path)).Sublist cs := by
  obtain ⟨cs, hcs, -, rfl⟩ := inDirectory_eq_ok_iff.mp h
  refine ⟨cs, hcs, List.map_filterMap_sublist (fun path sdk hsdk => ?_) cs⟩
  exact path_ofDirectory (Except.toOption_eq_some_iff.mp hsdk)

theorem mem_inDirectory_iff {directory : Path} {sdks : List Sdk}
    (h : inDirectory w kind directory = .ok sdks) {sdk : Sdk} :
    sdk ∈ sdks ↔ ∃ cs, w.childrenIfPresent directory = .ok cs ∧
      ∃ path ∈ cs, ofDirectory w path kind = .ok sdk := by
  obtain ⟨cs, hcs, -, rfl⟩ := inDirectory_eq_ok_iff.mp h
  simp [hcs, Except.toOption_eq_some_iff]

/-- The SDKs in a directory have different names in it. -/
theorem paths_inDirectory_eq_map {directory : Path} {sdks : List Sdk}
    (h : inDirectory w kind directory = .ok sdks) :
    ∃ names : List Path.Component, names.Nodup ∧ sdks.map (·.path) = names.map directory.child := by
  obtain ⟨cs, hcs, hsub⟩ := paths_inDirectory_sublist h
  obtain ⟨names, hnames, rfl⟩ := World.childrenIfPresent_eq_map hcs
  obtain ⟨kept, hkept, heq⟩ := List.sublist_map_iff.mp hsub
  exact ⟨kept, hnames.sublist hkept, heq⟩

end Sdk

/-! ## Small worlds -/

/-- A developer directory with some SDKs for each of some platforms. Nothing is in the SDKs. -/
def Node.developerTree (platforms : List (Path.Component × List Path.Component)) : Node :=
  let sdkTree (sdks : List Path.Component) : Node := .directory {} (sdks.map (·, .directory {} []))
  .directory {} [(Platform.platformsDirectory, .directory {} (platforms.map fun (platform, sdks) =>
    (platform, .directory {} [(PlatformDirectory.developer,
      .directory {} [(PlatformDirectory.sdks, sdkTree sdks)])])))]

/-- The entries of a directory with one node somewhere below it and nothing else. -/
def Node.entriesTo (node : Node) : List Path.Component → List (Path.Component × Node)
  | [] => []
  | [c] => [(c, node)]
  | c :: cs => [(c, .directory {} (node.entriesTo cs))]

/-- A world that consists of a tree. Nothing is in the environment, and there is no helper command. -/
def World.ofTree (entries : List (Path.Component × Node)) : World where
  root := .directory {} entries
  workingDirectory := []
  places := .standard
  environment := []
  homes := []
  helper := .notStarted 2

end SdkScout
