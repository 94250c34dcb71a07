import SdkScout.Proofs.Search.Schedule
import SdkScout.Proofs.Walk

/-!
# Directories that do not exist

A path can lead nowhere for three reasons: an entry on the way is missing, or is no directory, or is
a link in too long a chain. Only in the first case is the path listed like an empty directory; in
the others the listing fails (`Obstacle.listing`). So a directory of SDKs that is missing may be left
out of every enumeration and search, and one that is absent for another reason makes both fail.
-/

namespace List

variable {α β ε : Type} {p : α → Bool} {xs : List α}

theorem findSome?_filter_of_eq_none {f : α → Option β} (h : ∀ x ∈ xs, p x = false → f x = none) :
    (xs.filter p).findSome? f = xs.findSome? f := by
  induction xs with
  | nil => rfl
  | cons x xs ih =>
    rw [filter_cons, findSome?_cons, ← ih fun y hy => h y (mem_cons_of_mem _ hy)]
    cases hp : p x with
    | true => rw [if_pos rfl, findSome?_cons]
    | false => rw [if_neg Bool.false_ne_true, h x mem_cons_self hp]

theorem flatMap_filter_of_eq_nil {f : α → List β} (h : ∀ x ∈ xs, p x = false → f x = []) :
    (xs.filter p).flatMap f = xs.flatMap f := by
  induction xs with
  | nil => rfl
  | cons x xs ih =>
    rw [filter_cons, flatMap_cons, ← ih fun y hy => h y (mem_cons_of_mem _ hy)]
    cases hp : p x with
    | true => rw [if_pos rfl, flatMap_cons]
    | false => rw [if_neg Bool.false_ne_true, h x mem_cons_self hp, nil_append]

theorem mapM_map_flatten (f : α → Except ε (List β)) (xs : List α) :
    (xs.mapM f).map flatten = .ofFailure? (xs.findSome? fun x => (f x).failure?)
      (xs.flatMap fun x => (f x).toOption.getD []) := by
  have hflat : (xs.filterMap fun x => (f x).toOption).flatten =
      xs.flatMap fun x => (f x).toOption.getD [] := by
    induction xs with
    | nil => rfl
    | cons x xs ih => cases hx : f x <;> simp [hx, ih]
  rw [Except.mapM_eq_ofFailure?, ← hflat]
  cases xs.findSome? fun x => (f x).failure? <;> rfl

/-- The elements for which nothing is found may be left out. -/
theorem mapM_filter_map_flatten {f : α → Except ε (List β)}
    (h : ∀ x ∈ xs, p x = false → f x = .ok []) :
    ((xs.filter p).mapM f).map flatten = (xs.mapM f).map flatten := by
  rw [mapM_map_flatten, mapM_map_flatten,
    findSome?_filter_of_eq_none fun x hx hp => by rw [h x hx hp, Except.failure?_ok],
    flatMap_filter_of_eq_nil fun x hx hp => by rw [h x hx hp]; rfl]

end List

namespace SdkScout

/-- The listing of a path that meets an obstacle. -/
def Obstacle.listing {α : Type} (o : Obstacle) (path : Path) : Except Failure (List α) :=
  if o = .missing then .ok [] else .error (o.failure path.toString)

namespace World

variable {w : World} {path : Path} {o : Obstacle}

/-- A path that a test denies meets one of three obstacles. The test does not tell which. -/
theorem exists_obstacle_of_not_pathExists (hnul : '\x00' ∉ path.toString.toList)
    (h : w.pathExists path = .ok false) : ∃ o, w.find true path.toString = .error o ∧
      (o = .missing ∨ o = .notDirectory ∨ o = .tooManyLinks) := by
  obtain ⟨o, hfind, habsence⟩ := pathExists_eq_false_iff.mp h
  refine ⟨o, hfind, ?_⟩
  cases o with
  | missing => exact .inl rfl
  | notDirectory => exact .inr (.inl rfl)
  | tooManyLinks => exact .inr (.inr rfl)
  | nameTooLong | refused refusal => cases habsence
  | unnameable => exact absurd hfind (find_ne_unnameable hnul)

/-- What listing a path comes to depends on the obstacle alone. -/
theorem childrenIfPresent_of_obstacle (h : w.find true path.toString = .error o) :
    w.childrenIfPresent path = o.listing path := by
  have hchildren : w.children path = .error (o.failure path.toString) := by rw [children, h]
  cases o with
  | missing | notDirectory | nameTooLong | tooManyLinks | unnameable =>
    rw [childrenIfPresent, hchildren]
    rfl
  | refused refusal => exact childrenIfPresent_of_error refusal.code_ne_two hchildren

theorem apps_of_obstacle (h : w.find true path.toString = .error o) :
    w.apps path = o.listing path := by
  rw [apps, childrenIfPresent_of_obstacle h]
  cases o <;> simp [Obstacle.listing, appsInOrder, Path.sortOn]

theorem platformDirectories_of_obstacle {developer : Path}
    (h : w.find true (developer.child Platform.platformsDirectory).toString = .error o) :
    w.platformDirectories developer =
      o.listing (developer.child Platform.platformsDirectory) := by
  rw [platformDirectories, childrenIfPresent_of_obstacle h]
  cases o <;> simp [Obstacle.listing, PlatformDirectory.sorted, Path.sortOn]

end World

namespace Sdk

variable {w : World} {kind : SdkKind} {path developer : Path} {o : Obstacle}
  {ds : List PlatformDirectory}

theorem inDirectory_of_obstacle (h : w.find true path.toString = .error o) :
    inDirectory w kind path = o.listing path := by
  rw [inDirectory, World.childrenIfPresent_of_obstacle h]
  cases o <;> rfl

theorem inDeveloperDirectory_of_obstacle
    (h : w.find true (developer.child Platform.platformsDirectory).toString = .error o) :
    inDeveloperDirectory w kind developer =
      o.listing (developer.child Platform.platformsDirectory) := by
  rw [inDeveloperDirectory, World.platformDirectories_of_obstacle h]
  cases o <;> rfl

end Sdk

namespace Search

/-- Whether a step lists a directory. -/
def Step.lists (path : Path) : Step → Bool
  | .enumerate directory => directory = path
  | _ => false

end Search

/-- A directory may be left out of every enumeration and of every search. -/
structure IsNegligible (w : World) (kind : SdkKind) (path : Path) : Prop where
  enumeration : ∀ developer ds, w.platformDirectories developer = .ok ds →
    Sdk.inDeveloperDirectory w kind developer = ((ds.filter (·.sdksPath ≠ path)).mapM fun d =>
      Sdk.inDirectory w kind d.sdksPath).map List.flatten
  search : ∀ (s : Search) roots, s.WellBounded → (s.roots w).result = .ok roots →
    (s.run w kind).result = .ofFailure?
      (((s.schedule w kind [] roots).filter (!·.lists path)).findSome? (s.stepFailure? w kind))
      ((((s.searchedDirectories w roots).filter (· ≠ path)).flatMap
        (Search.enumeration w kind)).filter s.admits)

/-- A directory makes every enumeration and every search fail that comes to it. -/
structure IsObstruction (w : World) (kind : SdkKind) (path : Path) : Prop where
  enumeration : ∀ developer ds, w.platformDirectories developer = .ok ds →
    (∃ d ∈ ds, d.sdksPath = path) →
    ∃ failure, Sdk.inDeveloperDirectory w kind developer = .error failure
  search : ∀ (s : Search) roots, (s.roots w).result = .ok roots →
    path ∈ s.searchedDirectories w roots → ∃ failure, (s.run w kind).result = .error failure

section
variable {w : World} {kind : SdkKind} {path : Path} {o : Obstacle}

/-- Where nothing is there, a listing takes the directory for an empty one. -/
theorem isNegligible_of_missing (h : w.find true path.toString = .error .missing) :
    IsNegligible w kind path := by
  have hempty : Sdk.inDirectory w kind path = .ok [] := Sdk.inDirectory_of_obstacle h
  constructor
  · intro developer ds hds
    rw [Sdk.inDeveloperDirectory_eq_mapM hds]
    refine (List.mapM_filter_map_flatten fun d _ hd => ?_).symm
    have hpath : d.sdksPath = path := by simpa using hd
    rw [hpath, hempty]
  · intro s roots hbounds hroots
    rw [Search.run_eq_inRoots hbounds, hroots, Except.ok_bind, Search.inRoots_nil_eq_ofFailure?,
      Search.selection, List.findSome?_filter_of_eq_none, List.flatMap_filter_of_eq_nil]
    · intro directory _ hdirectory
      have hpath : directory = path := by simpa using hdirectory
      rw [hpath, Search.enumeration, hempty]
      rfl
    · intro step _ hlists
      cases step with
      | enumerate directory =>
        have hpath : directory = path := by simpa [Search.Step.lists] using hlists
        rw [hpath, Search.stepFailure?, hempty, Except.failure?_ok]
      | expand root | judge sdk => cases hlists

/-- Everything else that is in the way stops an enumeration. -/
theorem isObstruction_of_obstacle (h : w.find true path.toString = .error o) (ho : o ≠ .missing) :
    IsObstruction w kind path := by
  have hfails : Sdk.inDirectory w kind path = .error (o.failure path.toString) := by
    rw [Sdk.inDirectory_of_obstacle h, Obstacle.listing, if_neg ho]
  constructor
  · rintro developer ds hds ⟨d, hd, hpath⟩
    cases hrun : Sdk.inDeveloperDirectory w kind developer with
    | error failure => exact ⟨failure, rfl⟩
    | ok sdks =>
      rw [Sdk.inDeveloperDirectory_eq_mapM hds] at hrun
      obtain ⟨found, hfound, -⟩ := Except.map_eq_ok_iff.mp hrun
      obtain ⟨sdks, hok⟩ := Except.exists_mapM_eq_ok_iff.mp ⟨found, hfound⟩ d hd
      rw [hpath, hfails] at hok
      cases hok
  · intro s roots hroots hmem
    cases hrun : (s.run w kind).result with
    | error failure => exact ⟨failure, rfl⟩
    | ok sdks =>
      obtain ⟨-, roots', hroots', hcompletes, -⟩ := Search.run_eq_ok_iff.mp hrun
      cases hroots.symm.trans hroots'
      cases hfails.symm.trans (hcompletes.enumerates path hmem)

/-- The obstacle on the way to a path that does not exist decides what becomes of its listings, and
of the enumerations and searches that come to it. -/
theorem absent_outcome_of_obstacle (w : World) (kind : SdkKind) (path : Path)
    (hnul : '\x00' ∉ path.toString.toList) (h : w.pathExists path = .ok false) :
    ∃ o, w.find true path.toString = .error o ∧
      (o = .missing ∧ IsNegligible w kind path ∨
        (o = .notDirectory ∨ o = .tooManyLinks) ∧ IsObstruction w kind path) ∧
      Sdk.inDirectory w kind path = o.listing path ∧ w.apps path = o.listing path ∧
      ∀ developer, developer.child Platform.platformsDirectory = path →
        w.platformDirectories developer = o.listing path ∧
          Sdk.inDeveloperDirectory w kind developer = o.listing path := by
  obtain ⟨o, hfind, ho⟩ := World.exists_obstacle_of_not_pathExists hnul h
  refine ⟨o, hfind, ?_, Sdk.inDirectory_of_obstacle hfind, World.apps_of_obstacle hfind, ?_⟩
  · rcases ho with rfl | ho
    · exact .inl ⟨rfl, isNegligible_of_missing hfind⟩
    · refine .inr ⟨ho, isObstruction_of_obstacle hfind ?_⟩
      rcases ho with rfl | rfl <;> simp
  · rintro developer rfl
    exact ⟨World.platformDirectories_of_obstacle hfind,
      Sdk.inDeveloperDirectory_of_obstacle hfind⟩

/-- A developer directory in which a file is named like a platform directory, a directory with an
SDK, and a link to itself. -/
def strayFileWorld : World :=
  .ofTree [(Search.opt, .directory {} [(Platform.platformsDirectory, .directory {}
      [(⟨"XROS.platform", by decide⟩, .file (.ok []))])]),
    (⟨"local", by decide⟩, .directory {} [(⟨"MacOSX12.sdk", by decide⟩, .directory {} [])]),
    (⟨"loop", by decide⟩, .link "loop")]

/-- The directory of SDKs in the file. -/
def straySdks : Path := .ofString "/opt/Platforms/XROS.platform/Developer/SDKs"

theorem absent_outcome_of_obstacle_straySdks :
    '\x00' ∉ straySdks.toString.toList ∧ strayFileWorld.pathExists straySdks = .ok false ∧
      IsObstruction strayFileWorld .unparsed straySdks := by
  have hnul : '\x00' ∉ straySdks.toString.toList := by decide +kernel
  have habsent : strayFileWorld.pathExists straySdks = .ok false := by decide +kernel
  have hwalk : (strayFileWorld.find true straySdks.toString).failure? = some .notDirectory := by
    decide +kernel
  obtain ⟨o, hfind, houtcome, -⟩ := absent_outcome_of_obstacle _ .unparsed _ hnul habsent
  rw [hfind, Except.failure?_error] at hwalk
  cases hwalk
  rcases houtcome with ⟨ho, -⟩ | ⟨-, hobstruction⟩
  · cases ho
  · exact ⟨hnul, habsent, hobstruction⟩

/-- A directory that does not exist can make the listing of it, the enumeration around it and a whole
search fail. -/
theorem absent_directory_fails :
    strayFileWorld.pathExists straySdks = .ok false ∧
      (Sdk.inDirectory strayFileWorld .unparsed straySdks).failure? =
        some (.system ⟨20, straySdks.toString⟩) ∧
      (Sdk.inDeveloperDirectory strayFileWorld .unparsed (.ofString "/opt")).failure? =
        some (.system ⟨20, straySdks.toString⟩) ∧
      ((({} : Search).applyAll [.addDeveloperDirectory (.ofString "/opt"),
        .addSdksDirectory (.ofString "/local")]).run strayFileWorld .unparsed).result.failure? =
          some (.system ⟨20, straySdks.toString⟩) ∧
      strayFileWorld.pathExists (.ofString "/loop/a") = .ok false ∧
      (strayFileWorld.apps (.ofString "/loop/a")).failure? = some (.system ⟨40, "/loop/a"⟩) := by
  decide +kernel

end

end SdkScout
