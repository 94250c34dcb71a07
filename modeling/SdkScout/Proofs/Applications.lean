import SdkScout.Installation
import SdkScout.Proofs.Descent
import SdkScout.Proofs.Listing

/-!
# Applications

The applications in a directory are its entries that are named like one, in an order that does not
depend on the listing: the default application first, all others by path
(`World.mem_apps_iff`, `World.apps_pairwise`). Their developer directories are those that exist, in
the same order, unless a test for one of them fails (`World.developerDirectories_eq_ofFailure?`). Both
together are `World.apps_in_order_and_developerDirectories`.
-/

namespace SdkScout

def defaultApp : Path.Component := ⟨defaultAppName, by decide⟩

/-- Named like an application: `Xcode*.app`. -/
def IsAppName (name : String) : Prop :=
  "Xcode".toList <+: name.toList ∧ ".app".toList <:+ name.toList

theorem isAppName_iff {name : String} : World.isAppName name = true ↔ IsAppName name := by
  rw [World.isAppName, Bool.and_eq_true, List.isPrefixOf_iff_prefix, List.isSuffixOf_iff_suffix,
    IsAppName]

instance : DecidablePred IsAppName := fun _ => decidable_of_iff _ isAppName_iff

/-- The order of applications: the default one before all others, and otherwise by path. -/
def AppPrecedes (p q : Path) : Prop :=
  p.name = defaultAppName ∧ q.name ≠ defaultAppName ∨
    (p.name = defaultAppName ↔ q.name = defaultAppName) ∧ p < q

namespace World

theorem mem_appsInOrder {apps : List Path} {app : Path} : app ∈ appsInOrder apps ↔ app ∈ apps := by
  simp only [appsInOrder, Path.sortOn, List.partition_eq_filter_filter, List.mem_append,
    List.mem_mergeSort, List.mem_filter, Function.comp_apply]
  by_cases h : app.name = defaultAppName <;> simp [h]

theorem appsInOrder_pairwise {apps : List Path} (h : apps.Nodup) :
    (appsInOrder apps).Pairwise AppPrecedes := by
  have hsorted : ∀ p : Path → Bool, (Path.sortOn id (apps.filter p)).Pairwise (· < ·) :=
    fun p => Path.pairwise_lt_sortOn (by simpa using h.filter p)
  have hmem : ∀ (p : Path → Bool) {app}, app ∈ Path.sortOn id (apps.filter p) → p app = true :=
    fun p app happ => (List.mem_filter.mp (List.mem_mergeSort.mp happ)).2
  simp only [appsInOrder, List.partition_eq_filter_filter]
  refine List.pairwise_append.mpr ⟨?_, ?_, fun p hp q hq => ?_⟩
  · refine (hsorted _).imp_of_mem fun hp hq hlt => .inr ⟨?_, hlt⟩
    exact iff_of_true (of_decide_eq_true (hmem _ hp)) (of_decide_eq_true (hmem _ hq))
  · refine (hsorted _).imp_of_mem fun hp hq hlt => .inr ⟨?_, hlt⟩
    exact iff_of_false (by simpa using hmem _ hp) (by simpa using hmem _ hq)
  · exact .inl ⟨by simpa using hmem _ hp, by simpa using hmem _ hq⟩

/-- The order of applications does not depend on the order of the listing. -/
theorem appsInOrder_eq_of_perm {apps apps' : List Path} (hperm : apps.Perm apps')
    (h : apps.Nodup) : appsInOrder apps = appsInOrder apps' := by
  have hsorted : ∀ p : Path → Bool,
      Path.sortOn id (apps.filter p) = Path.sortOn id (apps'.filter p) := fun p =>
    Path.sortOn_eq_of_perm (hperm.filter p) (by simpa using h.filter p)
  simp only [appsInOrder, List.partition_eq_filter_filter, hsorted]

variable {w : World} {directory : Path} {apps : List Path}

/-- The applications of a directory are its entries that are named like one. -/
theorem mem_apps_iff (h : w.apps directory = .ok apps) {app : Path} :
    app ∈ apps ↔ ∃ cs, w.childrenIfPresent directory = .ok cs ∧ app ∈ cs ∧
      isAppName app.name = true := by
  obtain ⟨cs, hcs, h⟩ := Except.bind_eq_ok_iff.mp h
  cases h
  simp [mem_appsInOrder, hcs]

theorem apps_pairwise (h : w.apps directory = .ok apps) : apps.Pairwise AppPrecedes := by
  obtain ⟨cs, hcs, h⟩ := Except.bind_eq_ok_iff.mp h
  cases h
  exact appsInOrder_pairwise ((childrenIfPresent_nodup hcs).filter _)

/-- Whether the developer directory of an application exists. -/
def hasDeveloperDirectory (w : World) (app : Path) : Bool :=
  w.pathExists (developerPath app) = .ok true

/-- The first test that fails decides the failure, and if none does, all that exist are found. -/
theorem developerDirectories_eq_ofFailure? (w : World) (apps : List Path) :
    w.developerDirectories apps =
      .ofFailure? (apps.findSome? fun app => (w.pathExists (developerPath app)).failure?)
        ((apps.filter w.hasDeveloperDirectory).map developerPath) := by
  have hfound : ∀ app, (w.appDeveloperDirectory? app).failure? =
      (w.pathExists (developerPath app)).failure? := by
    intro app
    rw [appDeveloperDirectory?, existing?]
    cases w.pathExists (developerPath app) <;> rfl
  have hpaths : (apps.filterMap fun app => (w.appDeveloperDirectory? app).toOption).filterMap id =
      (apps.filter w.hasDeveloperDirectory).map developerPath := by
    rw [List.filterMap_filterMap, ← List.filterMap_eq_map, ← List.filterMap_eq_filter,
      List.filterMap_filterMap]
    refine List.filterMap_congr fun app _ => ?_
    rw [appDeveloperDirectory?, existing?, Option.guard, hasDeveloperDirectory]
    cases w.pathExists (developerPath app) with
    | error _ => rfl
    | ok found => cases found <;> rfl
  rw [developerDirectories, Except.mapM_eq_ofFailure?, ← hpaths]
  simp only [hfound]
  cases apps.findSome? fun app => (w.pathExists (developerPath app)).failure? <;> rfl

theorem existing?_congr {w' : World} {path : Path} (h : w.pathExists path = w'.pathExists path) :
    w.existing? path = w'.existing? path := by
  rw [existing?, existing?, h]

theorem existing?_of_pathExists {path : Path} {found : Bool} (h : w.pathExists path = .ok found) :
    w.existing? path = .ok (if found then some path else none) := by
  rw [existing?, h]
  rfl

/-- Nothing counts but the tests for the developer directories. -/
theorem developerDirectories_congr {w' : World} {apps : List Path}
    (h : ∀ app ∈ apps, w.pathExists (developerPath app) = w'.pathExists (developerPath app)) :
    w.developerDirectories apps = w'.developerDirectories apps := by
  have htest : ∀ app ∈ apps, w.appDeveloperDirectory? app = w'.appDeveloperDirectory? app :=
    fun app happ => existing?_congr (h app happ)
  rw [developerDirectories, developerDirectories, Except.mapM_congr htest]

/-- What a scan of all applications finds. -/
theorem systemDeveloperDirectories_eq_ok_iff {paths : List Path} :
    w.systemDeveloperDirectories = .ok paths ↔ ∃ apps, w.systemApps = .ok apps ∧
      (∀ app ∈ apps, ∃ found, w.pathExists (developerPath app) = .ok found) ∧
      (apps.filter w.hasDeveloperDirectory).map developerPath = paths := by
  simp only [systemDeveloperDirectories, Except.bind_eq_ok_iff, developerDirectories_eq_ofFailure?,
    Except.ofFailure?_eq_ok_iff, List.findSome?_eq_none_iff, Except.failure?_eq_none_iff_exists]

/-! ## Listings in any order -/

section
variable {names : List Path.Component}

theorem Lists.nodup (h : w.Lists directory names) : names.Nodup :=
  .of_map _ (childrenIfPresent_nodup h.childrenIfPresent_eq)

theorem apps_eq (h : w.Lists directory names) : w.apps directory =
    .ok (appsInOrder ((names.filter fun c => IsAppName c.text).map directory.child)) := by
  have hnames : ((names.map directory.child).filter fun p => isAppName p.name) =
      (names.filter fun c => IsAppName c.text).map directory.child := by
    rw [List.filter_map]
    refine congrArg (List.map directory.child) (List.filter_congr fun c _ => ?_)
    rw [Function.comp_apply, Path.name_child, Bool.eq_iff_iff, isAppName_iff, decide_eq_true_iff]
  rw [apps, h.childrenIfPresent_eq, ← hnames]
  rfl

theorem appsInOrder_perm (apps : List Path) : (appsInOrder apps).Perm apps := by
  simp only [appsInOrder, List.partition_eq_filter_filter, Path.sortOn]
  refine ((List.mergeSort_perm _ _).append (List.mergeSort_perm _ _)).trans ?_
  exact List.filter_append_perm _ _

/-- The default application is one of the entries, or there is none. -/
theorem filter_defaultApp (h : names.Nodup) (directory : Path) :
    (((names.filter fun c => IsAppName c.text).map directory.child).filter
        fun app => app.name = defaultAppName) =
      if defaultApp ∈ names then [directory.child defaultApp] else [] := by
  have hname : ∀ c : Path.Component, (c.text = defaultAppName ∧ IsAppName c.text) ↔ c = defaultApp := by
    intro c
    constructor
    · rintro ⟨htext, -⟩
      exact Path.Component.text_injective htext
    · rintro rfl
      exact ⟨rfl, by decide⟩
  rw [List.filter_map, List.filter_filter]
  simp only [Function.comp_apply, Path.name_child, ← Bool.decide_and, hname]
  rw [List.filter_eq, h.count]
  split <;> rfl

/-- The default application, if it is there, and then all others by path. -/
theorem exists_appsInOrder_eq_append (h : names.Nodup) (directory : Path) : ∃ others,
    appsInOrder ((names.filter fun c => IsAppName c.text).map directory.child) =
      (if defaultApp ∈ names then [directory.child defaultApp] else []) ++ others ∧
    others.Pairwise (· < ·) ∧ ∀ app ∈ others, app.name ≠ defaultAppName := by
  have hnodup : ((names.filter fun c => IsAppName c.text).map directory.child).Nodup :=
    (h.filter _).map directory.child_injective
  have hfirst := filter_defaultApp h directory
  generalize (names.filter fun c => IsAppName c.text).map directory.child = apps at hnodup hfirst
  refine ⟨Path.sortOn id (apps.filter fun app => !decide (app.name = defaultAppName)), ?_, ?_, ?_⟩
  · simp only [appsInOrder, List.partition_eq_filter_filter, hfirst, Function.comp_def]
    -- There is at most one default application, so sorting does nothing to it.
    split <;> simp only [Path.sortOn, List.mergeSort_nil, List.mergeSort_singleton]
  · exact Path.pairwise_lt_sortOn (by simpa using hnodup.filter _)
  · intro app happ
    simpa using (List.mem_filter.mp (List.mem_mergeSort.mp happ)).2

end

/-! ## Bundles without a developer directory -/

section
variable {app : Path} {before after : List Path}

theorem developerDirectories_eq_ok
    (h : ∀ app ∈ apps, ∃ found, w.pathExists (developerPath app) = .ok found) :
    w.developerDirectories apps = .ok ((apps.filter w.hasDeveloperDirectory).map developerPath) := by
  rw [developerDirectories_eq_ofFailure?, Except.ofFailure?_eq_ok_iff, List.findSome?_eq_none_iff]
  exact ⟨fun app happ => Except.failure?_eq_none_iff_exists.mpr (h app happ), rfl⟩

/-- The scan fails with the first test that fails, whatever comes after it. -/
theorem developerDirectories_eq_error_iff {failure : Failure} :
    w.developerDirectories apps = .error failure ↔ ∃ before app after,
      apps = before ++ app :: after ∧
      (∀ other ∈ before, ∃ found, w.pathExists (developerPath other) = .ok found) ∧
      w.pathExists (developerPath app) = .error failure := by
  rw [developerDirectories_eq_ofFailure?, Except.ofFailure?_eq_error_iff,
    List.findSome?_eq_some_iff]
  simp only [Except.failure?_eq_some_iff, Except.failure?_eq_none_iff_exists]
  constructor
  · rintro ⟨before, app, after, rfl, happ, hbefore⟩
    exact ⟨before, app, after, rfl, hbefore, happ⟩
  · rintro ⟨before, app, after, rfl, hbefore, happ⟩
    exact ⟨before, app, after, rfl, happ, hbefore⟩

/-- A bundle without a developer directory might as well not be there. -/
theorem developerDirectories_drop (h : w.pathExists (developerPath app) = .ok false) :
    w.developerDirectories (before ++ app :: after) = w.developerDirectories (before ++ after) := by
  have happ : w.hasDeveloperDirectory app = false := by simp [hasDeveloperDirectory, h]
  simp [developerDirectories_eq_ofFailure?, List.findSome?_append, h, happ]

end

/-- The applications of a directory are the entries that are named like one, each of them once: the
default one first, if it is there, and after it all others, strictly increasing by path. The order of
the listing does not matter.

Of any applications, the developer directories that exist are found, in the order of the applications,
as long as all tests for them answer. A test fails with an error of the system, and the first test that
does is the failure of the scan. A bundle without a developer directory leaves those of the others as
they are. -/
theorem apps_in_order_and_developerDirectories {w : World} {directory : Path}
    {names : List Path.Component} (h : w.Lists directory names) :
    (∃ apps, w.apps directory = .ok apps ∧
      apps.Perm ((names.filter fun c => IsAppName c.text).map directory.child) ∧ apps.Nodup ∧
      (∃ others,
        apps = (if defaultApp ∈ names then [directory.child defaultApp] else []) ++ others ∧
        others.Pairwise (· < ·) ∧ ∀ app ∈ others, app.name ≠ defaultAppName) ∧
      ∀ (w' : World) (names' : List Path.Component), w'.Lists directory names' →
        names.Perm names' → w'.apps directory = .ok apps) ∧
    (∀ apps : List Path, (∀ app ∈ apps, ∃ found, w.pathExists (developerPath app) = .ok found) →
      w.developerDirectories apps =
        .ok ((apps.filter w.hasDeveloperDirectory).map developerPath)) ∧
    (∀ (apps : List Path) (failure : Failure), w.developerDirectories apps = .error failure ↔
      ∃ before app after, apps = before ++ app :: after ∧
        (∀ other ∈ before, ∃ found, w.pathExists (developerPath other) = .ok found) ∧
        w.pathExists (developerPath app) = .error failure ∧
        ∃ code, failure = .system ⟨code, (developerPath app).toString⟩) ∧
    ∀ (before after : List Path) (app : Path), w.pathExists (developerPath app) = .ok false →
      w.developerDirectories (before ++ app :: after) =
        w.developerDirectories (before ++ after) := by
  have hnodup : ((names.filter fun c => IsAppName c.text).map directory.child).Nodup :=
    (h.nodup.filter _).map directory.child_injective
  refine ⟨⟨_, apps_eq h, appsInOrder_perm _, (appsInOrder_perm _).nodup_iff.mpr hnodup,
    exists_appsInOrder_eq_append h.nodup directory, fun w' names' h' hperm => ?_⟩,
    fun apps => developerDirectories_eq_ok, fun apps failure => ?_,
    fun before after app => developerDirectories_drop⟩
  · rw [apps_eq h', appsInOrder_eq_of_perm ((hperm.filter _).map _) hnodup]
  · have hcode (app : Path) (htest : w.pathExists (developerPath app) = .error failure) :
        ∃ code, failure = .system ⟨code, (developerPath app).toString⟩ :=
      (exists_of_test_eq_error htest).imp fun _ => And.left
    rw [developerDirectories_eq_error_iff]
    constructor
    · rintro ⟨before, app, after, happs, hbefore, htest⟩
      exact ⟨before, app, after, happs, hbefore, htest, hcode app htest⟩
    · rintro ⟨before, app, after, happs, hbefore, htest, -⟩
      exact ⟨before, app, after, happs, hbefore, htest⟩

end World

/-- Applications in no order, the default one among them, and entries that are none. The last one has
no developer directory. -/
def bundleEntries : List (Path.Component × Node) :=
  let bundle : Node :=
    .directory {} [(contents, .directory {} [(PlatformDirectory.developer, .directory {} [])])]
  [(⟨"Xcode-16.app", by decide⟩, bundle), (⟨"Safari.app", by decide⟩, bundle),
    (defaultApp, bundle), (⟨"Xcode", by decide⟩, bundle),
    (⟨"Xcode-14.app", by decide⟩, .directory {} [])]

def appsName : Path.Component := ⟨"Apps", by decide⟩

/-- A directory of applications. -/
def bundleWorld (entries : List (Path.Component × Node)) : World :=
  .ofTree [(appsName, .directory {} entries)]

theorem World.apps_in_order_and_developerDirectories_bundles :
    ∃ apps, (bundleWorld bundleEntries).apps (.ofString "/Apps") = .ok apps ∧
      (bundleWorld bundleEntries.reverse).apps (.ofString "/Apps") = .ok apps ∧
      apps = [.ofString "/Apps/Xcode.app", .ofString "/Apps/Xcode-14.app",
        .ofString "/Apps/Xcode-16.app"] ∧
      (bundleWorld bundleEntries).developerDirectories apps =
        .ok [.ofString "/Apps/Xcode.app/Contents/Developer",
          .ofString "/Apps/Xcode-16.app/Contents/Developer"] := by
  have hlists : (bundleWorld bundleEntries).Lists (.ofString "/Apps")
      (bundleEntries.map (·.1)) := .listed (by decide +kernel)
  have hreversed : (bundleWorld bundleEntries.reverse).Lists (.ofString "/Apps")
      (bundleEntries.map (·.1)).reverse := .listed (by decide +kernel)
  obtain ⟨⟨apps, happs, hperm, -, ⟨others, hothers, hsorted, -⟩, hsame⟩, hfound, -, -⟩ :=
    apps_in_order_and_developerDirectories hlists
  have hfirst : (if defaultApp ∈ bundleEntries.map (·.1) then
      [(Path.ofString "/Apps").child defaultApp] else []) =
      [.ofString "/Apps/Xcode.app"] := by decide +kernel
  rw [hfirst] at hothers
  -- What comes after the default application is known up to its order, and it is sorted.
  have hrest : others = [.ofString "/Apps/Xcode-14.app",
      .ofString "/Apps/Xcode-16.app"] := by
    rw [hothers] at hperm
    have hperm : others.Perm [.ofString "/Apps/Xcode-14.app",
        .ofString "/Apps/Xcode-16.app"] :=
      (List.perm_append_left_iff _).mp (hperm.trans (by decide +kernel))
    refine hperm.eq_of_pairwise (fun p q _ _ hpq hqp => ?_) hsorted (by decide +kernel)
    exact absurd hqp (lt_asymm (α := List String) hpq)
  have horder : apps = [.ofString "/Apps/Xcode.app",
      .ofString "/Apps/Xcode-14.app", .ofString "/Apps/Xcode-16.app"] := by
    rw [hothers, hrest]
    rfl
  refine ⟨apps, happs, hsame _ _ hreversed (List.reverse_perm _).symm, horder, ?_⟩
  have htests : ∀ app ∈ apps, (bundleWorld bundleEntries).pathExists (developerPath app) =
      .ok ((bundleWorld bundleEntries).hasDeveloperDirectory app) := by
    rw [horder]
    decide +kernel
  rw [hfound apps fun app happ => ⟨_, htests app happ⟩, horder]
  decide +kernel

/-- An application with a long name. -/
def longApp (n : Nat) : Path.Component where
  text := String.ofList (List.replicate n 'x') ++ ".app"
  valid := Path.isComponent_append (by simp) (by decide) (by decide)

theorem utf8ByteSize_replicate (n : Nat) :
    (String.ofList (List.replicate n 'x')).utf8ByteSize = n := by
  induction n with
  | zero => rfl
  | succ n ih =>
    rw [List.replicate_succ, ← List.singleton_append, String.ofList_append,
      String.utf8ByteSize_append, ih, Nat.add_comm]
    rfl

theorem World.find_longApp {n : Nat} (hlong : Node.nameLimit < n) (hshort : n ≤ 4000) :
    (bundleWorld bundleEntries).find true
      ((Path.ofString "/Apps").child (longApp n)).toString = .error .nameTooLong := by
  have hdirectory : Path.ofString "/Apps" =
      Path.child ⟨.slash, []⟩ appsName := by decide +kernel
  have hfind : (bundleWorld bundleEntries).find true (Path.ofString "/Apps").toString =
      .ok (.directory {} bundleEntries) := by rfl
  have hsize : (longApp n).text.utf8ByteSize = n + 4 := by
    rw [longApp, String.utf8ByteSize_append, utf8ByteSize_replicate]
    rfl
  have hparent : (Path.child ⟨.slash, []⟩ appsName).toString = "/Apps" := by
    decide +kernel
  rw [hdirectory] at hfind ⊢
  refine find_child_of_overlong ⟨?_, ?_⟩ ?_ rfl (by omega) hfind
  · rw [Path.toString_child_child, hparent]
    simp [longApp]
  · rw [Path.toString_child_child, hparent, String.utf8ByteSize_append, hsize]
    have hrest : ("/Apps" ++ "/").utf8ByteSize = 6 := rfl
    have hlimit : Node.pathLimit = 4095 := rfl
    omega
  · intro h
    have htwo : "..".utf8ByteSize = 2 := rfl
    rw [h] at hsize
    omega

/-- The first test fails for an overlong name, and then the developer directory of the second
application is not found, although it exists. -/
theorem World.developerDirectories_overlong :
    (bundleWorld bundleEntries).hasDeveloperDirectory (.ofString "/Apps/Xcode.app") = true ∧
      (bundleWorld bundleEntries).developerDirectories
        [(Path.ofString "/Apps").child (longApp 300),
          .ofString "/Apps/Xcode.app"] =
        .error (.system ⟨36, (developerPath
          ((Path.ofString "/Apps").child (longApp 300))).toString⟩) := by
  refine ⟨by decide +kernel, developerDirectories_eq_error_iff.mpr ⟨[], _, _, rfl, by simp, ?_⟩⟩
  rw [pathExists, test_eq_error_iff]
  refine ⟨.nameTooLong, ?_, rfl, rfl⟩
  exact find_child_nameTooLong (by decide) (find_child_nameTooLong (by decide)
    (find_longApp (by decide) (by decide)))

end SdkScout
