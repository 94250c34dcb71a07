import SdkScout.Proofs.Applications
import SdkScout.Proofs.Search.Locators

/-!
# The roots of a search

The candidates for roots come in six groups: what each of the four locators finds, and the further
directories of either kind. The roots of a search are the candidates, each at its first occurrence
(`Search.roots_eq_eraseDups`). A root is a kind and a path, so the same path can be a root twice.
-/

namespace SdkScout

/-- What a search makes of the applications: the developer directories that exist, in the order of
the applications, or nothing if the system refuses to look for them. -/
inductive World.Scan (w : World) : List Path → Prop
  | found {apps : List Path} : apps.Pairwise AppPrecedes →
    (∀ app, app ∈ apps ↔ ∃ cs, w.childrenIfPresent w.places.applications = .ok cs ∧ app ∈ cs ∧
      World.isAppName app.name = true) →
    (∀ app ∈ apps, ∃ found, w.pathExists (developerPath app) = .ok found) →
    Scan w ((apps.filter w.hasDeveloperDirectory).map developerPath)
  | refused {e : SystemError} : w.systemDeveloperDirectories = .error (.system e) → Scan w []

namespace Search

variable {s : Search} {w : World} {roots : List SearchRoot}

/-- The groups of candidates for roots, in their order of precedence. -/
def candidateGroups (s : Search) (w : World) : List (List SearchRoot) :=
  [Locator.active.roots s w, Locator.commandLineTools.roots s w, Locator.defaultXcode.roots s w,
    Locator.systemXcodes.roots s w, s.developerDirectories.map (⟨.developer, ·⟩),
    s.sdksDirectories.map (⟨.sdks, ·⟩)]

def candidates (s : Search) (w : World) : List SearchRoot :=
  (s.candidateGroups w).flatten

theorem roots_eq_ok_iff : (s.roots w).result = .ok roots ↔
    (∀ l : Locator, l.stop? s w = none) ∧ firstOccurrences [] (s.candidates w) = roots := by
  have hall : ∀ l, l ∈ Locator.all := fun l => by cases l <;> simp [Locator.all]
  have hcandidates : Locator.all.flatMap (·.roots s w) ++ s.developerDirectories.map (⟨.developer, ·⟩) ++
      s.sdksDirectories.map (⟨.sdks, ·⟩) = s.candidates w := by
    simp [candidates, candidateGroups, Locator.all]
  simp only [roots_eq_ofFailure?, Except.ofFailure?_eq_ok_iff, hcandidates,
    List.findSome?_eq_none_iff, hall, forall_const]

theorem scan_of_roots_eq_ok (h : (s.roots w).result = .ok roots) (hon : s.systemXcodes = true) :
    ∃ paths, w.Scan paths ∧ Locator.systemXcodes.roots s w = paths.map (⟨.developer, ·⟩) := by
  have hgoes : Locator.systemXcodes.stop? s w = none := (roots_eq_ok_iff.mp h).1 _
  simp only [Locator.stop?, Locator.isOn, hon, if_true, Locator.find] at hgoes
  simp only [Locator.roots, Locator.paths, Locator.isOn, hon, if_true, Locator.find,
    Locator.rootKind]
  cases hscan : w.systemDeveloperDirectories with
  | ok paths =>
    obtain ⟨apps, happs, htests, rfl⟩ := World.systemDeveloperDirectories_eq_ok_iff.mp hscan
    exact ⟨_, .found (World.apps_pairwise happs) (fun _ => World.mem_apps_iff happs) htests, rfl⟩
  | error failure =>
    cases failure with
    | system e => exact ⟨[], .refused hscan, rfl⟩
    | _ => simp [hscan, Locator.passesOver] at hgoes

/-- A path that is found as a root of either kind is two roots. -/
theorem perm_of_both_kinds (h : roots.Nodup) {path : Path} (hdeveloper : ⟨.developer, path⟩ ∈ roots)
    (hsdks : ⟨.sdks, path⟩ ∈ roots) :
    (roots.filter (·.path = path)).Perm [⟨.developer, path⟩, ⟨.sdks, path⟩] := by
  refine (List.perm_ext_iff_of_nodup (h.filter _) (by simp)).mpr fun root => ?_
  obtain ⟨kind, p⟩ := root
  simp only [List.mem_filter, decide_eq_true_eq, List.mem_cons, List.not_mem_nil, or_false,
    SearchRoot.mk.injEq]
  constructor
  · rintro ⟨-, rfl⟩
    cases kind <;> simp
  · rintro (⟨rfl, rfl⟩ | ⟨rfl, rfl⟩)
    · exact ⟨hdeveloper, rfl⟩
    · exact ⟨hsdks, rfl⟩

/-- The roots are the candidates of all groups, each at its first occurrence: no candidate is lost,
none is there twice, and they keep the order in which they first come. A path that is a candidate of
both kinds gives two roots, and the fourth group is a scan of the applications in their order. -/
theorem roots_eq_eraseDups (h : (s.roots w).result = .ok roots) :
    roots = (s.candidates w).eraseDups ∧ roots.Nodup ∧
      (∀ root, root ∈ roots ↔ ∃ group ∈ s.candidateGroups w, root ∈ group) ∧
      (∀ a b, roots.idxOf a < roots.idxOf b ↔
        (s.candidates w).idxOf a < (s.candidates w).idxOf b) ∧
      (∀ path, ⟨.developer, path⟩ ∈ s.candidates w → ⟨.sdks, path⟩ ∈ s.candidates w →
        (roots.filter (·.path = path)).Perm [⟨.developer, path⟩, ⟨.sdks, path⟩]) ∧
      (s.systemXcodes = true →
        ∃ paths, w.Scan paths ∧ Locator.systemXcodes.roots s w = paths.map (⟨.developer, ·⟩)) := by
  have hfirst := (roots_eq_ok_iff.mp h).2
  have hdups : roots = (s.candidates w).eraseDups := by rw [← hfirst, firstOccurrences_nil]
  have hnodup : roots.Nodup := hdups ▸ List.nodup_eraseDups _
  have hmem : ∀ root, root ∈ roots ↔ root ∈ s.candidates w := fun root => by
    rw [hdups, List.mem_eraseDups]
  refine ⟨hdups, hnodup, fun root => ?_, fun a b => ?_, fun path hdeveloper hsdks => ?_,
    scan_of_roots_eq_ok h⟩
  · rw [hmem, candidates, List.mem_flatten]
  · rw [← hfirst]
    exact idxOf_firstOccurrences_lt_iff (by simp) (by simp) _
  · exact perm_of_both_kinds hnodup ((hmem _).mpr hdeveloper) ((hmem _).mpr hsdks)

/-- Two applications, the Command Line Tools, and an active developer directory elsewhere. -/
def crowdedWorld : World :=
  let bundle : Node :=
    .directory {} [(contents, .directory {} [(PlatformDirectory.developer, .directory {} [])])]
  let applications : Node := .directory {}
    [(⟨"Xcode-beta.app", by decide⟩, bundle), (⟨"Xcode.app", by decide⟩, bundle)]
  let tools : Node := .directory {} [(PlatformDirectory.sdks, .directory {} [])]
  { World.ofTree (applications.entriesTo Places.standard.applications.parts ++
      tools.entriesTo Places.standard.commandLineTools.parts) with
    environment := [("DEVELOPER_DIR", "/opt")] }

/-- Everything is searched, and some of it is added again. -/
def crowdedSearch : Search where
  commandLineTools := true
  defaultXcode := true
  systemXcodes := true
  developerDirectories := [.ofString "/Library/Developer/CommandLineTools/SDKs",
    .ofString "/Applications/Xcode.app/Contents/Developer"]
  sdksDirectories := [.ofString "/opt", .ofString "/Library/Developer/CommandLineTools/SDKs"]

theorem roots_eq_eraseDups_crowded :
    ∃ roots, (crowdedSearch.roots crowdedWorld).result = .ok roots ∧
      roots.map (fun root => (root.kind, root.path.toString)) =
        [(.developer, "/opt"), (.sdks, "/Library/Developer/CommandLineTools/SDKs"),
          (.developer, "/Applications/Xcode.app/Contents/Developer"),
          (.developer, "/Applications/Xcode-beta.app/Contents/Developer"),
          (.developer, "/Library/Developer/CommandLineTools/SDKs"), (.sdks, "/opt")] ∧
      (crowdedSearch.candidates crowdedWorld).length = 9 ∧
      roots = (crowdedSearch.candidates crowdedWorld).eraseDups := by
  have hroots : ((crowdedSearch.roots crowdedWorld).result.map fun roots =>
      roots.map fun root => (root.kind, root.path.toString)).toOption =
        some [(.developer, "/opt"), (.sdks, "/Library/Developer/CommandLineTools/SDKs"),
          (.developer, "/Applications/Xcode.app/Contents/Developer"),
          (.developer, "/Applications/Xcode-beta.app/Contents/Developer"),
          (.developer, "/Library/Developer/CommandLineTools/SDKs"), (.sdks, "/opt")] := by
    decide +kernel
  obtain ⟨roots, h, hroots⟩ := Except.map_eq_ok_iff.mp (Except.toOption_eq_some_iff.mp hroots)
  exact ⟨roots, h, hroots, by decide +kernel, (roots_eq_eraseDups h).1⟩

end Search

end SdkScout
