import SdkScout.Proofs.Descent
import SdkScout.Proofs.Search.Roots
import SdkScout.Proofs.Search.Schedule

/-!
# The default application among all applications

The default application is looked for by its path, and all applications by a listing. Where the scan of
the applications succeeds, the default one is missing or listed, unless the applications can be listed
but not entered (`World.missing_or_listed`); and if it is listed, it comes first. So a search that scans
all applications need not look for the default one, and had better not where they are closed: the test
for it fails there, and stops the search (`Search.roots_defaultXcode_of_scan`).
-/

namespace List

variable {α : Type} [BEq α] [LawfulBEq α]

/-- A second copy of an element right behind the first counts for nothing. -/
theorem eraseDups_append_cons_cons (before after : List α) (x : α) :
    (before ++ x :: x :: after).eraseDups = (before ++ x :: after).eraseDups := by
  rw [eraseDups_append, eraseDups_append]
  by_cases hx : x ∈ before <;> simp [removeAll, hx, eraseDups_cons]

end List

namespace SdkScout

/-- The default application has its place among the applications, as it has in the standard places. -/
structure Places.KeepsDefault (places : Places) : Prop where
  named : ∃ parent c, places.applications = Path.child parent c
  xcodeApp : places.xcodeApp = places.applications.child defaultApp
  fits : (developerPath places.xcodeApp).Fits

theorem Places.standard_keepsDefault : Places.standard.KeepsDefault where
  named := ⟨⟨.slash, []⟩, ⟨"Applications", by decide⟩, by decide +kernel⟩
  xcodeApp := by decide +kernel
  fits := ⟨by decide +kernel, by decide +kernel⟩

namespace World

variable {w : World} {apps paths : List Path}

/-- The system does not let a walk go on from the applications. -/
def AppsClosed (w : World) (refusal : Refusal) : Prop :=
  ∃ access entries, w.find true w.places.applications.toString = .ok (.directory access entries) ∧
    access.entering = some refusal

/-- Where the applications can be entered, a test and a listing tell the same of the default one. -/
theorem missing_or_listed (hplaces : w.places.KeepsDefault) (happs : w.systemApps = .ok apps)
    (hopen : ∀ refusal, ¬ w.AppsClosed refusal) :
    w.find true (developerPath w.places.xcodeApp).toString = .error .missing ∨
      w.places.xcodeApp ∈ apps := by
  obtain ⟨⟨parent, c, hparent⟩, hxcode, hfits⟩ := hplaces
  obtain ⟨cs, hcs, -⟩ := Except.bind_eq_ok_iff.mp happs
  rw [mem_apps_iff happs, hcs, hxcode]
  rw [hxcode] at hfits
  rw [hparent] at hcs hfits ⊢
  have hmissing : w.find true ((parent.child c).child defaultApp).toString = .error .missing →
      w.find true (developerPath ((parent.child c).child defaultApp)).toString =
        .error .missing := fun h =>
    find_child_of_error hfits (find_child_of_error hfits.of_child h)
  -- A listing that succeeds is that of a directory, or stands for one that is missing.
  rcases childrenIfPresent_eq_ok_iff.mp hcs with ⟨hfind, -⟩ | hchildren
  · exact .inl (hmissing (find_child_of_error hfits.of_child.of_child hfind))
  · obtain ⟨access, entries, hfind, -, rfl⟩ := children_eq_ok_iff.mp hchildren
    by_cases hlisted : defaultApp ∈ Node.names entries
    · exact .inr ⟨_, rfl, List.mem_map_of_mem hlisted, by rw [Path.name_child]; decide⟩
    · have hentry : Node.entry? defaultApp.text entries = none :=
        Node.entry?_eq_none_iff.mpr fun d hd htext =>
          hlisted (Path.Component.text_injective htext ▸ hd)
      have hentering : access.entering = none := by
        cases hrefused : access.entering with
        | none => rfl
        | some refusal => exact absurd ⟨access, entries, hparent ▸ hfind, hrefused⟩ (hopen refusal)
      exact .inl (hmissing (find_child_of_unlisted hfits.of_child.of_child (by decide) hentering
        (by decide) hfind hentry))

/-- No test for something in an application succeeds where the applications are closed. -/
theorem AppsClosed.find_developerPath {refusal : Refusal} {d : Path.Component}
    (hplaces : w.places.KeepsDefault) (h : w.AppsClosed refusal)
    (hfits : (developerPath (w.places.applications.child d)).Fits) :
    w.find true (developerPath (w.places.applications.child d)).toString =
      .error (.refused refusal) := by
  obtain ⟨access, entries, hfind, hentering⟩ := h
  obtain ⟨parent, c, hparent⟩ := hplaces.named
  rw [hparent] at hfind hfits ⊢
  exact find_child_of_error hfits (find_child_of_error hfits.of_child
    (find_child_of_refused hfits.of_child.of_child hentering hfind))

/-- Where they cannot be entered, the test fails. -/
theorem AppsClosed.defaultDeveloperDirectory? {refusal : Refusal} (hplaces : w.places.KeepsDefault)
    (h : w.AppsClosed refusal) : w.defaultDeveloperDirectory? =
      .error (.system ⟨refusal.code, (developerPath w.places.xcodeApp).toString⟩) := by
  rw [World.defaultDeveloperDirectory?, appDeveloperDirectory?, existing?_eq_error_iff, pathExists,
    test_eq_error_iff]
  refine ⟨.refused refusal, ?_, rfl, rfl⟩
  have hfits := hplaces.fits
  rw [hplaces.xcodeApp] at hfits ⊢
  exact h.find_developerPath hplaces hfits

theorem AppsClosed.hasDeveloperDirectory {refusal : Refusal} (hplaces : w.places.KeepsDefault)
    (h : w.AppsClosed refusal) (d : Path.Component) :
    w.hasDeveloperDirectory (w.places.applications.child d) = false := by
  refine decide_eq_false fun htest => ?_
  obtain ⟨node, hnode⟩ := pathExists_eq_true_iff.mp htest
  rw [h.find_developerPath hplaces (fits_of_find_eq_ok hnode)] at hnode
  cases hnode

/-- Only the default application itself has its name among the applications. -/
theorem eq_xcodeApp_of_name (hplaces : w.places.KeepsDefault) (happs : w.systemApps = .ok apps)
    {app : Path} (happ : app ∈ apps) (hname : app.name = defaultAppName) :
    app = w.places.xcodeApp := by
  obtain ⟨cs, hcs, happ, -⟩ := (mem_apps_iff happs).mp happ
  obtain ⟨names, -, rfl⟩ := childrenIfPresent_eq_map hcs
  obtain ⟨c, -, rfl⟩ := List.mem_map.mp happ
  rw [Path.name_child] at hname
  rw [hplaces.xcodeApp, Path.child_inj]
  exact ⟨rfl, Path.Component.text_injective hname⟩

/-- The default application is the first of all applications, if it is one of them. -/
theorem head?_systemApps (hplaces : w.places.KeepsDefault) (happs : w.systemApps = .ok apps)
    (hmem : w.places.xcodeApp ∈ apps) : apps.head? = some w.places.xcodeApp := by
  have hname : w.places.xcodeApp.name = defaultAppName := by
    rw [hplaces.xcodeApp, Path.name_child]
    rfl
  have hpairwise := apps_pairwise happs
  cases apps with
  | nil => cases hmem
  | cons first rest =>
    rcases List.mem_cons.mp hmem with heq | hrest
    · rw [heq, List.head?_cons]
    · rcases List.rel_of_pairwise_cons hpairwise hrest with ⟨-, hother⟩ | ⟨hsame, -⟩
      · exact absurd hname hother
      · rw [List.head?_cons, eq_xcodeApp_of_name hplaces happs List.mem_cons_self (hsame.mpr hname)]

/-- Where a scan of the applications succeeds, the default developer directory does not exist, or is
the first that the scan finds; but if the applications are closed, nothing is found. -/
theorem defaultDeveloperDirectory?_of_scan (hplaces : w.places.KeepsDefault)
    (hscan : w.systemDeveloperDirectories = .ok paths) :
    (w.defaultDeveloperDirectory? = .ok none ∨
      ∃ developer others, w.defaultDeveloperDirectory? = .ok (some developer) ∧
        paths = developer :: others) ∨ paths = [] ∧ ∃ refusal, w.AppsClosed refusal := by
  obtain ⟨apps, happs, htests, rfl⟩ := systemDeveloperDirectories_eq_ok_iff.mp hscan
  by_cases hclosed : ∃ refusal, w.AppsClosed refusal
  · obtain ⟨refusal, hclosed⟩ := hclosed
    refine .inr ⟨List.map_eq_nil_iff.mpr (List.filter_eq_nil_iff.mpr fun app happ => ?_), _, hclosed⟩
    obtain ⟨cs, hcs, hmem, -⟩ := (mem_apps_iff happs).mp happ
    obtain ⟨names, -, rfl⟩ := childrenIfPresent_eq_map hcs
    obtain ⟨d, -, rfl⟩ := List.mem_map.mp hmem
    rw [hclosed.hasDeveloperDirectory hplaces]
    exact Bool.false_ne_true
  refine .inl ?_
  rw [defaultDeveloperDirectory?, appDeveloperDirectory?]
  rcases missing_or_listed hplaces happs (not_exists.mp hclosed) with hmissing | hlisted
  · exact .inl (existing?_of_pathExists (pathExists_eq_false_iff.mpr ⟨_, hmissing, rfl⟩))
  · obtain ⟨found, htest⟩ := htests _ hlisted
    cases found with
    | false => exact .inl (existing?_of_pathExists htest)
    | true =>
      obtain ⟨others, rfl⟩ := List.head?_eq_some_iff.mp (head?_systemApps hplaces happs hlisted)
      have hdeveloper : w.hasDeveloperDirectory w.places.xcodeApp = true := decide_eq_true htest
      refine .inr ⟨developerPath w.places.xcodeApp,
        (others.filter w.hasDeveloperDirectory).map developerPath, existing?_of_pathExists htest, ?_⟩
      rw [List.filter_cons_of_pos hdeveloper, List.map_cons]

/-- A developer directory of the default application is the first that the scan finds. -/
theorem head?_of_scan (hplaces : w.places.KeepsDefault)
    (hscan : w.systemDeveloperDirectories = .ok paths) {developer : Path}
    (hfound : w.defaultDeveloperDirectory? = .ok (some developer)) :
    paths.head? = some developer := by
  rcases defaultDeveloperDirectory?_of_scan hplaces hscan with
    (hnone | ⟨_, others, hsome, rfl⟩) | ⟨-, refusal, hclosed⟩
  · cases hnone.symm.trans hfound
  · cases hsome.symm.trans hfound
    rfl
  · cases hfound.symm.trans (hclosed.defaultDeveloperDirectory? hplaces)

/-- The test for the default application fails only where the applications are closed, and then the
scan finds nothing. -/
theorem closed_of_scan (hplaces : w.places.KeepsDefault)
    (hscan : w.systemDeveloperDirectories = .ok paths) {failure : Failure}
    (hfails : w.defaultDeveloperDirectory? = .error failure) :
    paths = [] ∧ ∃ refusal, w.AppsClosed refusal ∧
      failure = .system ⟨refusal.code, (developerPath w.places.xcodeApp).toString⟩ := by
  rcases defaultDeveloperDirectory?_of_scan hplaces hscan with
    (hnone | ⟨_, _, hsome, -⟩) | ⟨hnothing, refusal, hclosed⟩
  · cases hnone.symm.trans hfails
  · cases hsome.symm.trans hfails
  · refine ⟨hnothing, refusal, hclosed, ?_⟩
    cases (hclosed.defaultDeveloperDirectory? hplaces).symm.trans hfails
    rfl

theorem not_appsClosed_of_open (hplaces : w.places.KeepsDefault) (h : w.root.Open)
    (refusal : Refusal) : ¬ w.AppsClosed refusal := fun hclosed => by
  have hfits := hplaces.fits
  rw [hplaces.xcodeApp] at hfits
  exact find_ne_refused h _ _ _ (hclosed.find_developerPath hplaces hfits)

end World

namespace Search

variable {s t : Search} {w : World} {kind : SdkKind} {paths : List Path}

/-- A test for the default application that answers adds at most the first root of the scan. -/
theorem defaultXcode_of_scan (hplaces : w.places.KeepsDefault) (hon : s.systemXcodes = true)
    (hscan : w.systemDeveloperDirectories = .ok paths) {found : Option Path}
    (hfound : w.defaultDeveloperDirectory? = .ok found) :
    Locator.defaultXcode.stop? s w = none ∧ (Locator.defaultXcode.roots s w = [] ∨
      ∃ root rest, Locator.defaultXcode.roots s w = [root] ∧
        Locator.systemXcodes.roots s w = root :: rest) := by
  cases found with
  | none =>
    have hfind : Locator.defaultXcode.find w = .ok [] := by rw [Locator.find, hfound]; rfl
    exact ⟨by simp [Locator.stop?, hfind], .inl (by simp [Locator.roots, Locator.paths, hfind])⟩
  | some developer =>
    obtain ⟨others, rfl⟩ := List.head?_eq_some_iff.mp (World.head?_of_scan hplaces hscan hfound)
    have hfind : Locator.defaultXcode.find w = .ok [developer] := by
      rw [Locator.find, hfound]
      rfl
    refine ⟨by simp [Locator.stop?, hfind], ?_⟩
    cases hdefault : s.defaultXcode with
    | false => exact .inl (by simp [Locator.roots, Locator.paths, Locator.isOn, hdefault])
    | true =>
      refine .inr ⟨⟨.developer, developer⟩, others.map (⟨.developer, ·⟩), ?_, ?_⟩
      · simp [Locator.roots, Locator.paths, Locator.isOn, hdefault, hfind, Locator.rootKind]
      · simp [Locator.roots, Locator.paths, Locator.isOn, hon, Locator.find, hscan,
          Locator.rootKind]

/-- The default application need not be looked for in a scan of all. -/
theorem roots_switchOff_defaultXcode (hplaces : w.places.KeepsDefault) (hon : s.systemXcodes = true)
    (hscan : w.systemDeveloperDirectories = .ok paths) {found : Option Path}
    (hfound : w.defaultDeveloperDirectory? = .ok found) :
    (s.roots w).result = ((Locator.defaultXcode.switchOff s).roots w).result := by
  obtain ⟨hgoes, hroots⟩ := defaultXcode_of_scan hplaces hon hscan hfound
  have hstop : ∀ l : Locator, l.stop? (Locator.defaultXcode.switchOff s) w = l.stop? s w := by
    intro l
    by_cases hl : l = .defaultXcode
    · rw [hl, Locator.stop?_switchOff_self, hgoes]
    · exact Locator.stop?_switchOff_of_ne hl
  rw [roots_eq_ofFailure?, roots_eq_ofFailure?, Locator.directories_switchOff.1,
    Locator.directories_switchOff.2]
  simp only [hstop, firstOccurrences_nil, Locator.all, List.flatMap_cons, List.flatMap_nil,
    Locator.roots_switchOff_self, ne_eq, reduceCtorEq, not_false_eq_true,
    Locator.roots_switchOff_of_ne]
  -- In the list of candidates, nothing stands between the default application and the scan.
  rcases hroots with hnone | ⟨root, rest, hdefault, hsystem⟩
  · rw [hnone]
  · have hdups := List.eraseDups_append_cons_cons
      (Locator.active.roots s w ++ Locator.commandLineTools.roots s w)
      (rest ++ s.developerDirectories.map (⟨.developer, ·⟩) ++ s.sdksDirectories.map (⟨.sdks, ·⟩))
      root
    rw [hdefault, hsystem]
    simpa using congrArg (Except.ofFailure? _) hdups

/-- Where the test for the default application fails, a search that makes it has no roots. -/
theorem roots_of_defaultXcode_fails {failure : Failure} (hon : s.defaultXcode = true)
    (hscan : w.systemDeveloperDirectories = .ok paths)
    (hfails : w.defaultDeveloperDirectory? = .error failure) :
    (s.roots w).result =
      ((Locator.defaultXcode.switchOff s).roots w).result >>= fun _ => .error failure := by
  have hfind : Locator.defaultXcode.find w = .error failure := by rw [Locator.find, hfails]; rfl
  have hstop : Locator.defaultXcode.stop? s w = some failure := by
    simp [Locator.stop?, Locator.isOn, hon, hfind, Locator.passesOver]
  have hsystem (t : Search) : Locator.systemXcodes.stop? t w = none := by
    simp [Locator.stop?, Locator.find, hscan]
  have htools : Locator.commandLineTools.stop? (Locator.defaultXcode.switchOff s) w =
      Locator.commandLineTools.stop? s w := Locator.stop?_switchOff_of_ne (by decide)
  simp only [roots_eq_ofFailure?, Locator.all, List.findSome?_cons, List.findSome?_nil, stop?_active,
    hstop, hsystem, htools, Locator.stop?_switchOff_self]
  cases Locator.commandLineTools.stop? s w <;> rfl

/-! ## Searches with the same roots -/

/-- Searches that restrict and judge in the same way what their roots hold. -/
structure FiltersLike (s t : Search) : Prop where
  platform : s.platform = t.platform
  minimum : s.minimum = t.minimum
  maximum : s.maximum = t.maximum

/-- Searches with the same roots that filter alike have the same outcome. -/
theorem FiltersLike.run (h : s.FiltersLike t) (hroots : s.roots w = t.roots w) :
    s.run w kind = t.run w kind := by
  have hbounds : s.checkBounds = t.checkBounds := by
    rw [checkBounds, checkBounds, h.minimum, h.maximum]
  have haccepts : s.accepts = t.accepts := by
    funext sdk
    rw [accepts, accepts, h.minimum, h.maximum]
  exact run_congr hbounds hroots h.platform haccepts

/-- A scan of all applications that succeeds finds the default one first, if its developer directory
exists. So the roots are the same in the same order, and the search has the same outcome, whether the
default application is looked for as well or not, as long as the test for it answers. It does where
nothing is refused. It fails where the applications are listed but closed: nothing is found in them, and
a search that looks for the default application fails with the refusal, unless the test for the Command
Line Tools has stopped it before. -/
theorem roots_defaultXcode_of_scan (s : Search) (w : World) {paths : List Path}
    (hplaces : w.places.KeepsDefault) (hscan : w.systemDeveloperDirectories = .ok paths) :
    (∀ found, w.defaultDeveloperDirectory? = .ok found →
      ((s.apply (.systemXcodes true)).apply (.defaultXcode true)).roots w =
          ((s.apply (.systemXcodes true)).apply (.defaultXcode false)).roots w ∧
        (∀ kind, ((s.apply (.systemXcodes true)).apply (.defaultXcode true)).run w kind =
          ((s.apply (.systemXcodes true)).apply (.defaultXcode false)).run w kind) ∧
        ∀ developer ∈ found, paths.head? = some developer) ∧
      (w.root.Open → ∃ found, w.defaultDeveloperDirectory? = .ok found) ∧
      ∀ failure, w.defaultDeveloperDirectory? = .error failure →
        paths = [] ∧ (∃ refusal, w.AppsClosed refusal ∧
          failure = .system ⟨refusal.code, (developerPath w.places.xcodeApp).toString⟩) ∧
        (((s.apply (.systemXcodes true)).apply (.defaultXcode true)).roots w).result =
          (((s.apply (.systemXcodes true)).apply (.defaultXcode false)).roots w).result >>=
            fun _ => .error failure := by
  refine ⟨fun found hfound => ?_, fun hopen => ?_, fun failure hfails => ?_⟩
  · have hroots : ((s.apply (.systemXcodes true)).apply (.defaultXcode true)).roots w =
        ((s.apply (.systemXcodes true)).apply (.defaultXcode false)).roots w :=
      Asked.ext (roots_switchOff_defaultXcode hplaces rfl hscan hfound) rfl
    refine ⟨hroots, fun kind => FiltersLike.run ⟨rfl, rfl, rfl⟩ hroots, fun developer hmem => ?_⟩
    exact World.head?_of_scan hplaces hscan (hmem ▸ hfound)
  · cases hfound : w.defaultDeveloperDirectory? with
    | ok found => exact ⟨found, rfl⟩
    | error failure =>
      obtain ⟨-, refusal, hclosed, -⟩ := World.closed_of_scan hplaces hscan hfound
      exact absurd hclosed (World.not_appsClosed_of_open hplaces hopen refusal)
  · obtain ⟨hnothing, hclosed⟩ := World.closed_of_scan hplaces hscan hfails
    exact ⟨hnothing, hclosed, roots_of_defaultXcode_fails rfl hscan hfails⟩

/-- Both applications are found, and the default one of them first, although the listing delivers it
last. -/
theorem roots_defaultXcode_of_scan_crowded :
    crowdedWorld.places.KeepsDefault ∧ ∃ paths developer,
      crowdedWorld.systemDeveloperDirectories = .ok paths ∧
        paths.map Path.toString = ["/Applications/Xcode.app/Contents/Developer",
          "/Applications/Xcode-beta.app/Contents/Developer"] ∧
        crowdedWorld.defaultDeveloperDirectory? = .ok (some developer) ∧
        paths.head? = some developer ∧
        ((crowdedSearch.apply (.systemXcodes true)).apply (.defaultXcode true)).roots crowdedWorld =
          ((crowdedSearch.apply (.systemXcodes true)).apply (.defaultXcode false)).roots
            crowdedWorld := by
  have hscanned : (crowdedWorld.systemDeveloperDirectories.map fun paths =>
      paths.map Path.toString).toOption = some ["/Applications/Xcode.app/Contents/Developer",
        "/Applications/Xcode-beta.app/Contents/Developer"] := by
    decide +kernel
  have hexists : crowdedWorld.defaultDeveloperDirectory? =
      .ok (some (developerPath crowdedWorld.places.xcodeApp)) := by
    decide +kernel
  obtain ⟨paths, hscan, hscanned⟩ :=
    Except.map_eq_ok_iff.mp (Except.toOption_eq_some_iff.mp hscanned)
  obtain ⟨hanswers, -⟩ :=
    roots_defaultXcode_of_scan crowdedSearch crowdedWorld Places.standard_keepsDefault hscan
  obtain ⟨hroots, -, hfirst⟩ := hanswers _ hexists
  exact ⟨Places.standard_keepsDefault, paths, _, hscan, hscanned, hexists, hfirst _ rfl, hroots⟩

/-- Applications that can be listed but not entered, none of which is named like the default one. -/
def closedWorld : World :=
  .ofTree ((Node.directory { entering := some .permission }
    [(⟨"TextEdit.app", by decide⟩, .directory {} [])]).entriesTo Places.standard.applications.parts)

/-- The scan finds nothing, and whoever looks for the default application as well has no roots. -/
theorem roots_defaultXcode_closed :
    closedWorld.systemDeveloperDirectories = .ok [] ∧
      (({ developerDirectory := false, systemXcodes := true, defaultXcode := true } : Search).roots
        closedWorld).result =
          .error (.system ⟨13, "/Applications/Xcode.app/Contents/Developer"⟩) ∧
      (({ developerDirectory := false, systemXcodes := true, defaultXcode := false } : Search).roots
        closedWorld).result = .ok [] := by
  decide +kernel

end Search

end SdkScout
