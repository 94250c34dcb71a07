import SdkScout.Proofs.Listing

/-!
# The schedule of a search

A search goes from root to root and keeps a list of the directories that it has searched. Here the
same is said without that list. `Search.schedule` is everything that a search does, in order: it
expands a root, and in each directory that no root before it expands to, it enumerates the SDKs and
judges them by the version bounds. `Search.selection` is what it finds: the admitted SDKs of the
directories of all roots, each directory at its first occurrence.

A search fails with the failure of the first step of its schedule that fails, or else finds its
selection (`Search.inRoots_nil_eq_ofFailure?`). The steps behind a failing step do not matter, so the
parts of a schedule may be stated with no directories and no SDKs where the step that yields them
fails.
-/

namespace SdkScout.Search

/-- What a search does at a time. -/
inductive Step
  | expand (root : SearchRoot)
  | enumerate (directory : Path)
  | judge (sdk : Sdk)

section
variable (s : Search) (w : World) (kind : SdkKind)

/-- How a step fails, if it does. -/
def stepFailure? : Step → Option Failure
  | .expand root => (root.sdksDirectories w s.platform).failure?
  | .enumerate directory => (Sdk.inDirectory w kind directory).failure?
  | .judge sdk => (s.accepts sdk).failure?

/-- The directories that a root stands for. -/
def expansion (root : SearchRoot) : List Path :=
  (root.sdksDirectories w s.platform).toOption.getD []

/-- The SDKs in a directory. -/
def enumeration (directory : Path) : List Sdk :=
  (Sdk.inDirectory w kind directory).toOption.getD []

/-- Whether the version bounds let an SDK through. -/
def admits (sdk : Sdk) : Bool :=
  (s.accepts sdk).toOption.getD false

/-- The steps in a directory. -/
def directorySteps (directory : Path) : List Step :=
  .enumerate directory :: (enumeration w kind directory).map .judge

/-- The directories that a root stands for and no earlier root does. -/
def newDirectories (earlier : List SearchRoot) (root : SearchRoot) : List Path :=
  ((s.expansion w root).removeAll (earlier.flatMap (s.expansion w))).eraseDups

/-- The steps of a search of roots that come after others. -/
def schedule (earlier : List SearchRoot) : List SearchRoot → List Step
  | [] => []
  | root :: roots =>
    .expand root :: ((s.newDirectories w earlier root).flatMap (directorySteps w kind) ++
      schedule (earlier ++ [root]) roots)

/-- The directories of some roots, each at its first occurrence. -/
def searchedDirectories (roots : List SearchRoot) : List Path :=
  (roots.flatMap (s.expansion w)).eraseDups

/-- The SDKs that a search of some roots is to find. -/
def selection (roots : List SearchRoot) : List Sdk :=
  ((s.searchedDirectories w roots).flatMap (enumeration w kind)).filter s.admits

/-- The bounds that are set have a reading. -/
def WellBounded : Prop :=
  ∀ v, s.minimum = some v ∨ s.maximum = some v → ∃ key, v.normalized = .ok key

end

variable {s : Search} {w : World} {kind : SdkKind}

theorem checkBound_eq_ok_iff {bound : Option Version} :
    checkBound bound = .ok () ↔ ∀ v, bound = some v → ∃ key, v.normalized = .ok key := by
  cases bound with
  | none => simp [checkBound]
  | some v => cases h : v.normalized <;> simp [checkBound, h]

theorem checkBounds_eq_ok_iff : s.checkBounds = .ok () ↔ s.WellBounded := by
  have h : s.checkBounds = .ok () ↔
      checkBound s.minimum = .ok () ∧ checkBound s.maximum = .ok () := by
    rw [checkBounds]
    cases checkBound s.minimum <;> simp
  simp only [h, checkBound_eq_ok_iff, WellBounded, or_imp, forall_and]

/-- SDKs are judged one after the other, up to the first that cannot be. -/
theorem keep_eq_ofFailure? (sdks : List Sdk) :
    s.keep sdks = .ofFailure? ((sdks.map .judge).findSome? (s.stepFailure? w kind))
      (sdks.filter s.admits) := by
  induction sdks with
  | nil => rfl
  | cons sdk sdks ih =>
    rw [keep, ih, List.map_cons, List.findSome?_cons, List.filter_cons, admits, stepFailure?]
    cases s.accepts sdk with
    | error _ => rfl
    | ok accepted =>
      cases (sdks.map .judge).findSome? (s.stepFailure? w kind) <;> cases accepted <;> rfl

theorem inDirectory_keep_eq_ofFailure? (directory : Path) :
    Sdk.inDirectory w kind directory >>= s.keep =
      .ofFailure? ((directorySteps w kind directory).findSome? (s.stepFailure? w kind))
        ((enumeration w kind directory).filter s.admits) := by
  rw [directorySteps, List.findSome?_cons, stepFailure?, enumeration]
  cases Sdk.inDirectory w kind directory with
  | error _ => rfl
  | ok sdks => exact keep_eq_ofFailure? sdks

/-- Directories that come up again are not searched again. -/
theorem inDirectories_eq_ofFailure? (searched directories : List Path) :
    s.inDirectories w kind searched directories =
      .ofFailure? (((firstOccurrences searched directories).flatMap
          (directorySteps w kind)).findSome? (s.stepFailure? w kind))
        (((firstOccurrences searched directories).flatMap (enumeration w kind)).filter s.admits,
          (firstOccurrences searched directories).reverse ++ searched) := by
  induction directories generalizing searched with
  | nil => rfl
  | cons directory directories ih =>
    rw [inDirectories, firstOccurrences]
    split
    · exact ih searched
    · rw [← bind_assoc, inDirectory_keep_eq_ofFailure?, ih, List.flatMap_cons,
        List.findSome?_append, Except.ofFailure?_or]
      generalize (directorySteps w kind directory).findSome? (s.stepFailure? w kind) = first
      generalize List.findSome? (s.stepFailure? w kind) _ = second
      cases first <;> cases second <;> simp

theorem eraseDups_flatMap_cons (earlier : List SearchRoot) (root : SearchRoot)
    (roots : List SearchRoot) :
    (((root :: roots).flatMap (s.expansion w)).removeAll
        (earlier.flatMap (s.expansion w))).eraseDups =
      s.newDirectories w earlier root ++ ((roots.flatMap (s.expansion w)).removeAll
        ((earlier ++ [root]).flatMap (s.expansion w))).eraseDups := by
  rw [List.flatMap_cons, List.eraseDups_append_removeAll, List.flatMap_append,
    List.flatMap_singleton, newDirectories]

/-- The invariant of the loop over the roots: the directories that have been searched are those that
the earlier roots expand to. -/
theorem inRoots_eq_ofFailure? (roots earlier : List SearchRoot) (searched : List Path)
    (h : ∀ d, d ∈ searched ↔ d ∈ earlier.flatMap (s.expansion w)) :
    s.inRoots w kind searched roots =
      .ofFailure? ((s.schedule w kind earlier roots).findSome? (s.stepFailure? w kind))
        ((((roots.flatMap (s.expansion w)).removeAll
          (earlier.flatMap (s.expansion w))).eraseDups.flatMap
            (enumeration w kind)).filter s.admits) := by
  induction roots generalizing earlier searched with
  | nil => rfl
  | cons root roots ih =>
    rw [inRoots, schedule, List.findSome?_cons, stepFailure?]
    cases hroot : root.sdksDirectories w s.platform with
    | error _ => rfl
    | ok directories =>
      have hexp : s.expansion w root = directories := by simp [expansion, hroot]
      have hnew : firstOccurrences searched directories = s.newDirectories w earlier root := by
        rw [firstOccurrences_eq, List.removeAll_congr h, newDirectories, hexp]
      have hsearched : ∀ d, d ∈ (s.newDirectories w earlier root).reverse ++ searched ↔
          d ∈ (earlier ++ [root]).flatMap (s.expansion w) := by
        intro d
        simp only [newDirectories, List.mem_append, List.mem_reverse, List.mem_eraseDups,
          List.mem_removeAll, h, List.flatMap_append, List.flatMap_singleton]
        tauto
      rw [Except.ok_bind, inDirectories_eq_ofFailure?, hnew, eraseDups_flatMap_cons,
        List.flatMap_append, List.filter_append, List.findSome?_append, Except.failure?_ok]
      cases ((s.newDirectories w earlier root).flatMap (directorySteps w kind)).findSome?
          (s.stepFailure? w kind) with
      | some failure => rfl
      | none =>
        simp only [Except.ofFailure?_none, Except.ok_bind, ih _ _ hsearched, Option.none_or]
        cases (s.schedule w kind (earlier ++ [root]) roots).findSome? (s.stepFailure? w kind) with
        | some failure => simp
        | none => simp

theorem inRoots_nil_eq_ofFailure? (roots : List SearchRoot) :
    s.inRoots w kind [] roots =
      .ofFailure? ((s.schedule w kind [] roots).findSome? (s.stepFailure? w kind))
        (s.selection w kind roots) := by
  rw [inRoots_eq_ofFailure? roots [] [] (by simp), List.flatMap_nil, List.removeAll_nil]
  rfl

/-- A search with well-formed bounds goes through its roots. -/
theorem run_eq_inRoots (h : s.WellBounded) :
    (s.run w kind).result = (s.roots w).result >>= s.inRoots w kind [] := by
  rw [run, checkBounds_eq_ok_iff.mpr h]

/-! ## Searches that are run alike -/

section
variable {t : Search}

theorem keep_congr (h : s.accepts = t.accepts) (sdks : List Sdk) : s.keep sdks = t.keep sdks := by
  induction sdks with
  | nil => rfl
  | cons sdk sdks ih => rw [keep, keep, ih, h]

theorem inDirectories_congr (h : s.accepts = t.accepts) (searched directories : List Path) :
    s.inDirectories w kind searched directories = t.inDirectories w kind searched directories := by
  induction directories generalizing searched with
  | nil => rfl
  | cons directory directories ih =>
    simp only [inDirectories, ih, keep_congr h]

theorem inRoots_congr (hplatform : s.platform = t.platform) (h : s.accepts = t.accepts)
    (searched : List Path) (roots : List SearchRoot) :
    s.inRoots w kind searched roots = t.inRoots w kind searched roots := by
  induction roots generalizing searched with
  | nil => rfl
  | cons root roots ih =>
    simp only [inRoots, ih, inDirectories_congr h, hplatform]

/-- The roots, the platform and the judgement of SDKs make a search, once its bounds are checked. -/
theorem run_congr (hbounds : s.checkBounds = t.checkBounds) (hroots : s.roots w = t.roots w)
    (hplatform : s.platform = t.platform) (haccepts : s.accepts = t.accepts) :
    s.run w kind = t.run w kind := by
  simp only [run, hbounds, hroots, inRoots_congr hplatform haccepts]

end

/-! ## Searches that succeed -/

/-- No step of a search of some roots fails. -/
structure Completes (s : Search) (w : World) (kind : SdkKind) (roots : List SearchRoot) : Prop where
  expands : ∀ root ∈ roots, root.sdksDirectories w s.platform = .ok (s.expansion w root)
  enumerates : ∀ directory ∈ s.searchedDirectories w roots,
    Sdk.inDirectory w kind directory = .ok (enumeration w kind directory)
  judges : ∀ directory ∈ s.searchedDirectories w roots, ∀ sdk ∈ enumeration w kind directory,
    s.accepts sdk = .ok (s.admits sdk)

/-- The steps of a search: each root is expanded, and each new directory searched. -/
theorem mem_schedule_iff {earlier roots : List SearchRoot} {step : Step} :
    step ∈ s.schedule w kind earlier roots ↔ (∃ root ∈ roots, step = .expand root) ∨
      ∃ directory ∈ ((roots.flatMap (s.expansion w)).removeAll
        (earlier.flatMap (s.expansion w))).eraseDups, step ∈ directorySteps w kind directory := by
  induction roots generalizing earlier with
  | nil => simp [schedule]
  | cons root roots ih =>
    simp only [schedule, eraseDups_flatMap_cons, List.mem_cons, List.mem_append, List.mem_flatMap,
      ih, or_and_right, exists_or, exists_eq_left, or_assoc]
    rw [or_left_comm (b := ∃ r ∈ roots, step = .expand r)]

/-- A search completes if none of its steps fails. -/
theorem findSome?_schedule_eq_none_iff {roots : List SearchRoot} :
    (s.schedule w kind [] roots).findSome? (s.stepFailure? w kind) = none ↔
      s.Completes w kind roots := by
  simp only [List.findSome?_eq_none_iff, mem_schedule_iff, List.flatMap_nil, List.removeAll_nil]
  constructor
  · intro h
    have hdir : ∀ directory ∈ s.searchedDirectories w roots,
        ∀ step ∈ directorySteps w kind directory, s.stepFailure? w kind step = none :=
      fun directory hd step hstep => h step (.inr ⟨directory, hd, hstep⟩)
    refine ⟨fun root hroot => ?_, fun directory hd => ?_, fun directory hd sdk hsdk => ?_⟩
    · exact (Except.failure?_eq_none_iff _).mp (h (.expand root) (.inl ⟨root, hroot, rfl⟩))
    · exact (Except.failure?_eq_none_iff _).mp (hdir directory hd _ List.mem_cons_self)
    · refine (Except.failure?_eq_none_iff _).mp (hdir directory hd (.judge sdk) ?_)
      exact List.mem_cons_of_mem _ (List.mem_map_of_mem hsdk)
  · rintro h step (⟨root, hroot, rfl⟩ | ⟨directory, hd, hstep⟩)
    · exact (Except.failure?_eq_none_iff _).mpr (h.expands root hroot)
    · rcases List.mem_cons.mp hstep with rfl | hstep
      · exact (Except.failure?_eq_none_iff _).mpr (h.enumerates directory hd)
      · obtain ⟨sdk, hsdk, rfl⟩ := List.mem_map.mp hstep
        exact (Except.failure?_eq_none_iff _).mpr (h.judges directory hd sdk hsdk)

theorem run_eq_ok_iff {sdks : List Sdk} :
    (s.run w kind).result = .ok sdks ↔ s.WellBounded ∧ ∃ roots, (s.roots w).result = .ok roots ∧
      s.Completes w kind roots ∧ s.selection w kind roots = sdks := by
  by_cases hbounds : s.WellBounded
  · simp only [run_eq_inRoots hbounds, Except.bind_eq_ok_iff, inRoots_nil_eq_ofFailure?,
      Except.ofFailure?_eq_ok_iff, findSome?_schedule_eq_none_iff, hbounds, true_and]
  · refine iff_of_false (fun h => hbounds (checkBounds_eq_ok_iff.mp ?_)) (hbounds ·.1)
    rw [run] at h
    split at h
    · cases h
    · assumption

theorem mem_selection_iff {roots : List SearchRoot} {sdk : Sdk} :
    sdk ∈ s.selection w kind roots ↔ ∃ root ∈ roots, ∃ directory ∈ s.expansion w root,
      sdk ∈ enumeration w kind directory ∧ s.admits sdk = true := by
  simp only [selection, searchedDirectories, List.mem_filter, List.mem_flatMap, List.mem_eraseDups]
  tauto

/-! ## The order of the schedule -/

/-- What comes later does not change what comes first. -/
theorem schedule_append (earlier before roots : List SearchRoot) :
    s.schedule w kind earlier (before ++ roots) =
      s.schedule w kind earlier before ++ s.schedule w kind (earlier ++ before) roots := by
  induction before generalizing earlier with
  | nil => simp [schedule]
  | cons root before ih => simp [schedule, ih]

theorem expansion_developer {root : SearchRoot} (h : root.kind = .developer) :
    ∃ platforms : List PlatformDirectory, s.expansion w root = platforms.map (·.sdksPath) ∧
      platforms.Pairwise fun d e => d.path < e.path := by
  rw [expansion, SearchRoot.sdksDirectories, h]
  cases hdirs : w.platformDirectories root.path with
  | error _ => exact ⟨[], rfl, .nil⟩
  | ok ds => exact ⟨_, rfl, (World.platformDirectories_pairwise hdirs).filter _⟩

theorem paths_enumeration_sublist (directory : Path) :
    ((enumeration w kind directory).map (·.path)).Sublist
      ((w.childrenIfPresent directory).toOption.getD []) := by
  cases h : Sdk.inDirectory w kind directory with
  | error _ => simp [enumeration, h]
  | ok sdks =>
    obtain ⟨cs, hcs, hsub⟩ := Sdk.paths_inDirectory_sublist h
    simpa [enumeration, h, hcs] using hsub

/-- A search with well-formed bounds fails as the first failing step of its schedule, or else finds
its selection. In the schedule a root is expanded behind all steps for the roots before it; a
developer directory expands in the order of its platforms' paths; and the SDKs of a directory stand
in the order of its listing. -/
theorem run_eq_first_failure_or_selection (s : Search) (w : World) (kind : SdkKind)
    (h : s.WellBounded) :
    (s.run w kind).result = (do
        let roots ← (s.roots w).result
        .ofFailure? ((s.schedule w kind [] roots).findSome? (s.stepFailure? w kind))
          (s.selection w kind roots)) ∧
      (∀ before root after, s.schedule w kind [] before ++ [.expand root] <+:
        s.schedule w kind [] (before ++ root :: after)) ∧
      (∀ root, root.kind = .developer → ∃ platforms : List PlatformDirectory,
        s.expansion w root = platforms.map (·.sdksPath) ∧
          platforms.Pairwise fun d e => d.path < e.path) ∧
      ∀ directory, ((enumeration w kind directory).map (·.path)).Sublist
        ((w.childrenIfPresent directory).toOption.getD []) := by
  refine ⟨?_, fun before root after => ?_, fun _ => expansion_developer, paths_enumeration_sublist⟩
  · rw [run_eq_inRoots h]
    exact bind_congr inRoots_nil_eq_ofFailure?
  · rw [schedule_append, schedule]
    exact (List.prefix_append_right_inj _).mpr ⟨_, rfl⟩

def opt : Path.Component := ⟨"opt", by decide⟩

def macOsxPlatform : Path.Component := ⟨"MacOSX.platform", by decide⟩

/-- A developer directory with two SDKs, which is the active one. -/
def smallWorld : World :=
  { World.ofTree [(opt, .developerTree [(macOsxPlatform,
      [⟨"MacOSX10.15.sdk", by decide⟩, ⟨"MacOSX13.3.sdk", by decide⟩, ⟨"README", by decide⟩])])] with
    environment := [("DEVELOPER_DIR", "/opt")] }

/-- A search that comes to the same directory of SDKs in three ways. -/
def overlappingSearch : Search where
  developerDirectories := [.ofString "/opt/"]
  sdksDirectories := [.ofString "/opt/Platforms/MacOSX.platform/Developer/SDKs"]

/-- Of the two SDKs, the bound lets one through. -/
def boundedSearch : Search :=
  overlappingSearch.apply (.minimum ⟨"11"⟩)

theorem run_boundedSearch :
    boundedSearch.WellBounded ∧
      (boundedSearch.run smallWorld .unparsed).result = (do
        let roots ← (boundedSearch.roots smallWorld).result
        .ofFailure? ((boundedSearch.schedule smallWorld .unparsed [] roots).findSome?
            (boundedSearch.stepFailure? smallWorld .unparsed))
          (boundedSearch.selection smallWorld .unparsed roots)) ∧
      ((boundedSearch.run smallWorld .unparsed).result.map fun sdks =>
        sdks.map (·.path.toString)).toOption =
          some ["/opt/Platforms/MacOSX.platform/Developer/SDKs/MacOSX13.3.sdk"] := by
  have hbounds : boundedSearch.WellBounded := by
    rintro v (hv | hv)
    · cases hv
      exact ⟨⟨11, 0, 0⟩, by decide +kernel⟩
    · cases hv
  exact ⟨hbounds, (run_eq_first_failure_or_selection _ _ _ hbounds).1, by decide +kernel⟩

end SdkScout.Search
