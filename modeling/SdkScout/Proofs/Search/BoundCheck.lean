import SdkScout.Proofs.Sdk.Unannounced
import SdkScout.Proofs.Search.Bounds
import SdkScout.Proofs.Search.Locators

/-!
# Malformed bounds

A search reads its bounds before it looks at anything, the lower one first, and fails with the first
that is malformed. Nothing else makes it fail in this way: looking for roots and listing directories
fail as the system does, settings have failures of their own, and a malformed version that is judged
by the bounds is ordered as `0.0.0` (`Search.run_eq_malformedVersion_iff`).
-/

namespace SdkScout

theorem Failure.IsOfSystem.ne_malformedVersion {failure : Failure} (h : failure.IsOfSystem)
    (text : String) : failure ≠ .malformedVersion text := by
  cases h <;> simp

namespace World

variable {w : World} {path : Path} {failure : Failure}

theorem isOfSystem_existing? (h : w.existing? path = .error failure) : failure.IsOfSystem := by
  obtain ⟨code, rfl, -⟩ := exists_of_test_eq_error (existing?_eq_error_iff.mp h)
  exact .system _

/-- Looking for applications fails as the system does. -/
theorem isOfSystem_systemDeveloperDirectories
    (h : w.systemDeveloperDirectories = .error failure) : failure.IsOfSystem := by
  rcases systemDeveloperDirectories_fails h with hlisting | ⟨app, htest⟩
  · exact isOfSystem_childrenIfPresent hlisting
  · exact isOfSystem_existing? htest

end World

theorem SearchRoot.isOfSystem_sdksDirectories {w : World} {platform : Option Platform}
    {root : SearchRoot} {failure : Failure}
    (h : root.sdksDirectories w platform = .error failure) : failure.IsOfSystem := by
  rw [sdksDirectories] at h
  split at h
  · cases h
  · rcases Except.bind_eq_error_iff.mp h with hdirectories | ⟨_, -, hfiltered⟩
    · rcases Except.bind_eq_error_iff.mp hdirectories with hlisting | ⟨_, -, hsorted⟩
      · exact World.isOfSystem_childrenIfPresent hlisting
      · cases hsorted
    · cases hfiltered

theorem Locator.isOfSystem_stop? {s : Search} {w : World} {l : Locator} {failure : Failure}
    (h : l.stop? s w = some failure) : failure.IsOfSystem := by
  rw [stop?] at h
  split at h
  · obtain ⟨hfails, hpasses⟩ := Option.filter_eq_some_iff.mp h
    have hfind := Except.failure?_eq_some_iff.mp hfails
    cases l with
    | active => cases hpasses
    | commandLineTools | defaultXcode =>
      exact World.isOfSystem_existing? (Except.map_eq_error_iff.mp hfind)
    | systemXcodes => exact World.isOfSystem_systemDeveloperDirectories hfind
  · cases h

namespace Sdk

variable {w : World} {kind : SdkKind} {path directory : Path} {failure : Failure} {text : String}

/-- No SDK fails for a malformed version, not even its own. -/
theorem ofDirectory_ne_malformedVersion :
    ofDirectory w path kind ≠ .error (.malformedVersion text) := by
  intro h
  cases hpath : SdkPath.ofPath? path with
  | none => cases (ofDirectory_eq_notSdk hpath).symm.trans h
  | some sdkPath =>
    cases kind with
    | unparsed =>
      rw [ofDirectory_unparsed_eq hpath, Except.map_eq_error_iff] at h
      obtain ⟨_, hfailure, -⟩ := World.exists_of_test_eq_error h
      cases hfailure
    | parsed =>
      have hnot : ¬ (Failure.malformedVersion text).IsAnnounced := by
        intro hannounced
        cases hannounced
      rcases (ofDirectory_parsed_eq_error_iff hpath hnot).mp h with hsettings | ⟨_, -, hplatform⟩
      · obtain ⟨_, _, -, hrefuses | ⟨_, -, _, -, hobstructs⟩⟩ :=
          (Settings.ofDirectory_eq_error_iff_of_not_isAnnounced hnot).mp hsettings
        · cases hrefuses
        · cases hobstructs
      · cases (settledPlatform_eq_error_iff.mp hplatform).1

theorem inDirectory_ne_malformedVersion :
    inDirectory w kind directory ≠ .error (.malformedVersion text) := by
  intro h
  rcases inDirectory_fails h with hlisting | ⟨_, hsdk⟩
  · exact (World.isOfSystem_childrenIfPresent hlisting).ne_malformedVersion text rfl
  · exact ofDirectory_ne_malformedVersion hsdk

end Sdk

namespace Search

variable {s : Search} {w : World} {kind : SdkKind} {failure : Failure} {text : String}

/-- The first bound that is malformed: the lower one, or the upper one if the lower is not set or has
a reading. -/
inductive FirstMalformed (s : Search) : Version → Prop
  | minimum {v : Version} : s.minimum = some v → v.normalized = .error .malformed →
    FirstMalformed s v
  | maximum {v : Version} : (∀ u, s.minimum = some u → ∃ key, u.normalized = .ok key) →
    s.maximum = some v → v.normalized = .error .malformed → FirstMalformed s v

theorem checkBound_eq_malformedVersion_iff {bound : Option Version} :
    checkBound bound = .error (.malformedVersion text) ↔
      ∃ v, bound = some v ∧ v.normalized = .error .malformed ∧ v.text = text := by
  cases bound with
  | none => simp [checkBound]
  | some v =>
    cases h : v.normalized with
    | ok key => simp [checkBound, h]
    | error fault => cases fault <;> simp [checkBound, h, Failure.ofVersion]

/-- The check of the bounds fails for the first that is malformed. -/
theorem checkBounds_eq_malformedVersion_iff :
    s.checkBounds = .error (.malformedVersion text) ↔ ∃ v, s.FirstMalformed v ∧ v.text = text := by
  rw [checkBounds, Except.bind_eq_error_iff]
  simp only [checkBound_eq_malformedVersion_iff]
  constructor
  · rintro (⟨v, hmin, hv, rfl⟩ | ⟨⟨⟩, hmin, v, hmax, hv, rfl⟩)
    · exact ⟨v, .minimum hmin hv, rfl⟩
    · exact ⟨v, .maximum (checkBound_eq_ok_iff.mp hmin) hmax hv, rfl⟩
  · rintro ⟨v, hmin | ⟨hmin, hmax, hv⟩, rfl⟩
    · exact .inl ⟨v, hmin, ‹_›, rfl⟩
    · exact .inr ⟨(), checkBound_eq_ok_iff.mpr hmin, v, hmax, hv, rfl⟩

/-- A comparison with a bound fails for oversized versions only. -/
theorem satisfies_eq_error {allowed : Ordering → Bool} {version bound : Option Version}
    (h : satisfies allowed version bound = .error failure) : failure = .oversizedVersion := by
  cases bound with
  | none => cases h
  | some b =>
    cases version with
    | none => cases h
    | some v =>
      rw [satisfies, Version.order_eq_ite] at h
      by_cases hover : v.Oversized ∨ b.Oversized
      · rw [if_pos hover] at h
        cases h
        rfl
      · rw [if_neg hover] at h
        cases h

theorem accepts_eq_error {sdk : Sdk} (h : s.accepts sdk = .error failure) :
    failure = .oversizedVersion := by
  rcases Except.bind_eq_error_iff.mp h with hmin | ⟨accepted, -, h⟩
  · exact satisfies_eq_error hmin
  · cases accepted with
    | false => cases h
    | true => exact satisfies_eq_error h

theorem stepFailure?_ne_malformedVersion (step : Step) :
    s.stepFailure? w kind step ≠ some (.malformedVersion text) := by
  intro h
  cases step with
  | expand root =>
    have hfails := Except.failure?_eq_some_iff.mp h
    exact (SearchRoot.isOfSystem_sdksDirectories hfails).ne_malformedVersion text rfl
  | enumerate directory =>
    exact Sdk.inDirectory_ne_malformedVersion (Except.failure?_eq_some_iff.mp h)
  | judge sdk => cases accepts_eq_error (Except.failure?_eq_some_iff.mp h)

/-- A search whose bounds are in order does not fail with a malformed version. -/
theorem WellBounded.run_ne_malformedVersion (h : s.WellBounded) :
    (s.run w kind).result ≠ .error (.malformedVersion text) := by
  intro hrun
  rw [run_eq_inRoots h, roots_eq_ofFailure?] at hrun
  rcases Except.bind_eq_error_iff.mp hrun with hroots | ⟨roots, -, hsteps⟩
  · rw [Except.ofFailure?_eq_error_iff] at hroots
    obtain ⟨l, -, hstop⟩ := List.exists_of_findSome?_eq_some hroots
    exact (Locator.isOfSystem_stop? hstop).ne_malformedVersion text rfl
  · rw [inRoots_nil_eq_ofFailure?, Except.ofFailure?_eq_error_iff] at hsteps
    obtain ⟨step, -, hstep⟩ := List.exists_of_findSome?_eq_some hsteps
    exact stepFailure?_ne_malformedVersion step hstep

/-- A search with a bad bound asks for nothing. -/
theorem run_of_checkBounds (h : s.checkBounds = .error failure) :
    s.run w kind = ⟨.error failure, 0⟩ := by
  rw [run, h]

/-- A search fails with a malformed version exactly if one of its bounds is malformed, with the first
of these; then it fails so in every world and does not run the helper. -/
theorem run_eq_malformedVersion_iff (s : Search) (kind : SdkKind) :
    (∀ v, s.FirstMalformed v → ∀ w, s.run w kind = ⟨.error (.malformedVersion v.text), 0⟩) ∧
      (∀ w text, (s.run w kind).result = .error (.malformedVersion text) ↔
        ∃ v, s.FirstMalformed v ∧ v.text = text) ∧
      (s.WellBounded → ∀ w text, (s.run w kind).result ≠ .error (.malformedVersion text)) := by
  have hfails : ∀ v, s.FirstMalformed v →
      ∀ w, s.run w kind = ⟨.error (.malformedVersion v.text), 0⟩ := fun v hv w =>
    run_of_checkBounds (checkBounds_eq_malformedVersion_iff.mpr ⟨v, hv, rfl⟩)
  refine ⟨hfails, fun w text => ⟨fun hrun => ?_, ?_⟩, fun h w text => h.run_ne_malformedVersion⟩
  · cases hbounds : s.checkBounds with
    | ok _ => exact absurd hrun (checkBounds_eq_ok_iff.mp hbounds).run_ne_malformedVersion
    | error failure =>
      rw [run_of_checkBounds hbounds] at hrun
      cases hrun
      exact checkBounds_eq_malformedVersion_iff.mp hbounds
  · rintro ⟨v, hv, rfl⟩
    rw [hfails v hv]

/-- Of two malformed bounds the lower one counts, and a malformed version among the SDKs does not. -/
theorem run_eq_malformedVersion_lower :
    (versionsSearch.within (some ⟨"1.x"⟩) (some ⟨"2.y"⟩)).FirstMalformed ⟨"1.x"⟩ ∧
      (versionsSearch.within (some ⟨"1.x"⟩) (some ⟨"2.y"⟩)).run versionsWorld .parsed =
        ⟨.error (.malformedVersion "1.x"), 0⟩ ∧
      (versionsSearch.within (some ⟨"1"⟩) none).WellBounded ∧
      ((versionsSearch.within (some ⟨"1"⟩) none).run versionsWorld .unparsed).result ≠
        .error (.malformedVersion "13.beta") := by
  have hfirst : (versionsSearch.within (some ⟨"1.x"⟩) (some ⟨"2.y"⟩)).FirstMalformed ⟨"1.x"⟩ :=
    .minimum rfl (by decide +kernel)
  have hbounds : (versionsSearch.within (some ⟨"1"⟩) none).WellBounded := by
    rintro v (hv | hv)
    · cases hv
      exact ⟨⟨1, 0, 0⟩, by decide +kernel⟩
    · cases hv
  exact ⟨hfirst, (run_eq_malformedVersion_iff _ .parsed).1 _ hfirst _, hbounds,
    (run_eq_malformedVersion_iff _ .unparsed).2.2 hbounds _ _⟩

end Search

end SdkScout
