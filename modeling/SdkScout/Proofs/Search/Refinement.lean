import SdkScout.Proofs.Sdk.Refinement
import SdkScout.Proofs.Search.Bounds

/-!
# Searches with and without settings

Which directories a search comes to does not depend on how much of an SDK it reads. So where a search
without version bounds succeeds with settings, it also succeeds by name alone, and what it finds with
settings refines those of the others that have a settings file, in the same order. Bounds would break
this: settings may carry another version than the name.
-/

namespace SdkScout.Search

variable {s : Search} {w : World}

theorem Completes.unparsed {roots : List SearchRoot} (h : s.Completes w .parsed roots)
    (hbounds : s.Unbounded) : s.Completes w .unparsed roots where
  expands := h.expands
  enumerates directory hdirectory := by
    obtain ⟨unparsed, hunparsed, -⟩ := Sdk.inDirectory_refines (h.enumerates directory hdirectory)
    simp [enumeration, hunparsed]
  judges _ _ sdk _ := by
    rw [admits, hbounds.accepts]
    rfl

/-- The directories of a search are enumerated one by one, and each enumeration refines. -/
theorem Unbounded.run_refines {parsed : List Sdk} (hbounds : s.Unbounded)
    (h : (s.run w .parsed).result = .ok parsed) :
    ∃ unparsed, (s.run w .unparsed).result = .ok unparsed ∧
      List.Forall₂ (Sdk.Refines w) parsed (unparsed.filter (w.holdsSettings ·.path)) := by
  obtain ⟨hwell, roots, hroots, hcompletes, rfl⟩ := run_eq_ok_iff.mp h
  refine ⟨_, run_eq_ok_iff.mpr ⟨hwell, roots, hroots, hcompletes.unparsed hbounds, rfl⟩, ?_⟩
  rw [hbounds.selection_eq, hbounds.selection_eq]
  refine List.forall₂_flatMap fun directory hdirectory => ?_
  obtain ⟨unparsed, hunparsed, hrefines⟩ :=
    Sdk.inDirectory_refines (hcompletes.enumerates directory hdirectory)
  simpa only [enumeration, hunparsed, Except.toOption_ok, Option.getD_some] using hrefines

/-- What is found with settings refines what is found without them, in a directory as in a search
without bounds. The latter has all the SDKs of the former and at the same paths; the others of it are
those that have no settings file. -/
theorem parsed_refines_unparsed (w : World) :
    (∀ directory parsed, Sdk.inDirectory w .parsed directory = .ok parsed →
      ∃ unparsed, Sdk.inDirectory w .unparsed directory = .ok unparsed ∧
        parsed.map (·.path) = (unparsed.map (·.path)).filter w.holdsSettings ∧
        List.Forall₂ (Sdk.Refines w) parsed (unparsed.filter (w.holdsSettings ·.path))) ∧
      ∀ s : Search, s.Unbounded → ∀ parsed, (s.run w .parsed).result = .ok parsed →
        ∃ unparsed, (s.run w .unparsed).result = .ok unparsed ∧
          parsed.map (·.path) = (unparsed.map (·.path)).filter w.holdsSettings ∧
          List.Forall₂ (Sdk.Refines w) parsed (unparsed.filter (w.holdsSettings ·.path)) := by
  constructor
  · intro directory parsed h
    obtain ⟨unparsed, hunparsed, hrefines⟩ := Sdk.inDirectory_refines h
    exact ⟨unparsed, hunparsed, Sdk.paths_eq_of_refines hrefines, hrefines⟩
  · intro s hbounds parsed h
    obtain ⟨unparsed, hunparsed, hrefines⟩ := hbounds.run_refines h
    exact ⟨unparsed, hunparsed, Sdk.paths_eq_of_refines hrefines, hrefines⟩

/-- An SDK with settings, a link to it, and an SDK without settings. -/
def linkedWorld : World :=
  let settings := "\x7b\"CanonicalName\": \"\", \"Version\": \"13.1\", " ++
    "\"DefaultProperties\": \x7b\"PLATFORM_NAME\": \"macosx\"\x7d\x7d"
  .ofTree [(opt, .directory {} [(⟨"Latest.sdk", by decide⟩, .link "MacOSX13.sdk"),
    (⟨"AppleTVOS16.sdk", by decide⟩, .directory {} []),
    (⟨"MacOSX13.sdk", by decide⟩,
      .directory {} [(Settings.jsonName, .file (.ok (Text.Utf8.encode settings.toList)))])])]

/-- What is known of an SDK without looking at its path. -/
def outline (sdk : Sdk) : Platform × Option Version × Bool :=
  (sdk.platform, sdk.version?, sdk.isSymlink)

/-- The settings know of a platform for the link, which its name does not, and of another version for
the SDK. -/
theorem parsed_refines_unparsed_linked :
    (∃ parsed unparsed, Sdk.inDirectory linkedWorld .parsed (.ofString "/opt") = .ok parsed ∧
        Sdk.inDirectory linkedWorld .unparsed (.ofString "/opt") = .ok unparsed ∧
        parsed.map (·.path) = (unparsed.map (·.path)).filter linkedWorld.holdsSettings) ∧
      versionsSearch.Unbounded ∧
      ∃ parsed unparsed, (versionsSearch.run linkedWorld .parsed).result = .ok parsed ∧
        (versionsSearch.run linkedWorld .unparsed).result = .ok unparsed ∧
        parsed.map outline =
          [(⟨"MacOSX"⟩, some ⟨"13.1"⟩, true), (⟨"MacOSX"⟩, some ⟨"13.1"⟩, false)] ∧
        unparsed.map outline = [(⟨"Latest"⟩, none, true), (⟨"AppleTVOS"⟩, some ⟨"16"⟩, false),
          (⟨"MacOSX"⟩, some ⟨"13"⟩, false)] ∧
        parsed.map (·.path) = (unparsed.map (·.path)).filter linkedWorld.holdsSettings ∧
        List.Forall₂ (Sdk.Refines linkedWorld) parsed
          (unparsed.filter (linkedWorld.holdsSettings ·.path)) := by
  obtain ⟨inDirectory, run⟩ := parsed_refines_unparsed linkedWorld
  constructor
  · have hparsed : (Sdk.inDirectory linkedWorld .parsed (.ofString "/opt")).failure? = none := by
      decide +kernel
    obtain ⟨parsed, hparsed⟩ := Except.failure?_eq_none_iff_exists.mp hparsed
    obtain ⟨unparsed, hunparsed, hpaths, -⟩ := inDirectory _ parsed hparsed
    exact ⟨parsed, unparsed, hparsed, hunparsed, hpaths⟩
  · have hbounds : versionsSearch.Unbounded := ⟨rfl, rfl⟩
    have hparsed : ((versionsSearch.run linkedWorld .parsed).result.map (·.map outline)).toOption =
        some [(⟨"MacOSX"⟩, some ⟨"13.1"⟩, true), (⟨"MacOSX"⟩, some ⟨"13.1"⟩, false)] := by
      decide +kernel
    have hunparsed :
        ((versionsSearch.run linkedWorld .unparsed).result.map (·.map outline)).toOption =
          some [(⟨"Latest"⟩, none, true), (⟨"AppleTVOS"⟩, some ⟨"16"⟩, false),
            (⟨"MacOSX"⟩, some ⟨"13"⟩, false)] := by
      decide +kernel
    obtain ⟨parsed, hrun, hparsed⟩ := Except.map_eq_ok_iff.mp (Except.toOption_eq_some_iff.mp hparsed)
    obtain ⟨unparsed, hrun', hrefines⟩ := run versionsSearch hbounds parsed hrun
    rw [hrun'] at hunparsed
    exact ⟨hbounds, parsed, unparsed, hrun, hrun', hparsed, Option.some.inj hunparsed, hrefines⟩

end SdkScout.Search
