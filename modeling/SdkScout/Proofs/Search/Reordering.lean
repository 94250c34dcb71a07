import SdkScout.Proofs.Reordering
import SdkScout.Proofs.Search.Locators
import SdkScout.Proofs.Search.Schedule

/-!
# Searches and the order of listings

Where listings come in another order, a search has the same roots and goes through the same directories
of SDKs in the same order. Only the SDKs of one directory can change places (`Search.run_of_reordered`).
Whether a search succeeds does not depend on the order either, but which failure it reports may: an
enumeration fails with the first entry that stops it.
-/

namespace SdkScout.Search

/-- What a search takes from a directory. -/
def findings (s : Search) (w : World) (kind : SdkKind) (directory : Path) : List Sdk :=
  (enumeration w kind directory).filter s.admits

theorem selection_eq_flatMap {s : Search} {w : World} {kind : SdkKind} (roots : List SearchRoot) :
    s.selection w kind roots =
      (s.searchedDirectories w roots).flatMap (s.findings w kind) := by
  rw [selection, List.filter_flatMap]
  rfl

section
variable {s : Search} {w w' : World} {kind : SdkKind} (h : w.Reordered w')
include h

theorem find_reordered (l : Locator) : l.find w = l.find w' := by
  cases l with
  | active => rw [Locator.find, Locator.find, h.activeDeveloperDirectory]
  | commandLineTools =>
    simp only [Locator.find, World.commandLineToolsSdks?, World.toolsSdksDirectory?, h.places,
      h.existing?]
  | defaultXcode =>
    simp only [Locator.find, World.defaultDeveloperDirectory?, World.appDeveloperDirectory?,
      h.places, h.existing?]
  | systemXcodes => exact h.systemDeveloperDirectories

/-- The roots do not depend on the order of any listing. -/
theorem roots_reordered : s.roots w = s.roots w' := by
  refine roots_congr (fun l _ => find_reordered h l) fun _ => ?_
  rw [h.activeDeveloperDirectory]

theorem sdksDirectories_reordered (platform : Option Platform) (root : SearchRoot) :
    root.sdksDirectories w platform = root.sdksDirectories w' platform := by
  simp only [SearchRoot.sdksDirectories, h.platformDirectories]

theorem expansion_reordered : s.expansion w = s.expansion w' :=
  funext fun root => by rw [expansion, expansion, sdksDirectories_reordered h]

/-- A directory gives the same SDKs in another order. -/
theorem enumeration_reordered (directory : Path) :
    (enumeration w kind directory).Perm (enumeration w' kind directory) := by
  rw [enumeration, enumeration]
  cases hsdks : Sdk.inDirectory w kind directory with
  | ok sdks =>
    obtain ⟨sdks', hsdks', hperm⟩ := Sdk.inDirectory_reordered h hsdks
    rw [hsdks']
    exact hperm
  | error failure =>
    cases hsdks' : Sdk.inDirectory w' kind directory with
    | error _ => exact .refl _
    | ok sdks' =>
      obtain ⟨_, hok, -⟩ := Sdk.inDirectory_reordered h.symm hsdks'
      cases hsdks.symm.trans hok

/-- Whether a search completes does not depend on the order of any listing. -/
theorem Completes.reordered {roots : List SearchRoot} (hcompletes : s.Completes w kind roots) :
    s.Completes w' kind roots := by
  have hdirectories : s.searchedDirectories w' roots = s.searchedDirectories w roots := by
    rw [searchedDirectories, searchedDirectories, expansion_reordered h]
  refine ⟨fun root hroot => ?_, fun directory hd => ?_, fun directory hd sdk hsdk => ?_⟩
  · rw [← sdksDirectories_reordered h, ← expansion_reordered h]
    exact hcompletes.expands root hroot
  · rw [hdirectories] at hd
    obtain ⟨sdks', hsdks', -⟩ := Sdk.inDirectory_reordered h (hcompletes.enumerates directory hd)
    rw [enumeration, hsdks']
    rfl
  · rw [hdirectories] at hd
    exact hcompletes.judges directory hd sdk ((enumeration_reordered h directory).mem_iff.mpr hsdk)

theorem run_reordered_eq_ok {sdks : List Sdk} (hrun : (s.run w kind).result = .ok sdks) :
    ∃ roots, (s.roots w).result = .ok roots ∧
      sdks = (s.searchedDirectories w roots).flatMap (s.findings w kind) ∧
      (s.run w' kind).result =
        .ok ((s.searchedDirectories w roots).flatMap (s.findings w' kind)) := by
  obtain ⟨hbounds, roots, hroots, hcompletes, rfl⟩ := run_eq_ok_iff.mp hrun
  refine ⟨roots, hroots, selection_eq_flatMap roots, run_eq_ok_iff.mpr ⟨hbounds, roots, ?_,
    hcompletes.reordered h, ?_⟩⟩
  · rw [← roots_reordered h, hroots]
  · rw [selection_eq_flatMap, searchedDirectories, searchedDirectories, expansion_reordered h]

end

/-- The order of listings changes neither the roots of a search, nor the platform directories of a
developer directory, nor the applications of a directory. A search fails in both orders, or finds the
same in both, directory by directory and up to the order within each directory. -/
theorem run_of_reordered {w w' : World} (h : w.Reordered w') (s : Search) (kind : SdkKind) :
    s.roots w = s.roots w' ∧
      (∀ developer, w.platformDirectories developer = w'.platformDirectories developer) ∧
      (∀ directory, w.apps directory = w'.apps directory) ∧
      ((∃ failure failure', (s.run w kind).result = .error failure ∧
          (s.run w' kind).result = .error failure') ∨
        ∃ roots, (s.roots w).result = .ok roots ∧
          (s.run w kind).result =
            .ok ((s.searchedDirectories w roots).flatMap (s.findings w kind)) ∧
          (s.run w' kind).result =
            .ok ((s.searchedDirectories w roots).flatMap (s.findings w' kind)) ∧
          ∀ directory, (s.findings w kind directory).Perm (s.findings w' kind directory)) := by
  refine ⟨roots_reordered h, h.platformDirectories, h.apps, ?_⟩
  cases hrun : (s.run w kind).result with
  | ok sdks =>
    obtain ⟨roots, hroots, rfl, hrun'⟩ := run_reordered_eq_ok h hrun
    exact .inr ⟨roots, hroots, rfl, hrun', fun d => (enumeration_reordered h d).filter _⟩
  | error failure =>
    cases hrun' : (s.run w' kind).result with
    | error failure' => exact .inl ⟨failure, failure', rfl, rfl⟩
    | ok sdks' =>
      obtain ⟨_, -, -, hok⟩ := run_reordered_eq_ok h.symm hrun'
      cases hrun.symm.trans hok

theorem developerTree_reordered {platforms platforms' : List (Path.Component × List Path.Component)}
    (hperm : (platforms.map (·.1)).Perm (platforms'.map (·.1)))
    (hsdks : ∀ c sdks sdks', (c, sdks) ∈ platforms → (c, sdks') ∈ platforms' → sdks.Perm sdks') :
    (Node.developerTree platforms).Reordered (.developerTree platforms') := by
  refine .singleton _ _ (.of_perm _ ?_ fun c node node' hnode hnode' => ?_)
  · simpa [Function.comp_def] using hperm
  · obtain ⟨⟨c, sdks⟩, hmem, h⟩ := List.mem_map.mp hnode
    obtain ⟨⟨c', sdks'⟩, hmem', h'⟩ := List.mem_map.mp hnode'
    cases h
    cases h'
    refine .singleton _ _ (.singleton _ _ (.of_perm _ ?_ fun c n n' hn hn' => ?_))
    · simpa [Function.comp_def] using hsdks c sdks sdks' hmem hmem'
    · obtain ⟨_, -, h⟩ := List.mem_map.mp hn
      obtain ⟨_, -, h'⟩ := List.mem_map.mp hn'
      cases h
      cases h'
      exact .refl _

def sharedEntry : Path.Component := ⟨"Shared", by decide⟩

def macOsxSdks : List Path.Component :=
  [⟨"MacOSX11.1.sdk", by decide⟩, ⟨"Notes", by decide⟩, ⟨"MacOSX11.3.sdk", by decide⟩]

/-- An active developer directory with these entries in `Platforms`, and these SDKs in the one that is
a platform. -/
def orderedWorld (entries sdks : List Path.Component) : World :=
  { World.ofTree [(opt, .developerTree (entries.map (·, sdks)))] with
    environment := [("DEVELOPER_DIR", "/opt")] }

def listedWorld : World := orderedWorld [macOsxPlatform, sharedEntry] macOsxSdks

/-- The same with all listings reversed. -/
def reversedWorld : World := orderedWorld [sharedEntry, macOsxPlatform] macOsxSdks.reverse

/-- The roots are the same, and the SDKs of the platform come in another order. -/
theorem run_of_reordered_reversed :
    listedWorld.Reordered reversedWorld ∧
      ({} : Search).roots listedWorld = ({} : Search).roots reversedWorld ∧
      ((({} : Search).run listedWorld .unparsed).result.map (·.map (·.path.name))).toOption =
        some ["MacOSX11.1.sdk", "MacOSX11.3.sdk"] ∧
      ((({} : Search).run reversedWorld .unparsed).result.map (·.map (·.path.name))).toOption =
        some ["MacOSX11.3.sdk", "MacOSX11.1.sdk"] ∧
      ∃ roots, (({} : Search).roots listedWorld).result = .ok roots ∧
        (({} : Search).run listedWorld .unparsed).result =
          .ok ((({} : Search).searchedDirectories listedWorld roots).flatMap
            (({} : Search).findings listedWorld .unparsed)) ∧
        ∀ directory, (({} : Search).findings listedWorld .unparsed directory).Perm
          (({} : Search).findings reversedWorld .unparsed directory) := by
  have h : listedWorld.Reordered reversedWorld := by
    refine ⟨.singleton _ _ (developerTree_reordered ?_ fun c sdks sdks' hmem hmem' => ?_),
      rfl, rfl, rfl, rfl, rfl, rfl⟩
    · simpa using .swap _ _ _
    · obtain ⟨_, -, h⟩ := List.mem_map.mp hmem
      obtain ⟨_, -, h'⟩ := List.mem_map.mp hmem'
      cases h
      cases h'
      exact (List.reverse_perm _).symm
  have hrun : ((({} : Search).run listedWorld .unparsed).result.map
      (·.map (·.path.name))).toOption = some ["MacOSX11.1.sdk", "MacOSX11.3.sdk"] := by
    decide +kernel
  obtain ⟨hroots, -, -, ⟨_, _, hfails, -⟩ | ⟨roots, hok, hlisted, -, hperm⟩⟩ :=
    run_of_reordered h {} .unparsed
  · rw [hfails] at hrun
    cases hrun
  · exact ⟨h, hroots, hrun, by decide +kernel, roots, hok, hlisted, hperm⟩

end SdkScout.Search
