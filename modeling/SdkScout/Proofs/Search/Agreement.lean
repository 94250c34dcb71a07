import SdkScout.Proofs.Applications
import SdkScout.Proofs.Search.Roots

/-!
# What the roots of a search depend on

Each locator reads a small part of the world (`Locator.ReadsAlike`): the active developer directory a
variable and, where this is not set, the helper; two others whether one path exists; and the scan the
listing of the applications and whether their developer directories exist. The roots of a search depend
on what the locators that are on read, and on nothing else (`Search.roots_eq_of_readsAlike`). Further
directories are roots whether they exist or not.
-/

namespace SdkScout

/-- The helper counts only where the variable is not set. -/
theorem World.activeDeveloperDirectory_congr {w w' : World}
    (hvariable : w.variableValue? developerVariable = w'.variableValue? developerVariable)
    (hhelper : w.variableValue? developerVariable = none → w.helper = w'.helper) :
    w.activeDeveloperDirectory = w'.activeDeveloperDirectory := by
  simp only [variableValue?] at hvariable hhelper
  rw [activeDeveloperDirectory, activeDeveloperDirectory, activeDeveloperDirectoryIn,
    activeDeveloperDirectoryIn, ← hvariable]
  cases hvalue : w.environment.lookup developerVariable with
  | some value => rfl
  | none => rw [hhelper hvalue]

namespace Locator

/-- A locator finds the same to read in two worlds, whatever else differs between them. -/
inductive ReadsAlike (w w' : World) : Locator → Prop
  | active :
    w.variableValue? developerVariable = w'.variableValue? developerVariable →
    (w.variableValue? developerVariable = none → w.helper = w'.helper) →
    ReadsAlike w w' .active
  | commandLineTools {sdks : Path} :
    w.places.commandLineTools.child PlatformDirectory.sdks = sdks →
    w'.places.commandLineTools.child PlatformDirectory.sdks = sdks →
    w.pathExists sdks = w'.pathExists sdks → ReadsAlike w w' .commandLineTools
  | defaultXcode {developer : Path} :
    developerPath w.places.xcodeApp = developer → developerPath w'.places.xcodeApp = developer →
    w.pathExists developer = w'.pathExists developer → ReadsAlike w w' .defaultXcode
  | systemXcodes {applications : Path} :
    w.places.applications = applications → w'.places.applications = applications →
    w.childrenIfPresent applications = w'.childrenIfPresent applications →
    (∀ apps, w.apps applications = .ok apps → ∀ app ∈ apps,
      w.pathExists (developerPath app) = w'.pathExists (developerPath app)) →
    ReadsAlike w w' .systemXcodes

/-- What a locator finds depends on what it reads. -/
theorem ReadsAlike.find_eq {w w' : World} {l : Locator} (h : l.ReadsAlike w w') :
    l.find w = l.find w' := by
  cases h with
  | active hvariable hhelper =>
    rw [find, find, World.activeDeveloperDirectory_congr hvariable hhelper]
  | commandLineTools hsdks hsdks' htest =>
    rw [find, find, World.commandLineToolsSdks?, World.commandLineToolsSdks?,
      World.toolsSdksDirectory?, World.toolsSdksDirectory?, hsdks, hsdks',
      World.existing?_congr htest]
  | defaultXcode hdeveloper hdeveloper' htest =>
    rw [find, find, World.defaultDeveloperDirectory?, World.defaultDeveloperDirectory?,
      World.appDeveloperDirectory?, World.appDeveloperDirectory?, hdeveloper, hdeveloper',
      World.existing?_congr htest]
  | systemXcodes happlications happlications' hlisting htests =>
    have happs : w.systemApps = w'.systemApps := by
      rw [World.systemApps, World.systemApps, World.apps, World.apps, happlications,
        happlications', hlisting]
    rw [find, find, World.systemDeveloperDirectories, World.systemDeveloperDirectories, ← happs]
    cases hok : w.systemApps with
    | error failure => rw [Except.error_bind, Except.error_bind]
    | ok apps =>
      rw [World.systemApps, happlications] at hok
      rw [Except.ok_bind, Except.ok_bind, World.developerDirectories_congr (htests apps hok)]

end Locator

namespace Search

/-- The helper is run at most once. -/
theorem runs_roots (s : Search) (w : World) : (s.roots w).runs =
    if s.developerDirectory = true ∧ w.variableValue? developerVariable = none then 1 else 0 := by
  change (s.activeRoots w).runs = _
  rw [activeRoots, World.activeDeveloperDirectory, World.activeDeveloperDirectoryIn,
    World.variableValue?]
  cases s.developerDirectory <;> cases w.environment.lookup developerVariable <;> rfl

/-- Worlds in which the locators that are on read the same give a search the same roots. The helper is
run once if the active developer directory is looked for and the variable is not set, and else not at
all. -/
theorem roots_eq_of_readsAlike (s : Search) :
    (∀ w w' : World, (∀ l : Locator, l.isOn s = true → l.ReadsAlike w w') →
        s.roots w = s.roots w') ∧
      ∀ w : World, (s.roots w).runs ≤ 1 ∧ ((s.roots w).runs = 1 ↔
        s.developerDirectory = true ∧ w.variableValue? developerVariable = none) := by
  refine ⟨fun w w' h => roots_congr (fun l hon => (h l hon).find_eq) fun hon => ?_, fun w => ?_⟩
  · cases h .active hon with
    | active hvariable hhelper => rw [World.activeDeveloperDirectory_congr hvariable hhelper]
  · rw [runs_roots]
    split <;> simp_all

/-- The same variable and the Command Line Tools as in the crowded world, and nothing else of it: no
applications, and a helper that answers. -/
def bareWorld : World :=
  let tools : Node := .directory {} [(PlatformDirectory.sdks, .directory {} [])]
  { World.ofTree (tools.entriesTo Places.standard.commandLineTools.parts) with
    environment := [("HOME", "/"), ("DEVELOPER_DIR", "/opt")]
    helper := .exited 0 [] }

/-- The active developer directory and the Command Line Tools are searched, and a further directory
that only the crowded world has. -/
def plainSearch : Search where
  commandLineTools := true
  sdksDirectories := [Places.standard.applications]

theorem roots_eq_of_readsAlike_bare :
    (∀ l : Locator, l.isOn plainSearch = true → l.ReadsAlike crowdedWorld bareWorld) ∧
      plainSearch.roots crowdedWorld = plainSearch.roots bareWorld ∧
      crowdedWorld.pathExists Places.standard.applications ≠
        bareWorld.pathExists Places.standard.applications ∧
      ¬ Locator.systemXcodes.ReadsAlike crowdedWorld bareWorld ∧
      crowdedWorld.helper ≠ bareWorld.helper ∧ (plainSearch.roots bareWorld).runs ≠ 1 := by
  have halike : ∀ l : Locator, l.isOn plainSearch = true → l.ReadsAlike crowdedWorld bareWorld := by
    intro l hon
    cases l with
    | active => exact .active (by decide) (fun hunset => absurd hunset (by decide))
    | commandLineTools => exact .commandLineTools rfl rfl (by decide +kernel)
    | defaultXcode | systemXcodes => cases hon
  have hlisting : crowdedWorld.childrenIfPresent Places.standard.applications ≠
      bareWorld.childrenIfPresent Places.standard.applications := by decide +kernel
  obtain ⟨hroots, hruns⟩ := roots_eq_of_readsAlike plainSearch
  refine ⟨halike, hroots _ _ halike, by decide +kernel, fun h => ?_, by decide, fun hrun => ?_⟩
  · cases h with
    | systemXcodes happlications _ hsame _ => exact hlisting (happlications ▸ hsame)
  · exact absurd ((hruns bareWorld).2.mp hrun).2 (by decide)

end Search

end SdkScout
