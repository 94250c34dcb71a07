import SdkScout.Proofs.Listing
import SdkScout.Proofs.Walk

/-!
# Locators of roots

A search has four locators, each of which can be switched off, and lists of further directories. Its
roots are those that the locators find, in order, unless a locator stops it
(`Search.roots_eq_ofFailure?`). A locator that fails finds nothing. The failures of the active
developer directory and of the scan for applications are passed over; the Command Line Tools and the
default application are only tested for existence, and a test that fails stops the search.
-/

namespace List

variable {α β : Type} {f g : α → Option β} {a : α}

/-- An element that is passed over counts only where it comes first. -/
theorem findSome?_eq_or_of_ne (hne : ∀ x, x ≠ a → f x = g x) (ha : g a = none) (xs : List α) :
    xs.findSome? f = xs.findSome? g ∨ ∃ b, f a = some b ∧ xs.findSome? f = some b := by
  induction xs with
  | nil => exact .inl rfl
  | cons x xs ih =>
    rw [findSome?_cons, findSome?_cons]
    by_cases hx : x = a
    · subst hx
      rw [ha]
      cases hf : f x with
      | none => simpa [hf] using ih
      | some b => exact .inr ⟨b, rfl, rfl⟩
    · rw [hne x hx]
      cases g x with
      | none => exact ih
      | some b => exact .inl rfl

end List

namespace SdkScout

attribute [ext] Asked

/-- The ways to find roots that a search can switch on and off. -/
inductive Locator
  | active
  | commandLineTools
  | defaultXcode
  | systemXcodes
  deriving DecidableEq

namespace Locator

/-- In the order of their roots. -/
def all : List Locator := [active, commandLineTools, defaultXcode, systemXcodes]

def rootKind : Locator → RootKind
  | commandLineTools => .sdks
  | active | defaultXcode | systemXcodes => .developer

def isOn (s : Search) : Locator → Bool
  | active => s.developerDirectory
  | commandLineTools => s.commandLineTools
  | defaultXcode => s.defaultXcode
  | systemXcodes => s.systemXcodes

/-- The search without a locator. -/
def switchOff (s : Search) : Locator → Search
  | active => s.apply (.developerDirectory false)
  | commandLineTools => s.apply (.commandLineTools false)
  | defaultXcode => s.apply (.defaultXcode false)
  | systemXcodes => s.apply (.systemXcodes false)

/-- What a locator finds, whether it is on or off. -/
def find (w : World) : Locator → Except Failure (List Path)
  | active => w.activeDeveloperDirectory.result.map ([·])
  | commandLineTools => w.commandLineToolsSdks?.map Option.toList
  | defaultXcode => w.defaultDeveloperDirectory?.map Option.toList
  | systemXcodes => w.systemDeveloperDirectories

/-- Whether a search goes on after a failure of a locator. -/
def passesOver : Locator → Failure → Bool
  | active, _ => true
  | systemXcodes, .system _ => true
  | _, _ => false

variable (s : Search) (w : World) (l : Locator)

/-- The failure with which a locator stops a search. -/
def stop? : Option Failure :=
  if l.isOn s then (l.find w).failure?.filter (!l.passesOver ·) else none

/-- The paths that a locator adds to a search. -/
def paths : List Path :=
  if l.isOn s then (l.find w).toOption.getD [] else []

/-- The roots that a locator adds to a search. -/
def roots : List SearchRoot :=
  (l.paths s w).map (⟨l.rootKind, ·⟩)

/-- A locator fails or finds nothing. -/
def Idle : Prop :=
  (∃ failure, l.find w = .error failure) ∨ l.find w = .ok []

end Locator

namespace Search

variable (s : Search) (w : World)

theorem activeRoots_eq_paths : (s.activeRoots w).result = Locator.active.paths s w := by
  rw [activeRoots, Locator.paths, Locator.isOn, Locator.find]
  split
  · cases h : w.activeDeveloperDirectory.result <;> simp [h]
  · rfl

/-- The active developer directory never stops a search. -/
theorem stop?_active : Locator.active.stop? s w = none := by
  rw [Locator.stop?]
  split
  · cases Locator.active.find w <;> rfl
  · rfl

/-- A locator of at most one path whose failures are not passed over. -/
theorem optional_toList_eq_ofFailure? {l : Locator} {found : Except Failure (Option Path)}
    (hfind : l.find w = found.map Option.toList) (hstops : ∀ failure, l.passesOver failure = false) :
    optional (l.isOn s) (return (← found).toList) = .ofFailure? (l.stop? s w) (l.paths s w) := by
  rw [optional, Locator.stop?, Locator.paths, hfind]
  split
  · cases found with
    | ok path => rfl
    | error failure =>
      simp only [Except.map_error_eq, Except.failure?_error, hstops]
      rfl
  · rfl

theorem optional_systemXcodes_eq_ofFailure? :
    optional s.systemXcodes (scannedRoots w) =
      .ofFailure? (Locator.systemXcodes.stop? s w) (Locator.systemXcodes.paths s w) := by
  rw [optional, scannedRoots.eq_def, Locator.stop?, Locator.paths, Locator.isOn, Locator.find]
  split
  · cases w.systemDeveloperDirectories with
    | ok paths => rfl
    | error failure => cases failure <;> rfl
  · rfl

/-- The roots of a search are those of its locators and then the further directories, each of them
once, unless a locator stops the search. -/
theorem roots_eq_ofFailure? :
    (s.roots w).result = .ofFailure? (Locator.all.findSome? (·.stop? s w))
      (firstOccurrences [] (Locator.all.flatMap (·.roots s w) ++
        s.developerDirectories.map (⟨.developer, ·⟩) ++ s.sdksDirectories.map (⟨.sdks, ·⟩))) := by
  have htools := optional_toList_eq_ofFailure? s w (l := .commandLineTools) rfl fun _ => rfl
  have hstandard := optional_toList_eq_ofFailure? s w (l := .defaultXcode) rfl fun _ => rfl
  simp only [Locator.isOn] at htools hstandard
  rw [roots]
  simp only [htools, hstandard, optional_systemXcodes_eq_ofFailure?, activeRoots_eq_paths]
  simp only [Locator.all, List.findSome?_cons, List.findSome?_nil, stop?_active,
    List.flatMap_cons, List.flatMap_nil]
  cases Locator.commandLineTools.stop? s w with
  | some failure => rfl
  | none =>
    cases Locator.defaultXcode.stop? s w with
    | some failure => rfl
    | none =>
      cases Locator.systemXcodes.stop? s w with
      | some failure => rfl
      | none => simp [Locator.roots, Locator.rootKind]

/-- The roots of a search depend on the world through the locators that are on, and through how often
the helper is run for them. -/
theorem roots_congr {s : Search} {w w' : World}
    (hfind : ∀ l : Locator, l.isOn s = true → l.find w = l.find w')
    (hruns : s.developerDirectory = true →
      w.activeDeveloperDirectory.runs = w'.activeDeveloperDirectory.runs) :
    s.roots w = s.roots w' := by
  have hstop : ∀ l : Locator, l.stop? s w = l.stop? s w' := fun l => by
    by_cases hon : l.isOn s = true
    · rw [Locator.stop?, Locator.stop?, hfind l hon]
    · simp [Locator.stop?, hon]
  have hroots : ∀ l : Locator, l.roots s w = l.roots s w' := fun l => by
    by_cases hon : l.isOn s = true
    · rw [Locator.roots, Locator.roots, Locator.paths, Locator.paths, hfind l hon]
    · simp [Locator.roots, Locator.paths, hon]
  refine Asked.ext ?_ ?_
  · simp only [roots_eq_ofFailure?, hstop, hroots]
  · change (s.activeRoots w).runs = (s.activeRoots w').runs
    rw [activeRoots, activeRoots]
    split
    · exact hruns ‹_›
    · rfl

end Search

namespace Locator

variable {s : Search} {w : World} {l m : Locator}

theorem isOn_switchOff : m.isOn (l.switchOff s) = (m.isOn s && m ≠ l) := by
  cases l <;> cases m <;> simp [switchOff, isOn, Search.apply]

theorem stop?_switchOff_of_ne (h : m ≠ l) : m.stop? (l.switchOff s) w = m.stop? s w := by
  simp [stop?, isOn_switchOff, h]

theorem stop?_switchOff_self : l.stop? (l.switchOff s) w = none := by
  simp [stop?, isOn_switchOff]

/-- Switching a locator off leaves the roots of the others as they are. -/
theorem roots_switchOff_of_ne (h : m ≠ l) : m.roots (l.switchOff s) w = m.roots s w := by
  simp [roots, paths, isOn_switchOff, h]

theorem roots_switchOff_self : l.roots (l.switchOff s) w = [] := by
  simp [roots, paths, isOn_switchOff]

theorem Idle.toOption_find (h : l.Idle w) : (l.find w).toOption.getD [] = [] := by
  rcases h with ⟨failure, h⟩ | h <;> rw [h] <;> rfl

theorem Idle.roots_switchOff (h : l.Idle w) : m.roots (l.switchOff s) w = m.roots s w := by
  by_cases hm : m = l
  · subst hm
    rw [roots_switchOff_self]
    simp [roots, paths, h.toOption_find]
  · exact roots_switchOff_of_ne hm

theorem directories_switchOff : (l.switchOff s).developerDirectories = s.developerDirectories ∧
    (l.switchOff s).sdksDirectories = s.sdksDirectories := by
  cases l <;> exact ⟨rfl, rfl⟩

/-- A locator that finds nothing may be switched off, unless it stops the search. -/
theorem Idle.roots_switchOff_or_stop (h : l.Idle w) :
    (s.roots w).result = ((l.switchOff s).roots w).result ∨
      ∃ failure, l.stop? s w = some failure ∧ (s.roots w).result = .error failure := by
  rw [Search.roots_eq_ofFailure?, Search.roots_eq_ofFailure?, directories_switchOff.1,
    directories_switchOff.2]
  simp only [h.roots_switchOff]
  rcases List.findSome?_eq_or_of_ne (fun m hm => (stop?_switchOff_of_ne hm).symm)
    stop?_switchOff_self Locator.all with hsame | ⟨failure, hstop, hfirst⟩
  · exact .inl (by rw [hsame])
  · exact .inr ⟨failure, hstop, by rw [hfirst]; rfl⟩

end Locator

namespace World

variable {w : World} {path : Path} {failure : Failure}

theorem existing?_eq_error_iff :
    w.existing? path = .error failure ↔ w.pathExists path = .error failure := by
  rw [existing?]
  cases w.pathExists path <;> simp

/-- The scan fails with the listing or with one of the tests. -/
theorem systemDeveloperDirectories_fails (h : w.systemDeveloperDirectories = .error failure) :
    w.childrenIfPresent w.places.applications = .error failure ∨
      ∃ app, w.appDeveloperDirectory? app = .error failure := by
  rcases Except.bind_eq_error_iff.mp h with happs | ⟨apps, -, hdirectories⟩
  · rcases Except.bind_eq_error_iff.mp happs with hlisting | ⟨_, -, hsorted⟩
    · exact .inl hlisting
    · cases hsorted
  · rcases Except.bind_eq_error_iff.mp hdirectories with htests | ⟨_, -, hfiltered⟩
    · obtain ⟨_, app, _, _, _, htest⟩ := Except.mapM_eq_error_iff.mp htests
      exact .inr ⟨app, htest⟩
    · cases hfiltered

theorem systemDeveloperDirectories_eq_error
    (hnul : '\x00' ∉ w.places.applications.toString.toList)
    (h : w.systemDeveloperDirectories = .error failure) : ∃ e, failure = .system e := by
  rcases systemDeveloperDirectories_fails h with hlisting | ⟨app, htest⟩
  · exact childrenIfPresent_eq_error hnul hlisting
  · obtain ⟨code, rfl, -⟩ := exists_of_test_eq_error (existing?_eq_error_iff.mp htest)
    exact ⟨_, rfl⟩

end World

namespace Locator

variable {s : Search} {w : World} {l : Locator} {failure : Failure}

/-- A locator that does nothing but test a path for existence. -/
def TestsPath (l : Locator) : Prop :=
  l = commandLineTools ∨ l = defaultXcode

/-- These locators fail with a test and in no other way. -/
theorem TestsPath.exists_pathExists_eq_error (h : l.TestsPath) (hfind : l.find w = .error failure) :
    ∃ path, w.pathExists path = .error failure := by
  rcases h with rfl | rfl <;>
    exact ⟨_, World.existing?_eq_error_iff.mp (Except.map_eq_error_iff.mp hfind)⟩

/-- A test fails with an error of the system; where nothing is refused, with that for an overlong
name. -/
theorem TestsPath.find_eq_error (h : l.TestsPath) (hfind : l.find w = .error failure) :
    ∃ e, failure = .system e ∧ (w.root.Open → e.code = 36) := by
  obtain ⟨path, htest⟩ := h.exists_pathExists_eq_error hfind
  obtain ⟨code, rfl, -⟩ := World.exists_of_test_eq_error htest
  refine ⟨_, rfl, fun hopen => ?_⟩
  cases ((World.test_eq_error_iff_of_open hopen).mp htest).2
  rfl

/-- The locators that stop a search are those that test a path. -/
theorem stop?_eq_some_iff (hnul : '\x00' ∉ w.places.applications.toString.toList) :
    l.stop? s w = some failure ↔
      l.TestsPath ∧ l.isOn s = true ∧ l.find w = .error failure := by
  have hstop : l.stop? s w = some failure ↔
      l.isOn s = true ∧ l.find w = .error failure ∧ l.passesOver failure = false := by
    simp [stop?, Option.filter_eq_some_iff, Except.failure?_eq_some_iff]
  have hpasses : l.find w = .error failure → (l.passesOver failure = false ↔ l.TestsPath) := by
    intro hfind
    cases l with
    | active => simp [passesOver, TestsPath]
    | commandLineTools | defaultXcode => simp [passesOver, TestsPath]
    | systemXcodes =>
      obtain ⟨e, rfl⟩ := World.systemDeveloperDirectories_eq_error hnul hfind
      simp [passesOver, TestsPath]
  rw [hstop]
  constructor
  · rintro ⟨hon, hfind, hfails⟩
    exact ⟨(hpasses hfind).mp hfails, hon, hfind⟩
  · rintro ⟨htests, hon, hfind⟩
    exact ⟨hon, hfind, (hpasses hfind).mpr htests⟩

end Locator

namespace Search

/-- The roots are found unless one of the unguarded tests fails. -/
theorem exists_roots_eq_ok_iff {s : Search} {w : World}
    (hnul : '\x00' ∉ w.places.applications.toString.toList) :
    (∃ roots, (s.roots w).result = .ok roots) ↔
      ∀ l : Locator, l.TestsPath → l.isOn s = true → ∃ paths, l.find w = .ok paths := by
  simp only [roots_eq_ofFailure?, Except.ofFailure?_eq_ok_iff, exists_and_left, exists_eq', and_true,
    List.findSome?_eq_none_iff]
  constructor
  · intro h l htests hon
    cases hfind : l.find w with
    | ok paths => exact ⟨paths, rfl⟩
    | error failure =>
      have hstop := (Locator.stop?_eq_some_iff hnul).mpr ⟨htests, hon, hfind⟩
      rw [h l (by cases l <;> simp [Locator.all])] at hstop
      cases hstop
  · intro h l _
    cases hstop : l.stop? s w with
    | none => rfl
    | some failure =>
      obtain ⟨htests, hon, hfind⟩ := (Locator.stop?_eq_some_iff hnul).mp hstop
      obtain ⟨paths, hok⟩ := h l htests hon
      cases hfind.symm.trans hok

/-- A locator that fails or finds nothing is as good as switched off, except that a test of a path
that fails stops the search with its failure. In a world where nothing is refused that is the one for
an overlong name. A search has roots exactly if no such test fails. -/
theorem roots_eq_switchOff_unless_test_fails (s : Search) (w : World) (l : Locator)
    (hnul : '\x00' ∉ w.places.applications.toString.toList) (h : l.Idle w) :
    ((s.roots w).result = ((l.switchOff s).roots w).result ∨
      l.TestsPath ∧ l.isOn s = true ∧ ∃ e, l.find w = .error (.system e) ∧
        (s.roots w).result = .error (.system e) ∧ (w.root.Open → e.code = 36)) ∧
      ((∃ roots, (s.roots w).result = .ok roots) ↔
        ∀ m : Locator, m.TestsPath → m.isOn s = true → ∃ paths, m.find w = .ok paths) := by
  refine ⟨?_, exists_roots_eq_ok_iff hnul⟩
  rcases h.roots_switchOff_or_stop with hsame | ⟨failure, hstop, hroots⟩
  · exact .inl hsame
  · obtain ⟨htests, hon, hfind⟩ := (Locator.stop?_eq_some_iff hnul).mp hstop
    obtain ⟨e, rfl, hcode⟩ := htests.find_eq_error hfind
    exact .inr ⟨htests, hon, e, hfind, hroots, hcode⟩

/-- A file stands in place of the applications, and the Command Line Tools are a link to an overlong
name. There is no helper command either. -/
def brokenWorld : World :=
  .ofTree [(⟨"Applications", by decide⟩, .file (.ok [])),
    (⟨"Library", by decide⟩, .directory {} [(PlatformDirectory.developer, .directory {}
      [(⟨"CommandLineTools", by decide⟩, .link (String.ofList (List.replicate 256 'x')))])])]

theorem roots_eq_switchOff_unless_test_fails_scan :
    '\x00' ∉ brokenWorld.places.applications.toString.toList ∧
      Locator.systemXcodes.Idle brokenWorld ∧
      (({ defaultXcode := true, systemXcodes := true } : Search).roots brokenWorld).result =
        ((Locator.systemXcodes.switchOff { defaultXcode := true, systemXcodes := true }).roots
          brokenWorld).result := by
  have hnul : '\x00' ∉ brokenWorld.places.applications.toString.toList := by decide +kernel
  have hidle : Locator.systemXcodes.Idle brokenWorld := by
    refine .inl ⟨.system ⟨20, "/Applications"⟩, ?_⟩
    decide +kernel
  refine ⟨hnul, hidle, ?_⟩
  rcases (roots_eq_switchOff_unless_test_fails { defaultXcode := true, systemXcodes := true }
    _ _ hnul hidle).1 with hsame | ⟨htests, -⟩
  · exact hsame
  · rcases htests with h | h <;> cases h

/-- The Command Line Tools stop a search that has roots without them. -/
theorem roots_commandLineTools_overlong :
    (({ commandLineTools := true } : Search).roots brokenWorld).result =
        .error (.system ⟨36, "/Library/Developer/CommandLineTools/SDKs"⟩) ∧
      ((Locator.commandLineTools.switchOff { commandLineTools := true }).roots brokenWorld).result =
        .ok [] := by
  decide +kernel

end Search

end SdkScout
