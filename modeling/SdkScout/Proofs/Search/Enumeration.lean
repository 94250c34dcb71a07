import SdkScout.Proofs.Search.Schedule

/-!
# Searches and enumerations

The SDKs of a developer directory and those of the Command Line Tools can be enumerated without a
search. A search that looks at nothing else and restricts nothing has the same outcome: it does not
come to a directory twice, so there is nothing to pass over, and it lets every SDK through.
-/

namespace SdkScout

theorem SearchRoot.sdksDirectories_nodup {w : World} {platform : Option Platform} {root : SearchRoot}
    {directories : List Path} (h : root.sdksDirectories w platform = .ok directories) :
    directories.Nodup := by
  rw [sdksDirectories] at h
  split at h
  · cases h
    exact List.nodup_singleton _
  · obtain ⟨ds, hds, h⟩ := Except.bind_eq_ok_iff.mp h
    cases h
    exact (World.sdksPaths_nodup hds).sublist (List.filter_sublist.map _)

namespace Search

/-- Neither a platform nor a bound is wanted. -/
structure Unrestricted (s : Search) : Prop where
  platform : s.platform = none
  minimum : s.minimum = none
  maximum : s.maximum = none

namespace Unrestricted

variable {s : Search} {w : World} {kind : SdkKind}

/-- A search without bounds keeps every SDK. -/
theorem keep (h : s.Unrestricted) (sdks : List Sdk) : s.keep sdks = .ok sdks := by
  induction sdks with
  | nil => rfl
  | cons sdk sdks ih =>
    have haccepts : s.accepts sdk = .ok true := by
      simp [accepts, satisfies, h.minimum, h.maximum]
    simp [Search.keep, haccepts, ih]

theorem inDirectories (h : s.Unrestricted) {searched directories : List Path}
    (hnodup : directories.Nodup) (hnew : ∀ d ∈ directories, d ∉ searched) :
    s.inDirectories w kind searched directories =
      (directories.mapM (Sdk.inDirectory w kind)).map fun found =>
        (found.flatten, directories.reverse ++ searched) := by
  induction directories generalizing searched with
  | nil => rfl
  | cons d directories ih =>
    obtain ⟨hd, hnodup⟩ := List.nodup_cons.mp hnodup
    have hrest : ∀ e ∈ directories, e ∉ d :: searched := by
      intro e he hmem
      rcases List.mem_cons.mp hmem with rfl | hmem
      · exact hd he
      · exact hnew e (List.mem_cons_of_mem _ he) hmem
    rw [Search.inDirectories, if_neg (hnew d List.mem_cons_self), List.mapM_cons, ih hnodup hrest]
    cases Sdk.inDirectory w kind d with
    | error _ => rfl
    | ok found =>
      simp only [Except.ok_bind, h.keep]
      cases directories.mapM (Sdk.inDirectory w kind) with
      | error _ => rfl
      | ok rest => simp

theorem inRoots_singleton (h : s.Unrestricted) (root : SearchRoot) :
    s.inRoots w kind [] [root] = (do
      let directories ← root.sdksDirectories w none
      return (← directories.mapM (Sdk.inDirectory w kind)).flatten) := by
  rw [inRoots, h.platform]
  cases hroot : root.sdksDirectories w none with
  | error _ => rfl
  | ok directories =>
    rw [Except.ok_bind, h.inDirectories (SearchRoot.sdksDirectories_nodup hroot) (by simp)]
    cases hfound : directories.mapM (Sdk.inDirectory w kind) <;> simp [hfound, inRoots]

/-- One developer directory is searched as it is enumerated. -/
theorem inRoots_developer (h : s.Unrestricted) (developer : Path) :
    s.inRoots w kind [] [⟨.developer, developer⟩] = Sdk.inDeveloperDirectory w kind developer := by
  rw [h.inRoots_singleton, Sdk.inDeveloperDirectory, SearchRoot.sdksDirectories]
  cases w.platformDirectories developer with
  | error _ => rfl
  | ok ds => simp [Function.comp_def]

theorem inRoots_sdks (h : s.Unrestricted) (directory : Path) :
    s.inRoots w kind [] [⟨.sdks, directory⟩] = Sdk.inDirectory w kind directory := by
  rw [h.inRoots_singleton, SearchRoot.sdksDirectories]
  cases hdir : Sdk.inDirectory w kind directory <;> simp [hdir]

theorem run_eq_inRoots (h : s.Unrestricted) :
    (s.run w kind).result = (s.roots w).result >>= s.inRoots w kind [] :=
  Search.run_eq_inRoots fun v hv => by simp [h.minimum, h.maximum] at hv

end Unrestricted

theorem roots_developerDirectory (w : World) (developer : Path) :
    ((({} : Search).applyAll [.developerDirectory false, .addDeveloperDirectory developer]).roots
      w).result = .ok [⟨.developer, developer⟩] := by
  simp [applyAll, apply, roots, optional, activeRoots, firstOccurrences]

/-- Without settings the active developer directory is the only root. -/
theorem roots_default (w : World) :
    (({} : Search).roots w).result =
      .ok (w.activeDeveloperDirectory.result.toOption.toList.map (⟨.developer, ·⟩)) := by
  cases h : w.activeDeveloperDirectory.result <;>
    simp [roots, optional, activeRoots, firstOccurrences, h]

theorem roots_commandLineTools (w : World) :
    ((({} : Search).applyAll [.developerDirectory false, .commandLineTools true]).roots w).result =
      w.commandLineToolsSdks?.map fun tools => tools.toList.map (⟨.sdks, ·⟩) := by
  cases h : w.commandLineToolsSdks? with
  | error _ => simp [applyAll, apply, roots, optional, h]
  | ok tools =>
    cases tools <;> simp [applyAll, apply, roots, optional, activeRoots, firstOccurrences, h]

/-- The active developer directory is unknown only because of the helper. -/
theorem helper_of_activeDeveloperDirectory {w : World} {failure : Failure}
    (h : w.activeDeveloperDirectory.result = .error failure) :
    (∃ code, failure = .helperNotStarted code) ∨ ∃ status, failure = .helperStatus status := by
  rw [World.activeDeveloperDirectory, World.activeDeveloperDirectoryIn] at h
  split at h
  · cases h
  · rw [HelperRun.path.eq_def] at h
    split at h
    · cases h
      exact .inl ⟨_, rfl⟩
    · split at h
      · cases h
        exact .inr ⟨_, rfl⟩
      · cases h

theorem run_developerDirectory (w : World) (kind : SdkKind) (developer : Path) :
    ((({} : Search).applyAll [.developerDirectory false, .addDeveloperDirectory developer]).run
      w kind).result = Sdk.inDeveloperDirectory w kind developer := by
  have h : (({} : Search).applyAll
      [.developerDirectory false, .addDeveloperDirectory developer]).Unrestricted := ⟨rfl, rfl, rfl⟩
  rw [h.run_eq_inRoots, roots_developerDirectory, Except.ok_bind, h.inRoots_developer]

theorem run_default_eq_ok {w : World} (kind : SdkKind) {developer : Path}
    (h : w.activeDeveloperDirectory.result = .ok developer) :
    (({} : Search).run w kind).result = Sdk.inActiveDeveloperDirectory w kind := by
  have hs : ({} : Search).Unrestricted := ⟨rfl, rfl, rfl⟩
  rw [hs.run_eq_inRoots, roots_default, Sdk.inActiveDeveloperDirectory, h]
  exact hs.inRoots_developer developer

/-- Without an active developer directory the default search finds nothing, and does not fail. -/
theorem run_default_eq_nil {w : World} (kind : SdkKind) {failure : Failure}
    (h : w.activeDeveloperDirectory.result = .error failure) :
    (({} : Search).run w kind).result = .ok [] := by
  have hs : ({} : Search).Unrestricted := ⟨rfl, rfl, rfl⟩
  rw [hs.run_eq_inRoots, roots_default, h]
  rfl

/-- Missing tools are no failure, and no SDKs. -/
theorem run_commandLineTools (w : World) (kind : SdkKind) :
    ((({} : Search).applyAll [.developerDirectory false, .commandLineTools true]).run w kind).result =
      (Sdk.inCommandLineTools? w kind).map (·.getD []) := by
  have h : (({} : Search).applyAll
      [.developerDirectory false, .commandLineTools true]).Unrestricted := ⟨rfl, rfl, rfl⟩
  rw [h.run_eq_inRoots, roots_commandLineTools, Sdk.inCommandLineTools?]
  cases w.commandLineToolsSdks? with
  | error _ => rfl
  | ok tools =>
    cases tools with
    | none => rfl
    | some directory =>
      refine (h.inRoots_sdks directory).trans ?_
      cases hdir : Sdk.inDirectory w kind directory <;> simp [hdir]

/-- A search of one developer directory, of the active one, or of the Command Line Tools has the
outcome of the enumeration. If the active developer directory is unknown, the enumeration fails and
the search finds nothing; if there are no Command Line Tools, the enumeration says so and the search
finds nothing. -/
theorem run_eq_enumeration (w : World) (kind : SdkKind) :
    (∀ developer, ((({} : Search).applyAll [.developerDirectory false,
        .addDeveloperDirectory developer]).run w kind).result =
          Sdk.inDeveloperDirectory w kind developer) ∧
      (match w.activeDeveloperDirectory.result with
        | .ok _ => (({} : Search).run w kind).result = Sdk.inActiveDeveloperDirectory w kind
        | .error failure =>
          ((∃ code, failure = .helperNotStarted code) ∨ ∃ status, failure = .helperStatus status) ∧
            Sdk.inActiveDeveloperDirectory w kind = .error failure ∧
            (({} : Search).run w kind).result = .ok []) ∧
      ((({} : Search).applyAll [.developerDirectory false, .commandLineTools true]).run w kind).result =
        (Sdk.inCommandLineTools? w kind).map (·.getD []) := by
  refine ⟨run_developerDirectory w kind, ?_, run_commandLineTools w kind⟩
  cases hactive : w.activeDeveloperDirectory.result with
  | ok developer => exact run_default_eq_ok kind hactive
  | error failure =>
    refine ⟨helper_of_activeDeveloperDirectory hactive, ?_, run_default_eq_nil kind hactive⟩
    rw [Sdk.inActiveDeveloperDirectory, hactive]
    rfl

end Search

end SdkScout
