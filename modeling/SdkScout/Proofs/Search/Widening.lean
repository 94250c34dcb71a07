import SdkScout.Proofs.Search.Roots
import SdkScout.Proofs.Search.Schedule

/-!
# Wider searches

A search is wider than another if it has all of its roots, restricts them to no platform that the other
does not, and judges by the same bounds (`Search.Widens`). A locator that is switched on and a further
directory make a search wider, and a wanted platform makes one narrower. What a narrower search finds, a
wider one finds as well (`Search.Widens.run`), though not in the same order: a new root can take over a
directory of a later one.
-/

namespace SdkScout

/-- A wanted platform leaves out directories of a root, and adds none. -/
theorem SearchRoot.sdksDirectories_of_any {w : World} {root : SearchRoot} {directories : List Path}
    (h : root.sdksDirectories w none = .ok directories) (platform : Option Platform) :
    ∃ few, root.sdksDirectories w platform = .ok few ∧ few ⊆ directories := by
  obtain ⟨kind, path⟩ := root
  cases kind with
  | sdks => exact ⟨directories, h, List.Subset.refl _⟩
  | developer =>
    obtain ⟨ds, hds, h⟩ := Except.bind_eq_ok_iff.mp h
    cases h
    refine ⟨_, by rw [sdksDirectories, hds]; rfl, List.map_subset _ fun d hd => ?_⟩
    simpa using List.mem_of_mem_filter hd

namespace Search

variable {s t u : Search} {w : World} {kind : SdkKind} {few many : List SearchRoot}

/-- A setting that switches a locator on or adds a directory. -/
inductive Setting.AddsRoots : Setting → Prop
  | developerDirectory : AddsRoots (.developerDirectory true)
  | commandLineTools : AddsRoots (.commandLineTools true)
  | defaultXcode : AddsRoots (.defaultXcode true)
  | systemXcodes : AddsRoots (.systemXcodes true)
  | addDeveloperDirectory (path : Path) : AddsRoots (.addDeveloperDirectory path)
  | addSdksDirectory (path : Path) : AddsRoots (.addSdksDirectory path)

/-- The second search is wider than the first, or as wide. -/
structure Widens (s t : Search) : Prop where
  locators : ∀ l : Locator, l.isOn s = true → l.isOn t = true
  developerDirectories : s.developerDirectories ⊆ t.developerDirectories
  sdksDirectories : s.sdksDirectories ⊆ t.sdksDirectories
  platform : t.platform = none ∨ t.platform = s.platform
  minimum : t.minimum = s.minimum
  maximum : t.maximum = s.maximum

namespace Widens

theorem refl (s : Search) : s.Widens s :=
  ⟨fun _ hon => hon, List.Subset.refl _, List.Subset.refl _, .inr rfl, rfl, rfl⟩

/-- Widening a search twice widens it. -/
theorem trans (h : s.Widens t) (h' : t.Widens u) : s.Widens u where
  locators l hon := h'.locators l (h.locators l hon)
  developerDirectories := List.Subset.trans h.developerDirectories h'.developerDirectories
  sdksDirectories := List.Subset.trans h.sdksDirectories h'.sdksDirectories
  platform := by
    rcases h'.platform with hnone | hsame
    · exact .inl hnone
    · exact hsame ▸ h.platform
  minimum := h'.minimum.trans h.minimum
  maximum := h'.maximum.trans h.maximum

/-- A setting that adds roots widens the search. -/
theorem apply {setting : Setting} (h : setting.AddsRoots) (s : Search) :
    s.Widens (s.apply setting) := by
  cases h with
  | developerDirectory | commandLineTools | defaultXcode | systemXcodes =>
    refine ⟨fun l hon => ?_, List.Subset.refl _, List.Subset.refl _, .inr rfl, rfl, rfl⟩
    cases l <;> first | exact hon | rfl
  | addDeveloperDirectory path =>
    exact ⟨fun l hon => by cases l <;> exact hon, List.subset_append_left _ _, List.Subset.refl _,
      .inr rfl, rfl, rfl⟩
  | addSdksDirectory path =>
    exact ⟨fun l hon => by cases l <;> exact hon, List.Subset.refl _, List.subset_append_left _ _,
      .inr rfl, rfl, rfl⟩

theorem applyAll {settings : List Setting} (h : ∀ setting ∈ settings, setting.AddsRoots)
    (s : Search) : s.Widens (s.applyAll settings) := by
  induction settings generalizing s with
  | nil => exact .refl s
  | cons setting settings ih =>
    have hfirst : s.Widens (s.apply setting) := .apply (h setting List.mem_cons_self) s
    exact hfirst.trans (ih (fun other hother => h other (List.mem_cons_of_mem _ hother)) _)

/-- Asking for a platform narrows a search. -/
theorem of_platform (h : s.platform = none) (p : Platform) : (s.apply (.platform p)).Widens s :=
  ⟨fun l hon => by cases l <;> exact hon, List.Subset.refl _, List.Subset.refl _, .inl h, rfl, rfl⟩

theorem roots_locator (h : s.Widens t) (l : Locator) : l.roots s w ⊆ l.roots t w := by
  rw [Locator.roots, Locator.roots, Locator.paths, Locator.paths]
  by_cases hon : l.isOn s = true
  · rw [if_pos hon, if_pos (h.locators l hon)]
    exact List.Subset.refl _
  · rw [if_neg hon]
    exact List.nil_subset _

theorem candidates (h : s.Widens t) : s.candidates w ⊆ t.candidates w := by
  have hdeveloper := List.map_subset (SearchRoot.mk .developer) h.developerDirectories
  have hsdks := List.map_subset (SearchRoot.mk .sdks) h.sdksDirectories
  intro root
  simp only [Search.candidates, candidateGroups, List.flatten_cons, List.flatten_nil,
    List.append_nil, List.mem_append]
  exact Or.imp (h.roots_locator _ ·) <| Or.imp (h.roots_locator _ ·) <|
    Or.imp (h.roots_locator _ ·) <| Or.imp (h.roots_locator _ ·) <| Or.imp (hdeveloper ·) (hsdks ·)

/-- A locator that is off stops no search, so the narrower search has roots where the wider one has. -/
theorem roots (h : s.Widens t) (hroots : (t.roots w).result = .ok many) :
    ∃ few, (s.roots w).result = .ok few ∧ few ⊆ many := by
  obtain ⟨hgoes, rfl⟩ := roots_eq_ok_iff.mp hroots
  -- Each result is its candidates without repetitions, so only membership is left to compare.
  refine ⟨_, roots_eq_ok_iff.mpr ⟨fun l => ?_, rfl⟩, fun root hroot => ?_⟩
  · by_cases hon : l.isOn s = true
    · have hstop := hgoes l
      rw [Locator.stop?, if_pos (h.locators l hon)] at hstop
      rw [Locator.stop?, if_pos hon, hstop]
    · rw [Locator.stop?, if_neg hon]
  · rw [firstOccurrences_nil, List.mem_eraseDups] at hroot ⊢
    exact h.candidates hroot

/-- What the narrow search looks into, the wide one does as well. -/
theorem expansion {root : SearchRoot} (h : s.Widens t)
    (hroot : root.sdksDirectories w t.platform = .ok (t.expansion w root)) :
    root.sdksDirectories w s.platform = .ok (s.expansion w root) ∧
      s.expansion w root ⊆ t.expansion w root := by
  have hfew : ∃ few, root.sdksDirectories w s.platform = .ok few ∧ few ⊆ t.expansion w root := by
    rcases h.platform with hnone | hsame
    · exact SearchRoot.sdksDirectories_of_any (hnone ▸ hroot) _
    · exact ⟨_, hsame ▸ hroot, List.Subset.refl _⟩
  obtain ⟨directories, hok, hsub⟩ := hfew
  have hexpansion : s.expansion w root = directories := by rw [Search.expansion, hok]; rfl
  exact ⟨hexpansion ▸ hok, hexpansion ▸ hsub⟩

theorem searchedDirectories (h : s.Widens t) (hsub : few ⊆ many)
    (hmany : t.Completes w kind many) :
    s.searchedDirectories w few ⊆ t.searchedDirectories w many := by
  intro directory hdirectory
  rw [Search.searchedDirectories, List.mem_eraseDups, List.mem_flatMap] at hdirectory ⊢
  obtain ⟨root, hroot, hdirectory⟩ := hdirectory
  exact ⟨root, hsub hroot, (h.expansion (hmany.expands root (hsub hroot))).2 hdirectory⟩

theorem accepts (h : s.Widens t) (sdk : Sdk) : t.accepts sdk = s.accepts sdk := by
  rw [Search.accepts, Search.accepts, h.minimum, h.maximum]

theorem wellBounded (h : s.Widens t) (hbounds : t.WellBounded) : s.WellBounded := by
  rw [WellBounded, h.minimum, h.maximum] at hbounds
  exact hbounds

theorem admits (h : s.Widens t) (sdk : Sdk) : t.admits sdk = s.admits sdk := by
  rw [Search.admits, Search.admits, h.accepts]

/-- A search completes where a wider one does. -/
theorem completes (h : s.Widens t) (hsub : few ⊆ many) (hmany : t.Completes w kind many) :
    s.Completes w kind few where
  expands root hroot := (h.expansion (hmany.expands root (hsub hroot))).1
  enumerates directory hdirectory :=
    hmany.enumerates directory (h.searchedDirectories hsub hmany hdirectory)
  judges directory hdirectory sdk hsdk := by
    rw [← h.accepts, ← h.admits]
    exact hmany.judges directory (h.searchedDirectories hsub hmany hdirectory) sdk hsdk

theorem selection (h : s.Widens t) (hsub : few ⊆ many) (hmany : t.Completes w kind many) :
    s.selection w kind few ⊆ t.selection w kind many := by
  intro sdk hsdk
  obtain ⟨root, hroot, directory, hdirectory, hsdk, hadmits⟩ := mem_selection_iff.mp hsdk
  have hexpansion := (h.expansion (hmany.expands root (hsub hroot))).2
  exact mem_selection_iff.mpr ⟨root, hsub hroot, directory, hexpansion hdirectory, hsdk,
    (h.admits sdk).trans hadmits⟩

/-- The narrow search succeeds where the wide one does, and finds no more. -/
theorem run {found : List Sdk} (h : s.Widens t) (hrun : (t.run w kind).result = .ok found) :
    ∃ part, (s.run w kind).result = .ok part ∧ part ⊆ found := by
  obtain ⟨hbounds, many, hmany, hcompletes, rfl⟩ := run_eq_ok_iff.mp hrun
  obtain ⟨few, hfew, hsub⟩ := h.roots hmany
  exact ⟨_, run_eq_ok_iff.mpr ⟨h.wellBounded hbounds, few, hfew, h.completes hsub hcompletes, rfl⟩,
    h.selection hsub hcompletes⟩

end Widens

/-- Settings that add roots lose no SDK: where the search with them succeeds, the one without them does
too, and all that it finds is found. A wanted platform adds no SDK to a search for all of them. -/
theorem run_subset_of_addsRoots_and_platform (s : Search) (w : World) (kind : SdkKind) :
    (∀ settings : List Setting, (∀ setting ∈ settings, setting.AddsRoots) →
        ∀ many, ((s.applyAll settings).run w kind).result = .ok many →
          ∃ few, (s.run w kind).result = .ok few ∧ few ⊆ many) ∧
      (s.platform = none → ∀ p many, (s.run w kind).result = .ok many →
        ∃ few, ((s.apply (.platform p)).run w kind).result = .ok few ∧ few ⊆ many) :=
  ⟨fun _ hsettings _ hrun => (Widens.applyAll hsettings s).run hrun,
    fun hnone p _ hrun => (Widens.of_platform hnone p).run hrun⟩

/-- A directory of SDKs, and a developer directory with another. -/
def twoPlacesWorld : World :=
  .ofTree [(opt, .developerTree [(macOsxPlatform, [⟨"MacOSX14.5.sdk", by decide⟩])]),
    (⟨"extra", by decide⟩, .directory {} [(⟨"MacOSX12.1.sdk", by decide⟩, .directory {} [])])]

/-- Both directories of SDKs are searched, that of the developer directory last. -/
def twoPlacesSearch : Search where
  sdksDirectories := [.ofString "/extra", .ofString "/opt/Platforms/MacOSX.platform/Developer/SDKs"]

/-- The developer directory is a further root, which takes its directory of SDKs over. -/
def takenOverSearch : Search :=
  twoPlacesSearch.apply (.addDeveloperDirectory (.ofString "/opt"))

/-- The SDKs of a directory that is taken over come first. They come last again if a platform is wanted
for which the developer directory has no SDKs. -/
theorem run_subset_of_addsRoots_and_platform_takenOver :
    (∀ setting ∈ [Setting.addDeveloperDirectory (.ofString "/opt")], setting.AddsRoots) ∧
      takenOverSearch.platform = none ∧
      ∃ narrow wide restricted,
        (twoPlacesSearch.run twoPlacesWorld .unparsed).result = .ok narrow ∧
        (takenOverSearch.run twoPlacesWorld .unparsed).result = .ok wide ∧
        ((takenOverSearch.apply (.platform (.ofKnown .iphoneOs))).run twoPlacesWorld
          .unparsed).result = .ok restricted ∧
        narrow ⊆ wide ∧ restricted ⊆ wide ∧
        wide.map (·.version?) = [some ⟨"14.5"⟩, some ⟨"12.1"⟩] ∧
        narrow.map (·.version?) = [some ⟨"12.1"⟩, some ⟨"14.5"⟩] ∧
        restricted.map (·.version?) = [some ⟨"12.1"⟩, some ⟨"14.5"⟩] := by
  have hadds : ∀ setting ∈ [Setting.addDeveloperDirectory (.ofString "/opt")],
      setting.AddsRoots := by
    intro setting hsetting
    cases List.mem_singleton.mp hsetting
    exact .addDeveloperDirectory _
  have hversions : ((takenOverSearch.run twoPlacesWorld .unparsed).result.map fun sdks =>
      sdks.map (·.version?)).toOption = some [some ⟨"14.5"⟩, some ⟨"12.1"⟩] := by
    decide +kernel
  obtain ⟨wide, hwide, hversions⟩ :=
    Except.map_eq_ok_iff.mp (Except.toOption_eq_some_iff.mp hversions)
  obtain ⟨narrow, hnarrow, hsub⟩ :=
    (run_subset_of_addsRoots_and_platform twoPlacesSearch _ _).1 _ hadds wide hwide
  obtain ⟨restricted, hrestricted, hsub'⟩ :=
    (run_subset_of_addsRoots_and_platform takenOverSearch _ _).2 rfl (.ofKnown .iphoneOs) wide hwide
  have hfew : ((twoPlacesSearch.run twoPlacesWorld .unparsed).result.map fun sdks =>
      sdks.map (·.version?)).toOption = some [some ⟨"12.1"⟩, some ⟨"14.5"⟩] := by
    decide +kernel
  have hback : (((takenOverSearch.apply (.platform (.ofKnown .iphoneOs))).run twoPlacesWorld
      .unparsed).result.map fun sdks => sdks.map (·.version?)).toOption =
        some [some ⟨"12.1"⟩, some ⟨"14.5"⟩] := by
    decide +kernel
  rw [hnarrow] at hfew
  rw [hrestricted] at hback
  exact ⟨hadds, rfl, narrow, wide, restricted, hnarrow, hwide, hrestricted, hsub, hsub', hversions,
    Option.some.inj hfew, Option.some.inj hback⟩

end Search

end SdkScout
