import Mathlib.Data.List.Forall2
import SdkScout.Proofs.Descent
import SdkScout.Proofs.Sdk.Unannounced

/-!
# What settings add to a name

An SDK that is read with its settings is one that is known by its name, unless it has no settings
file; then it is passed over. Both have the same path, and the settings can only change the platform
and the version (`Sdk.Refines`). Where the SDKs of a directory can be read with their settings, they
can be listed by their names (`Sdk.inDirectory_refines`): a name that is too long for the one is too
long for the other.
-/

namespace List

variable {α β γ : Type} {R : β → γ → Prop} {p : γ → Bool}

/-- Two partial maps of a list, where the first has a result exactly if the second has one that is
kept. -/
theorem forall₂_filterMap {f : α → Option β} {g : α → Option γ} {xs : List α}
    (h : ∀ x ∈ xs, f x = none ∧ (g x).all (!p ·) = true ∨
      ∃ b c, f x = some b ∧ g x = some c ∧ p c = true ∧ R b c) :
    Forall₂ R (xs.filterMap f) ((xs.filterMap g).filter p) := by
  induction xs with
  | nil => exact .nil
  | cons x xs ih =>
    have hrest := ih fun y hy => h y (mem_cons_of_mem _ hy)
    rcases h x mem_cons_self with ⟨hf, hg⟩ | ⟨b, c, hf, hg, hp, hR⟩
    · cases hgx : g x with
      | none => simpa [hf, hgx] using hrest
      | some c =>
        have hc : p c = false := by simpa [hgx] using hg
        simpa [hf, hgx, hc] using hrest
    · simpa [hf, hg, hp] using ⟨hR, hrest⟩

theorem forall₂_flatMap {f : α → List β} {g : α → List γ} {xs : List α}
    (h : ∀ x ∈ xs, Forall₂ R (f x) ((g x).filter p)) :
    Forall₂ R (xs.flatMap f) ((xs.flatMap g).filter p) := by
  induction xs with
  | nil => exact .nil
  | cons x xs ih =>
    rw [flatMap_cons, flatMap_cons, filter_append]
    exact rel_append (h x mem_cons_self) (ih fun y hy => h y (mem_cons_of_mem _ hy))

end List

namespace SdkScout

namespace KnownPlatform

theorem mem_all (k : KnownPlatform) : k ∈ all := by
  cases k <;> simp [all]

/-- Known platforms differ by more than the case of their names. -/
theorem folded_name_injective {k k' : KnownPlatform} (h : folded k.name = folded k'.name) :
    k = k' := by
  have hall : ∀ k ∈ all, ∀ k' ∈ all, folded k.name = folded k'.name → k = k' := by
    decide +kernel
  exact hall k (mem_all k) k' (mem_all k') h

theorem ofFolded?_eq_some_iff {name : String} {k : KnownPlatform} :
    ofFolded? name = some k ↔ folded k.name = folded name := by
  constructor
  · intro h
    simpa using List.find?_some h
  · intro h
    cases hfind : ofFolded? name with
    | none => simpa [h] using List.find?_eq_none.mp hfind k (mem_all k)
    | some k' =>
      have hk' : folded k'.name = folded name := by simpa using List.find?_some hfind
      rw [folded_name_injective (hk'.trans h.symm)]

end KnownPlatform

/-- Whether a directory has a settings file, links followed. -/
def World.holdsSettings (w : World) (path : Path) : Bool :=
  w.isFile (path.child Settings.jsonName) = .ok true ∨
    w.isFile (path.child Settings.plistName) = .ok true

theorem Settings.holdsSettings_of_ofDirectory {w : World} {path : Path} {found : Option Settings}
    (h : ofDirectory w path = .ok found) :
    (∃ b, w.isFile (path.child jsonName) = .ok b) ∧ w.holdsSettings path = found.isSome := by
  rw [ofDirectory] at h
  rw [World.holdsSettings]
  obtain ⟨isJson, hjson, h⟩ := Except.bind_eq_ok_iff.mp h
  refine ⟨⟨isJson, hjson⟩, ?_⟩
  cases isJson with
  | true =>
    obtain ⟨_, -, h⟩ := Except.bind_eq_ok_iff.mp h
    obtain ⟨_, -, h⟩ := Except.bind_eq_ok_iff.mp h
    cases h
    simp [hjson]
  | false =>
    obtain ⟨isPlist, hplist, h⟩ := Except.bind_eq_ok_iff.mp h
    cases isPlist with
    | true =>
      obtain ⟨_, -, h⟩ := Except.bind_eq_ok_iff.mp h
      obtain ⟨_, -, h⟩ := Except.bind_eq_ok_iff.mp h
      cases h
      simp [hjson, hplist]
    | false =>
      cases h
      simp [hjson, hplist]

namespace Sdk

/-- A value is the name of a known platform, in any mixture of cases. -/
inductive Names : Value → KnownPlatform → Prop
  | text {name : String} {k : KnownPlatform} :
    KnownPlatform.folded k.name = KnownPlatform.folded name → Names (.text name) k

/-- An SDK with its settings against the same SDK without them. The platform is the known one that
the settings name, or else that of the directory's name. -/
structure Refines (w : World) (parsed unparsed : Sdk) : Prop where
  path : parsed.path = unparsed.path
  isSymlink : parsed.isSymlink = unparsed.isSymlink
  version : ∃ v, parsed.version? = some v
  platform : ∃ settings, parsed.detail = .parsed settings ∧
    Settings.ofDirectory w parsed.path = .ok (some settings) ∧
    (∀ k, Names settings.platformName k → parsed.platform = .ofKnown k) ∧
    ((¬ ∃ k, Names settings.platformName k) → parsed.platform = unparsed.platform)

variable {w : World}

theorem Names.isFalsy_eq_false {name : Value} {k : KnownPlatform} (h : Names name k) :
    name.isFalsy = false := by
  obtain ⟨hfolded⟩ := h
  rename_i name
  have hne : name ≠ "" := by
    rintro rfl
    cases k <;> exact absurd hfolded (by decide +kernel)
  simpa [Value.isFalsy] using hne

/-- A known platform that is named goes before the one of the path. -/
theorem platform_of_settledPlatform {fromPath platform : Platform} {name : Value}
    (h : settledPlatform fromPath name = .ok platform) :
    (∀ k, Names name k → platform = .ofKnown k) ∧
      ((¬ ∃ k, Names name k) → platform = fromPath) := by
  rw [settledPlatform.eq_def] at h
  constructor
  · intro k hnames
    rw [hnames.isFalsy_eq_false] at h
    obtain ⟨hfolded⟩ := hnames
    simpa [KnownPlatform.ofFolded?_eq_some_iff.mpr hfolded, eq_comm] using h
  · intro hnone
    split at h
    · cases h
      rfl
    · split at h
      · rename_i name _
        cases hfind : KnownPlatform.ofFolded? name with
        | none => simpa [hfind, eq_comm] using h
        | some k =>
          exact absurd ⟨k, .text (KnownPlatform.ofFolded?_eq_some_iff.mp hfind)⟩ hnone
      · cases h
        rfl
      · cases h

/-- A path that can be tested for a settings file can be tested for being a link. -/
theorem exists_isSymlink {p : Path} {c : Path.Component} {found : Bool}
    (h : w.isFile ((p.child c).child Settings.jsonName) = .ok found) :
    ∃ link, w.isSymlink (p.child c) = .ok link := by
  cases hlink : w.isSymlink (p.child c) with
  | ok link => exact ⟨link, rfl⟩
  | error failure =>
    obtain ⟨_, hfile⟩ : ∃ failure', w.isFile ((p.child c).child Settings.jsonName) = .error failure' :=
      World.test_child_of_error (by decide) hlink
    cases hfile.symm.trans h

/-- An SDK that has settings and does not stop an enumeration. -/
theorem exists_refines_of_settings {path : Path} {sdkPath : SdkPath} {settings : Settings}
    {link : Bool} (hpath : SdkPath.ofPath? path = some sdkPath)
    (hsettings : Settings.ofDirectory w path = .ok (some settings))
    (hlink : w.isSymlink path = .ok link) (h : blocking? w .parsed path = none) :
    ∃ parsed, ofDirectory w path .parsed = .ok parsed ∧ parsed.Refines w
      { path, isSymlink := link, platform := sdkPath.platform,
        detail := .unparsed sdkPath.version } := by
  have hparsed := ofDirectory_parsed_of_some hpath hsettings
  simp only [hlink, Except.map_ok_eq] at hparsed
  cases hplatform : settledPlatform sdkPath.platform settings.platformName with
  | error failure =>
    rw [hplatform, (settledPlatform_eq_error_iff.mp hplatform).1] at hparsed
    simp [blocking?, hparsed] at h
  | ok platform =>
    rw [hplatform] at hparsed
    exact ⟨_, hparsed, rfl, rfl, ⟨settings.version, rfl⟩,
      settings, rfl, hsettings, platform_of_settledPlatform hplatform⟩

/-- An entry of a directory that does not stop an enumeration with settings does not stop one
without them. It is an SDK there if its name says so, and here if it has settings as well. -/
theorem refines_of_blocking?_eq_none {p : Path} {c : Path.Component}
    (h : blocking? w .parsed (p.child c) = none) :
    blocking? w .unparsed (p.child c) = none ∧
      ((ofDirectory w (p.child c) .parsed).toOption = none ∧
          (ofDirectory w (p.child c) .unparsed).toOption.all (!w.holdsSettings ·.path) = true ∨
        ∃ parsed unparsed, (ofDirectory w (p.child c) .parsed).toOption = some parsed ∧
          (ofDirectory w (p.child c) .unparsed).toOption = some unparsed ∧
          w.holdsSettings unparsed.path = true ∧ parsed.Refines w unparsed) := by
  generalize hpath : p.child c = path at h
  cases hsdk : SdkPath.ofPath? path with
  | none =>
    have hfails : ∀ kind, ofDirectory w path kind = .error (.notSdk path) := fun _ =>
      ofDirectory_eq_notSdk hsdk
    exact ⟨blocking?_eq_none_iff.mpr (.inr ⟨path, hfails _⟩), .inl (by simp [hfails])⟩
  | some sdkPath =>
    cases hsettings : Settings.ofDirectory w path with
    | error failure =>
      have hfails := ofDirectory_parsed_of_error hsdk hsettings
      rcases blocking?_eq_none_iff.mp h with ⟨_, hok⟩ | ⟨_, hskips⟩
      · cases hfails.symm.trans hok
      · cases hfails.symm.trans hskips
        exact absurd hsettings Settings.ofDirectory_ne_notSdk
    | ok found =>
      obtain ⟨⟨_, hjson⟩, hholds⟩ := Settings.holdsSettings_of_ofDirectory hsettings
      obtain ⟨link, hlink⟩ : ∃ link, w.isSymlink path = .ok link := by
        subst hpath
        exact exists_isSymlink hjson
      have hunparsed := ofDirectory_unparsed_eq (w := w) hsdk
      rw [hlink, Except.map_ok_eq] at hunparsed
      refine ⟨blocking?_eq_none_iff.mpr (.inl ⟨_, hunparsed⟩), ?_⟩
      cases found with
      | none =>
        have hskips := ofDirectory_parsed_of_none hsdk hsettings
        exact .inl (by simp [hskips, hunparsed, hholds])
      | some settings =>
        obtain ⟨parsed, hparsed, hrefines⟩ := exists_refines_of_settings hsdk hsettings hlink h
        have hfound := Except.toOption_eq_some_iff.mpr hunparsed
        exact .inr ⟨parsed, _, Except.toOption_eq_some_iff.mpr hparsed, hfound, hholds, hrefines⟩

/-- Where the SDKs of a directory can be read with their settings, they can be listed by name. Read
with settings are those that have a settings file, and they match. -/
theorem inDirectory_refines {directory : Path} {parsed : List Sdk}
    (h : inDirectory w .parsed directory = .ok parsed) :
    ∃ unparsed, inDirectory w .unparsed directory = .ok unparsed ∧
      List.Forall₂ (Refines w) parsed (unparsed.filter (w.holdsSettings ·.path)) := by
  obtain ⟨cs, hcs, hpasses, rfl⟩ := inDirectory_eq_ok_iff.mp h
  obtain ⟨names, -, rfl⟩ := World.childrenIfPresent_eq_map hcs
  have hnames : ∀ c ∈ names, blocking? w .parsed (directory.child c) = none :=
    List.forall_mem_map.mp hpasses
  refine ⟨_, inDirectory_eq_ok_iff.mpr ⟨_, hcs, ?_, rfl⟩, List.forall₂_filterMap ?_⟩
  · exact List.forall_mem_map.mpr fun c hc => (refines_of_blocking?_eq_none (hnames c hc)).1
  · exact List.forall_mem_map.mpr fun c hc => (refines_of_blocking?_eq_none (hnames c hc)).2

theorem paths_eq_of_refines {parsed unparsed : List Sdk}
    (h : List.Forall₂ (Refines w) parsed (unparsed.filter (w.holdsSettings ·.path))) :
    parsed.map (·.path) = (unparsed.map (·.path)).filter w.holdsSettings := by
  have hpaths : List.Forall₂ Eq (parsed.map (·.path))
      ((unparsed.filter (w.holdsSettings ·.path)).map (·.path)) :=
    List.forall₂_map_left_iff.mpr
      (List.forall₂_map_right_iff.mpr (h.imp fun _ _ hrefines => hrefines.path))
  rw [List.forall₂_eq_eq_eq] at hpaths
  rw [hpaths, List.filter_map]
  rfl

end Sdk

end SdkScout
