import SdkScout.Profile
import SdkScout.Proofs.Outcome
import SdkScout.Proofs.Value.Keys
import SdkScout.Proofs.Value.Written

/-!
# What the keys of a profile ask for

Each key of a profile stands for a way of configuring a search (`Profile.methods`), and its value says
which settings are made (`Profile.Asks`). However the keys are written down, they are checked in the
order of `methods`, and the step of a key looks at nothing but the value under that key. So a profile is
refused for its first step that fails (`Profile.ofEntries_eq_error_iff`), and if none does, its settings
are those that its values ask for (`Profile.ofEntries_eq_ok_iff`, `Profile.step_eq_ok_iff`).
-/

namespace SdkScout.Profile

open Value (field? field)

/-- What the value under a key is used for. -/
inductive Method
  | flag (set : Bool → Search.Setting)
  | directories (add : Path → Search.Setting)
  | platform
  | bound (set : Version → Search.Setting)
  | kind

/-- The keys that a profile may have, in the order in which they are checked. -/
def methods : List (String × Method) :=
  [("developer_dir", .flag .developerDirectory),
    ("command_line_tools", .flag .commandLineTools),
    ("default_system_xcode", .flag .defaultXcode),
    ("system_xcodes", .flag .systemXcodes),
    ("additional_developer_dirs", .directories .addDeveloperDirectory),
    ("additional_sdks_dirs", .directories .addSdksDirectory),
    ("platform", .platform),
    ("minimum_version", .bound .minimum),
    ("maximum_version", .bound .maximum),
    ("sdk", .kind)]

/-- The settings that a value asks for. The kind of SDKs is not part of a search. -/
inductive Asks (w : World) : Method → Value → List Search.Setting → Prop
  | flag (set : Bool → Search.Setting) (on : Bool) : Asks w (.flag set) (.bool on) [set on]
  | directories (add : Path → Search.Setting) {names : List String} {paths : List Path} :
    List.Forall₂ (fun name path => w.expandHome (.ofString name) = .ok path) names paths →
    Asks w (.directories add) (.list (names.map .text)) (paths.map add)
  | noDirectories (add : Path → Search.Setting) {v : Value} :
    v.isFalsy = true → Asks w (.directories add) v []
  | platform (name : String) : Asks w .platform (.text name) [.platform ⟨name⟩]
  | noPlatform : Asks w .platform .null []
  | bound (set : Version → Search.Setting) (text : String) :
    Asks w (.bound set) (.text text) [set ⟨text⟩]
  | wholeBound (set : Version → Search.Setting) {n : Int} :
    (Text.digitsOfNat n.natAbs).length ≤ Text.digitLimit →
    Asks w (.bound set) (.int n) [set ⟨toString n⟩]
  | noBound (set : Version → Search.Setting) : Asks w (.bound set) .null []
  | kind {name : String} {kind : SdkKind} :
    SdkKind.ofName name = .ok kind → Asks w .kind (.text name) []

section
variable (w : World) (source : String) (entries : List (Value × Value))

/-- The settings that a mapping asks for under a key. -/
def AsksUnder (key : String) (m : Method) (calls : List Search.Setting) : Prop :=
  match field? entries key with
  | none => calls = []
  | some v => Asks w m v calls

/-- The step in which a key is checked. -/
def step (key : String) : Method → Except Failure (List Search.Setting)
  | .flag set => flagSetting source entries (key, set)
  | .directories add => directorySettings w source entries (key, add)
  | .platform => platformSetting source entries
  | .bound set => versionSetting source entries (key, set)
  | .kind => (kindOf source entries).map fun _ => []

/-- The settings that are made for a key. There are none if the key is unknown or its value refused. -/
def made (key : String) : List Search.Setting :=
  (methods.lookup key).elim [] fun m => (step w source entries key m).toOption.getD []

end

variable {w : World} {source key : String} {m : Method} {entries entries' : List (Value × Value)}
  {calls : List Search.Setting} {f : Failure}

/-- A profile is made of the steps of all keys, whichever part of it they are for. -/
theorem ofEntries_eq : ofEntries w source entries = (do
    checkKeys source entries
    let calls ← methods.mapM fun m => step w source entries m.1 m.2
    let kind ← kindOf source entries
    return { search := ({} : Search).applyAll calls.flatten, kind, source }) := by
  rw [ofEntries]
  congr 1
  funext _
  cases h : kindOf source entries with
  | _ => simp [methods, step, settings, flagKeys, directoryKeys, versionKeys, h, List.mapM_cons]

theorem methods_nodup : (methods.map (·.1)).Nodup := by
  decide

/-- A key is used for one thing. -/
theorem method_unique {m' : Method} (h : (key, m) ∈ methods) (h' : (key, m') ∈ methods) : m = m' := by
  rw [← lookup_eq_some_iff_mem methods_nodup] at h h'
  exact Option.some.inj (h.symm.trans h')

/-- The known keys are those that are used. -/
theorem knownKeys_perm : knownKeys.Perm (methods.map (·.1)) := by
  decide

theorem isKnown_iff {key : Value} : isKnown key = true ↔ ∃ m ∈ methods, key = .text m.1 := by
  cases key with
  | text name =>
    have hnames : isKnown (.text name) = true ↔ name ∈ knownKeys := by
      simp [isKnown, Value.isKey]
    rw [hnames, knownKeys_perm.mem_iff]
    simp [eq_comm]
  | _ => simp [isKnown, Value.isKey]

/-- A directory is a text whose home can be told. -/
theorem directory_eq_ok_iff {v : Value} {path : Path} :
    directory w source key v = .ok path ↔
      ∃ name, v = .text name ∧ w.expandHome (.ofString name) = .ok path := by
  cases v <;> simp [directory]

/-- A list of directories is one of texts, each with its own path. -/
theorem mapM_directory_eq_ok_iff {items : List Value} {paths : List Path} :
    items.mapM (directory w source key) = .ok paths ↔ ∃ names, items = names.map .text ∧
      List.Forall₂ (fun name path => w.expandHome (.ofString name) = .ok path) names paths := by
  rw [Except.mapM_eq_ok_iff]
  constructor
  · intro h
    induction h with
    | nil => exact ⟨[], rfl, .nil⟩
    | cons hpath _ ih =>
      obtain ⟨name, rfl, hname⟩ := directory_eq_ok_iff.mp hpath
      obtain ⟨names, rfl, hnames⟩ := ih
      exact ⟨name :: names, rfl, .cons hname hnames⟩
  · rintro ⟨names, rfl, hnames⟩
    rw [List.forall₂_map_left_iff]
    exact hnames.imp fun name path hpath => directory_eq_ok_iff.mpr ⟨name, rfl, hpath⟩

theorem flagSetting_eq_ok_iff {set : Bool → Search.Setting} :
    flagSetting source entries (key, set) = .ok calls ↔ AsksUnder w entries key (.flag set) calls := by
  rw [flagSetting, AsksUnder]
  cases field? entries key with
  | none => simp [eq_comm]
  | some v =>
    constructor
    · intro h
      cases v <;> cases h
      exact .flag set _
    · rintro ⟨⟩
      rfl

/-- A value that counts as nothing asks for no directories. -/
theorem directorySettings_eq_ok_iff {add : Path → Search.Setting} :
    directorySettings w source entries (key, add) = .ok calls ↔
      AsksUnder w entries key (.directories add) calls := by
  rw [directorySettings, AsksUnder, field]
  cases field? entries key with
  | none => simp [Value.isFalsy, eq_comm]
  | some v =>
    constructor
    · intro h
      cases v with
      | list items =>
        obtain ⟨paths, hpaths, hcalls⟩ := Except.bind_eq_ok_iff.mp h
        cases hcalls
        obtain ⟨names, rfl, hnames⟩ := mapM_directory_eq_ok_iff.mp hpaths
        exact .directories add hnames
      | _ =>
        simp only [Option.getD_some] at h
        split at h
        · rename_i hfalsy
          cases h
          exact .noDirectories add hfalsy
        · cases h
    · intro h
      cases h with
      | directories _ hnames =>
        exact Except.bind_eq_ok_iff.mpr ⟨_, mapM_directory_eq_ok_iff.mpr ⟨_, rfl, hnames⟩, rfl⟩
      | noDirectories _ hfalsy =>
        cases v <;> simp_all [Value.isFalsy]

theorem platformSetting_eq_ok_iff :
    platformSetting source entries = .ok calls ↔ AsksUnder w entries "platform" .platform calls := by
  rw [platformSetting, AsksUnder, field, platformKey]
  cases field? entries "platform" with
  | none => simp [eq_comm]
  | some v =>
    constructor
    · intro h
      cases v <;> cases h
      · exact .noPlatform
      · exact .platform _
    · rintro ⟨⟩ <;> rfl

/-- A bound is a text, or an integer that can be written out. -/
theorem versionSetting_eq_ok_iff {set : Version → Search.Setting} :
    versionSetting source entries (key, set) = .ok calls ↔
      AsksUnder w entries key (.bound set) calls := by
  rw [versionSetting, AsksUnder, field]
  cases field? entries key with
  | none => simp [eq_comm]
  | some v =>
    constructor
    · intro h
      cases v with
      | int n =>
        obtain ⟨text, htext, hcalls⟩ := Except.bind_eq_ok_iff.mp h
        cases hcalls
        obtain ⟨hdigits, rfl⟩ := Value.written_int_eq_ok_iff.mp htext
        exact .wholeBound set hdigits
      | null =>
        cases h
        exact .noBound set
      | text text =>
        cases h
        exact .bound set text
      | _ => cases h
    · intro h
      cases h with
      | bound | noBound => rfl
      | wholeBound _ hdigits =>
        exact Except.bind_eq_ok_iff.mpr ⟨_, Value.written_int_eq_ok_iff.mpr ⟨hdigits, rfl⟩, rfl⟩

theorem kindOf_eq_ok_iff {kind : SdkKind} : kindOf source entries = .ok kind ↔
    match field? entries "sdk" with
    | none => kind = .unparsed
    | some v => ∃ name, v = .text name ∧ SdkKind.ofName name = .ok kind := by
  rw [kindOf, kindKey]
  cases field? entries "sdk" with
  | none => simp [eq_comm]
  | some v => cases v <;> simp

/-- What a step comes to is what the value under its key asks for. -/
theorem step_eq_ok_iff (hmethod : (key, m) ∈ methods) :
    step w source entries key m = .ok calls ↔ AsksUnder w entries key m calls := by
  cases m with
  | flag set => exact flagSetting_eq_ok_iff
  | directories add => exact directorySettings_eq_ok_iff
  | bound set => exact versionSetting_eq_ok_iff
  | platform =>
    obtain rfl : key = "platform" := by simpa [methods] using hmethod
    exact platformSetting_eq_ok_iff
  | kind =>
    obtain rfl : key = "sdk" := by simpa [methods] using hmethod
    rw [step, Except.map_eq_ok_iff]
    simp only [kindOf_eq_ok_iff, AsksUnder]
    cases field? entries "sdk" with
    | none => simp [eq_comm]
    | some v =>
      constructor
      · rintro ⟨kind, ⟨name, rfl, hname⟩, rfl⟩
        exact .kind hname
      · rintro ⟨⟩
        rename_i name kind hname
        exact ⟨kind, ⟨name, rfl, hname⟩, rfl⟩

/-- The step of a key looks at nothing but the value under that key. -/
theorem step_congr (hmethod : (key, m) ∈ methods) (h : field? entries key = field? entries' key) :
    step w source entries key m = step w source entries' key m := by
  cases m with
  | flag set => rw [step, step, flagSetting, flagSetting, h]
  | directories add => rw [step, step, directorySettings, directorySettings, field, field, h]
  | bound set => rw [step, step, versionSetting, versionSetting, field, field, h]
  | platform =>
    obtain rfl : key = "platform" := by simpa [methods] using hmethod
    rw [step, step, platformSetting, platformSetting, field, field, platformKey, h]
  | kind =>
    obtain rfl : key = "sdk" := by simpa [methods] using hmethod
    rw [step, step, kindOf, kindOf, kindKey, h]

/-- The keys are in order if all of them are known. -/
theorem checkKeys_eq_ok_iff :
    checkKeys source entries = .ok () ↔ ∀ e ∈ entries, isKnown e.1 = true := by
  have hempty : (∀ e ∈ entries, isKnown e.1 = true) ↔
      (entries.map (·.1)).filter (!isKnown ·) = [] := by
    simp
  rw [hempty, checkKeys]
  cases h : Value.sortKeys? ((entries.map (·.1)).filter (!isKnown ·)) with
  | none =>
    obtain ⟨k, hk, -⟩ := Value.sortKeys?_eq_none_iff.mp h
    simp [List.ne_nil_of_mem hk]
  | some unknown =>
    have hperm := Value.perm_of_sortKeys? h
    cases unknown with
    | nil => simp [hperm.nil_eq.symm]
    | cons key unknown =>
      have hne : (entries.map (·.1)).filter (!isKnown ·) ≠ [] := fun hnil => by
        simp [hnil] at hperm
      cases hshown : (key :: unknown).mapM Value.written <;> simp [hne, hshown]

/-- The unknown keys are listed in their own order, whichever way they are written down. -/
theorem checkKeys_eq_of_perm (hperm : entries.Perm entries')
    (hdistinct : Value.Distinct (entries.map (·.1))) (hnan : ∀ e ∈ entries, e.1 ≠ .float .nan) :
    checkKeys source entries = checkKeys source entries' := by
  have hunknown := (hperm.map (·.1)).filter (!isKnown ·)
  rw [checkKeys, checkKeys, Value.sortKeys?_eq_of_perm hunknown (hdistinct.filter _) ?_]
  intro k hk
  obtain ⟨e, he, rfl⟩ := List.mem_map.mp (List.mem_of_mem_filter hk)
  exact hnan e he

theorem made_of_mem (hmethod : (key, m) ∈ methods) :
    made w source entries key = (step w source entries key m).toOption.getD [] := by
  rw [made, (lookup_eq_some_iff_mem methods_nodup).mpr hmethod]
  rfl

/-- A key is asked for one thing at most, and that is made. -/
theorem AsksUnder.made_eq (h : AsksUnder w entries key m calls) (hmethod : (key, m) ∈ methods) :
    made w source entries key = calls := by
  have hstep : step w source entries key m = .ok calls := (step_eq_ok_iff hmethod).mpr h
  rw [made_of_mem hmethod, hstep]
  rfl

/-- A profile is what its values ask for, if all of its keys are known and every value asks for
something. -/
theorem ofEntries_eq_ok_iff {p : Profile} : ofEntries w source entries = .ok p ↔
    (∀ e ∈ entries, isKnown e.1 = true) ∧
      (∀ m ∈ methods, ∃ calls, AsksUnder w entries m.1 m.2 calls) ∧
      kindOf source entries = .ok p.kind ∧ p.source = source ∧
      p.search = ({} : Search).applyAll (methods.flatMap fun m => made w source entries m.1) := by
  have hsteps (calls : List (List Search.Setting)) :
      (methods.mapM fun m => step w source entries m.1 m.2) = .ok calls ↔
        (∀ m ∈ methods, ∃ calls, AsksUnder w entries m.1 m.2 calls) ∧
          calls = methods.map fun m => made w source entries m.1 := by
    rw [Except.mapM_eq_ok_iff_map []]
    refine and_congr (forall₂_congr fun m hm => ?_) ?_
    · exact exists_congr fun calls => step_eq_ok_iff hm
    · rw [List.map_congr_left fun m hm => made_of_mem hm]
  simp only [ofEntries_eq, Except.bind_eq_ok_iff, hsteps, Except.pure_eq_ok, Except.ok.injEq]
  constructor
  · rintro ⟨_, hknown, _, ⟨hasks, rfl⟩, _, hkind, rfl⟩
    exact ⟨checkKeys_eq_ok_iff.mp hknown, hasks, hkind, rfl, by rw [List.flatMap_def]⟩
  · rintro ⟨hknown, hasks, hkind, rfl, hsearch⟩
    refine ⟨(), checkKeys_eq_ok_iff.mpr hknown, _, ⟨hasks, rfl⟩, p.kind, hkind, ?_⟩
    rw [← List.flatMap_def, ← hsearch]

/-- A profile is refused for its unknown keys, or else for the first value that asks for nothing. -/
theorem ofEntries_eq_error_iff : ofEntries w source entries = .error f ↔
    checkKeys source entries = .error f ∨
      (∀ e ∈ entries, isKnown e.1 = true) ∧ ∃ before key m after,
        methods = before ++ (key, m) :: after ∧
        (∀ b ∈ before, ∃ calls, AsksUnder w entries b.1 b.2 calls) ∧
        step w source entries key m = .error f := by
  have hkind {calls : List (List Search.Setting)}
      (h : (methods.mapM fun m => step w source entries m.1 m.2) = .ok calls) :
      ∃ kind, kindOf source entries = .ok kind := by
    obtain ⟨calls, hstep⟩ := Except.exists_mapM_eq_ok_iff.mp ⟨_, h⟩ ("sdk", .kind) (by simp [methods])
    obtain ⟨kind, hkind, -⟩ := Except.map_eq_ok_iff.mp hstep
    exact ⟨kind, hkind⟩
  have hsteps : (methods.mapM fun m => step w source entries m.1 m.2) = .error f ↔
      ∃ before key m after, methods = before ++ (key, m) :: after ∧
        (∀ b ∈ before, ∃ calls, AsksUnder w entries b.1 b.2 calls) ∧
        step w source entries key m = .error f := by
    rw [Except.mapM_eq_error_iff]
    simp only [Prod.exists]
    refine exists_congr fun before => exists_congr fun key => exists_congr fun m =>
      exists_congr fun after => and_congr_right fun hmethods => and_congr_left fun _ => ?_
    refine forall₂_congr fun b hb => exists_congr fun calls => step_eq_ok_iff ?_
    rw [hmethods]
    exact List.mem_append_left _ hb
  have hknown : checkKeys source entries = .ok () ↔ ∀ e ∈ entries, isKnown e.1 = true :=
    checkKeys_eq_ok_iff
  rw [ofEntries_eq, Except.bind_eq_error_iff, ← hsteps, ← hknown]
  refine or_congr Iff.rfl ⟨?_, ?_⟩
  · rintro ⟨_, hknown, h⟩
    refine ⟨hknown, ?_⟩
    rcases Except.bind_eq_error_iff.mp h with hfails | ⟨calls, hcalls, h⟩
    · exact hfails
    -- The kind is settled by the last of the steps, so nothing fails after them.
    · obtain ⟨kind, hkind⟩ := hkind hcalls
      simp [hkind] at h
  · rintro ⟨hknown, hfails⟩
    exact ⟨(), hknown, Except.bind_eq_error_iff.mpr (.inl hfails)⟩

/-- A world in which there is nothing, and only the user of the session has a home directory. -/
def homeWorld : World where
  root := .directory {} []
  workingDirectory := []
  places := .standard
  environment := [("HOME", "/Users/tester")]
  homes := []
  helper := .notStarted 2

end SdkScout.Profile
