import SdkScout.Proofs.Profile.Methods

/-!
# Profiles that are refused

What is wrong with a profile is blamed on a value of it (`Failure.IsOfValue`), with two exceptions: its
unknown keys may have no order to list them in, and a directory may be in a home that nobody has. The
profiles that fail in these ways are known exactly (`Profile.ofValue_fails_otherwise_iff`).

Each key takes values of certain types (`Profile.Method.Takes`), and other values are refused. Again
there is an exception: whatever counts as nothing is as good as no list of directories
(`Profile.Method.Overlooks`).
-/

namespace SdkScout

/-- The failures that blame a value: a version, a path, a text or a part of a document. -/
inductive Failure.IsOfValue : Failure → Prop
  | malformedVersion (text : String) : IsOfValue (.malformedVersion text)
  | oversizedVersion : IsOfValue .oversizedVersion
  | notPlatform (shown : String) : IsOfValue (.notPlatform shown)
  | notSdk (path : Path) : IsOfValue (.notSdk path)
  | oversizedInteger : IsOfValue .oversizedInteger
  | profile (source : String) (fault : ProfileFault) : IsOfValue (.profile source fault)
  | unknownSdkKind (name : String) : IsOfValue (.unknownSdkKind name)
  | profileNotUtf8 : IsOfValue .profileNotUtf8
  | nulInPath : IsOfValue .nulInPath
  | badInteger : IsOfValue (.yaml .badInteger)
  | badFloat : IsOfValue (.yaml .badFloat)
  | badTimestamp : IsOfValue (.yaml .badTimestamp)
  | badCharacterNumber : IsOfValue (.yaml .badCharacterNumber)

theorem Failure.not_isOfValue_unorderedKeys : ¬ IsOfValue .unorderedKeys := by
  intro h
  cases h

theorem Failure.not_isOfValue_unknownHome : ¬ IsOfValue .unknownHome := by
  intro h
  cases h

theorem SdkKind.ofName_eq_error {name : String} {f : Failure} (h : ofName name = .error f) :
    f = .unknownSdkKind name := by
  rw [ofName] at h
  split at h <;> cases h
  rfl

/-- There are two ways in which a home directory cannot be told. -/
theorem World.expandHome_eq_error {w : World} {path : Path} {f : Failure}
    (h : w.expandHome path = .error f) : f = .nulInPath ∨ f = .unknownHome := by
  rw [expandHome] at h
  split at h
  · split at h
    · split at h
      · cases h
        exact .inl rfl
      · split at h
        · cases h
          exact .inr rfl
        · dsimp only at h
          split at h <;> cases h
          exact .inr rfl
    · cases h
  · cases h

namespace Profile

open Value (field? field textEntries ofFields)

/-! ## What is blamed -/

section
variable (w : World) (entries : List (Value × Value))

/-- Two of the unknown keys have no order. -/
def HasUnorderedKeys : Prop :=
  ∃ e ∈ entries, ∃ e' ∈ entries, isKnown e.1 = false ∧ isKnown e'.1 = false ∧
    e.1.comparable e'.1 = false

/-- The first item that is no directory is a text, and in a home that nobody has. -/
def LacksHome (items : List Value) : Prop :=
  ∃ before name after, items = before ++ .text name :: after ∧
    (∀ v ∈ before, ∃ other path, v = .text other ∧ w.expandHome (.ofString other) = .ok path) ∧
    w.expandHome (.ofString name) = .error .unknownHome

/-- There is nothing wrong with the keys, and neither with the values of those that are checked first,
until there comes a directory in a home that nobody has. -/
def ComesToLackHome : Prop :=
  (∀ e ∈ entries, isKnown e.1 = true) ∧ ∃ before key add after items,
    methods = before ++ (key, .directories add) :: after ∧
    (∀ b ∈ before, ∃ calls, AsksUnder w entries b.1 b.2 calls) ∧
    field? entries key = some (.list items) ∧ LacksHome w items

end

variable {w : World} {source key : String} {m : Method} {entries : List (Value × Value)}
  {items : List Value} {v : Value} {f : Failure}

/-- Unknown keys that have no order cannot be listed, so the failure names none of them. -/
theorem checkKeys_of_hasUnorderedKeys (h : HasUnorderedKeys entries) :
    checkKeys source entries = .error .unorderedKeys := by
  obtain ⟨e, he, e', he', hunknown, hunknown', hcomparable⟩ := h
  have hnone : Value.sortKeys? ((entries.map (·.1)).filter (!isKnown ·)) = none := by
    rw [Value.sortKeys?_eq_none_iff]
    refine ⟨e.1, ?_, e'.1, ?_, hcomparable⟩
    · simpa [hunknown] using ⟨e.2, he⟩
    · simpa [hunknown'] using ⟨e'.2, he'⟩
  rw [checkKeys, hnone]

/-- A failure of the keys blames them, unless they have no order. -/
theorem checkKeys_eq_error (h : checkKeys source entries = .error f) :
    f.IsOfValue ∨ f = .unorderedKeys ∧ HasUnorderedKeys entries := by
  rw [checkKeys] at h
  cases hsorted : Value.sortKeys? ((entries.map (·.1)).filter (!isKnown ·)) with
  | none =>
    rw [hsorted] at h
    cases h
    obtain ⟨k, hk, l, hl, hcomparable⟩ := Value.sortKeys?_eq_none_iff.mp hsorted
    simp only [List.mem_filter, List.mem_map, Bool.not_eq_true'] at hk hl
    obtain ⟨⟨e, he, rfl⟩, hunknown⟩ := hk
    obtain ⟨⟨e', he', rfl⟩, hunknown'⟩ := hl
    exact .inr ⟨rfl, e, he, e', he', hunknown, hunknown', hcomparable⟩
  | some unknown =>
    rw [hsorted] at h
    cases unknown with
    | nil => cases h
    | cons k unknown =>
      rcases Except.bind_eq_error_iff.mp h with hwritten | ⟨shown, -, hthrow⟩
      · obtain ⟨before, l, after, -, -, hl⟩ := Except.mapM_eq_error_iff.mp hwritten
        obtain ⟨-, rfl⟩ := Value.written_eq_error_iff.mp hl
        exact .inl .oversizedInteger
      · cases hthrow
        exact .inl (.profile _ _)

theorem directory_eq_error (h : directory w source key v = .error f) :
    f.IsOfValue ∨ f = .unknownHome ∧
      ∃ name, v = .text name ∧ w.expandHome (.ofString name) = .error .unknownHome := by
  cases v with
  | text name =>
    rcases World.expandHome_eq_error h with rfl | rfl
    · exact .inl .nulInPath
    · exact .inr ⟨rfl, name, rfl, h⟩
  | _ =>
    cases h
    exact .inl (.profile _ _)

/-- A list of directories fails for one of its values, or for a home that nobody has. -/
theorem mapM_directory_eq_error (h : items.mapM (directory w source key) = .error f) :
    f.IsOfValue ∨ f = .unknownHome ∧ LacksHome w items := by
  obtain ⟨before, v, after, rfl, hbefore, hv⟩ := Except.mapM_eq_error_iff.mp h
  rcases directory_eq_error hv with hvalue | ⟨rfl, name, rfl, hname⟩
  · exact .inl hvalue
  · refine .inr ⟨rfl, before, name, after, rfl, fun u hu => ?_, hname⟩
    obtain ⟨path, hpath⟩ := hbefore u hu
    obtain ⟨other, rfl, hother⟩ := directory_eq_ok_iff.mp hpath
    exact ⟨other, path, rfl, hother⟩

theorem mapM_directory_of_lacksHome (h : LacksHome w items) :
    items.mapM (directory w source key) = .error .unknownHome := by
  obtain ⟨before, name, after, rfl, hbefore, hname⟩ := h
  refine Except.mapM_eq_error_iff.mpr ⟨before, _, after, rfl, fun u hu => ?_, hname⟩
  obtain ⟨other, path, rfl, hother⟩ := hbefore u hu
  exact ⟨path, hother⟩

theorem step_of_lacksHome {add : Path → Search.Setting}
    (hitems : field? entries key = some (.list items)) (h : LacksHome w items) :
    step w source entries key (.directories add) = .error .unknownHome := by
  rw [step, directorySettings, field, hitems]
  exact Except.bind_eq_error_iff.mpr (.inl (mapM_directory_of_lacksHome h))

theorem versionSetting_eq_error {set : Version → Search.Setting}
    (h : versionSetting source entries (key, set) = .error f) : f.IsOfValue := by
  rw [versionSetting] at h
  split at h
  · cases h
  · cases h
  · rcases Except.bind_eq_error_iff.mp h with hwritten | ⟨_, -, hok⟩
    · obtain ⟨-, rfl⟩ := Value.written_eq_error_iff.mp hwritten
      exact .oversizedInteger
    · cases hok
  · cases h
    exact .profile _ _
  · cases h
    exact .profile _ _

theorem kindOf_eq_error (h : kindOf source entries = .error f) : f.IsOfValue := by
  rw [kindOf] at h
  split at h
  · cases h
  · rw [SdkKind.ofName_eq_error h]
    exact .unknownSdkKind _
  · cases h
    exact .profile _ _

/-- Directories fail for a value, or for a home that nobody has. -/
theorem directorySettings_eq_error {add : Path → Search.Setting}
    (h : directorySettings w source entries (key, add) = .error f) :
    f.IsOfValue ∨ f = .unknownHome ∧
      ∃ items, field? entries key = some (.list items) ∧ LacksHome w items := by
  rw [directorySettings, field] at h
  cases hv : field? entries key with
  | none => simp [hv, Value.isFalsy] at h
  | some v =>
    rw [hv] at h
    cases v with
    | list items =>
      rcases Except.bind_eq_error_iff.mp h with hitems | ⟨paths, -, hok⟩
      · rcases mapM_directory_eq_error hitems with hvalue | ⟨rfl, hlacks⟩
        · exact .inl hvalue
        · exact .inr ⟨rfl, items, rfl, hlacks⟩
      · cases hok
    | _ =>
      simp only [Option.getD_some] at h
      split at h <;> cases h
      exact .inl (.profile _ _)

/-- A step fails for its value, or for a home that nobody has. -/
theorem step_eq_error (h : step w source entries key m = .error f) :
    f.IsOfValue ∨ f = .unknownHome ∧ ∃ add items,
      m = .directories add ∧ field? entries key = some (.list items) ∧ LacksHome w items := by
  cases m with
  | flag set =>
    rw [step, flagSetting] at h
    split at h <;> cases h
    exact .inl (.profile _ _)
  | platform =>
    rw [step, platformSetting] at h
    split at h <;> cases h
    exact .inl (.profile _ _)
  | bound set => exact .inl (versionSetting_eq_error h)
  | kind => exact .inl (kindOf_eq_error (Except.map_eq_error_iff.mp h))
  | directories add =>
    rcases directorySettings_eq_error h with hvalue | ⟨hf, items, hitems, hlacks⟩
    · exact .inl hvalue
    · exact .inr ⟨hf, add, items, rfl, hitems, hlacks⟩

theorem ofEntries_of_hasUnorderedKeys (h : HasUnorderedKeys entries) :
    ofEntries w source entries = .error .unorderedKeys :=
  ofEntries_eq_error_iff.mpr (.inl (checkKeys_of_hasUnorderedKeys h))

theorem ofEntries_of_comesToLackHome (h : ComesToLackHome w entries) :
    ofEntries w source entries = .error .unknownHome := by
  obtain ⟨hknown, before, key, add, after, items, hmethods, hbefore, hitems, hlacks⟩ := h
  exact ofEntries_eq_error_iff.mpr (.inr ⟨hknown, before, key, _, after, hmethods, hbefore,
    step_of_lacksHome hitems hlacks⟩)

/-- A profile is refused for a key or a value, or for one of two other reasons. -/
theorem ofEntries_eq_error (h : ofEntries w source entries = .error f) :
    f.IsOfValue ∨ f = .unorderedKeys ∧ HasUnorderedKeys entries ∨
      f = .unknownHome ∧ ComesToLackHome w entries := by
  rcases ofEntries_eq_error_iff.mp h with
    hkeys | ⟨hknown, before, key, m, after, hmethods, hbefore, hstep⟩
  · exact (checkKeys_eq_error hkeys).imp_right .inl
  · rcases step_eq_error hstep with hvalue | ⟨rfl, add, items, rfl, hitems, hlacks⟩
    · exact .inl hvalue
    · exact .inr (.inr ⟨rfl, hknown, before, key, add, after, items, hmethods, hbefore, hitems,
        hlacks⟩)

theorem ofEntries_fails_otherwise_iff :
    (ofEntries w source entries = .error f ∧ ¬ f.IsOfValue) ↔
      f = .unorderedKeys ∧ HasUnorderedKeys entries ∨
        f = .unknownHome ∧ ComesToLackHome w entries := by
  constructor
  · rintro ⟨h, hvalue⟩
    exact (ofEntries_eq_error h).resolve_left hvalue
  · rintro (⟨rfl, h⟩ | ⟨rfl, h⟩)
    · exact ⟨ofEntries_of_hasUnorderedKeys h, Failure.not_isOfValue_unorderedKeys⟩
    · exact ⟨ofEntries_of_comesToLackHome h, Failure.not_isOfValue_unknownHome⟩

/-- A profile with unknown keys is refused, and the keys are to blame if they have an order. -/
theorem ofEntries_of_unknown {e : Value × Value} (he : e ∈ entries) (hunknown : isKnown e.1 = false) :
    ∃ f, ofEntries w source entries = .error f ∧ (f.IsOfValue ↔ ¬ HasUnorderedKeys entries) := by
  cases h : checkKeys source entries with
  | ok =>
    have hknown : isKnown e.1 = true := checkKeys_eq_ok_iff.mp h e he
    rw [hunknown] at hknown
    cases hknown
  | error f =>
    refine ⟨f, ofEntries_eq_error_iff.mpr (.inl h), fun hvalue hunordered => ?_, fun hordered => ?_⟩
    · cases h.symm.trans (checkKeys_of_hasUnorderedKeys hunordered)
      cases hvalue
    · exact (checkKeys_eq_error h).resolve_right fun hunordered => hordered hunordered.2

theorem not_comesToLackHome_nil : ¬ ComesToLackHome w [] := by
  rintro ⟨-, before, key, add, after, items, -, -, hitems, -⟩
  cases hitems

/-- A document of whatever shape that describes no profile is refused for a value of it, unless it has
unknown keys without an order, or a directory in a home that nobody has comes before all that is
wrong with it. Unknown keys that have an order are always to blame. -/
theorem ofValue_fails_otherwise_iff (w : World) (source : String) :
    (∀ (v : Value) (f : Failure), (ofValue w source v = .error f ∧ ¬ f.IsOfValue) ↔
      ∃ entries, v = .mapping entries ∧ (f = .unorderedKeys ∧ HasUnorderedKeys entries ∨
        f = .unknownHome ∧ ComesToLackHome w entries)) ∧
    ∀ entries : List (Value × Value), (∃ e ∈ entries, isKnown e.1 = false) →
      ∃ f, ofValue w source (.mapping entries) = .error f ∧
        (f.IsOfValue ↔ ¬ HasUnorderedKeys entries) := by
  constructor
  · intro v f
    cases v with
    | mapping entries =>
      rw [ofValue, ofEntries_fails_otherwise_iff]
      simp
    | null =>
      rw [ofValue, ofEntries_fails_otherwise_iff]
      simp [HasUnorderedKeys, not_comesToLackHome_nil]
    | _ =>
      constructor
      · rintro ⟨h, hvalue⟩
        cases h
        exact absurd (.profile source .notMapping) hvalue
      · rintro ⟨entries, hv, -⟩
        cases hv
  · rintro entries ⟨e, he, hunknown⟩
    exact ofEntries_of_unknown he hunknown

/-- A profile whose unknown keys are a number and a text. -/
def mixedEntries : List (Value × Value) :=
  [(.int 1, .text "x"), (.text "a", .text "y")]

theorem ofValue_fails_otherwise_iff_mixedEntries :
    ∃ f, ofValue homeWorld "sdks.yaml" (.mapping mixedEntries) = .error f ∧
      HasUnorderedKeys mixedEntries ∧ ¬ f.IsOfValue := by
  have hunordered : HasUnorderedKeys mixedEntries :=
    ⟨(.int 1, .text "x"), by simp [mixedEntries], (.text "a", .text "y"), by simp [mixedEntries],
      by decide, by decide, by decide⟩
  obtain ⟨f, hf, hvalue⟩ := (ofValue_fails_otherwise_iff homeWorld "sdks.yaml").2 mixedEntries
    ⟨(.int 1, .text "x"), by simp [mixedEntries], by decide⟩
  exact ⟨f, hf, hunordered, fun h => hvalue.mp h hunordered⟩

theorem ofValue_blames_no_value :
    ofValue homeWorld "sdks.yaml" (.mapping mixedEntries) = .error .unorderedKeys ∧
    ofValue homeWorld "sdks.yaml"
        (ofFields [("additional_sdks_dirs", .list [.text "~nobody/sdks"])]) = .error .unknownHome ∧
    ¬ Failure.IsOfValue .unorderedKeys ∧ ¬ Failure.IsOfValue .unknownHome := by
  refine ⟨?_, ?_, Failure.not_isOfValue_unorderedKeys, Failure.not_isOfValue_unknownHome⟩ <;>
    with_unfolding_all rfl

/-! ## Wrong types -/

/-- The values of the types that a key takes. -/
inductive Method.Takes : Method → Value → Prop
  | flag (set : Bool → Search.Setting) (on : Bool) : Takes (.flag set) (.bool on)
  | directories (add : Path → Search.Setting) (names : List String) :
    Takes (.directories add) (.list (names.map .text))
  | noDirectories (add : Path → Search.Setting) : Takes (.directories add) .null
  | platform (name : String) : Takes .platform (.text name)
  | noPlatform : Takes .platform .null
  | bound (set : Version → Search.Setting) (text : String) : Takes (.bound set) (.text text)
  | wholeBound (set : Version → Search.Setting) (n : Int) : Takes (.bound set) (.int n)
  | noBound (set : Version → Search.Setting) : Takes (.bound set) .null
  | kind (name : String) : Takes .kind (.text name)

/-- The values that a key treats as if they were not there. -/
inductive Method.Overlooks : Method → Value → Prop
  | directories (add : Path → Search.Setting) {v : Value} :
    v.isFalsy = true → Overlooks (.directories add) v

/-- A value that asks for something is of the kind that its key takes, or is passed over. -/
theorem Asks.takes_or_overlooks {calls : List Search.Setting} (h : Asks w m v calls) :
    m.Takes v ∨ m.Overlooks v := by
  cases h with
  | flag => exact .inl (.flag _ _)
  | directories => exact .inl (.directories _ _)
  | noDirectories _ hfalsy => exact .inr (.directories _ hfalsy)
  | platform => exact .inl (.platform _)
  | noPlatform => exact .inl .noPlatform
  | bound => exact .inl (.bound _ _)
  | wholeBound => exact .inl (.wholeBound _ _)
  | noBound => exact .inl (.noBound _)
  | kind => exact .inl (.kind _)

/-- Leaving one key out leaves the others as they are. -/
theorem field?_filter_of_ne {name : String} (h : name ≠ key) :
    field? (entries.filter fun e => !e.1.isKey key) name = field? entries name := by
  have hname (e : Value × Value) : decide ((!e.1.isKey key) = true ∧ e.1.isKey name = true) =
      e.1.isKey name := by
    cases hkey : e.1.isKey name with
    | false => simp
    | true =>
      rw [Value.isKey_iff.mp hkey]
      simpa [Value.isKey] using h
  rw [field?, field?, List.find?_filter]
  simp only [hname]

theorem field?_filter_self : field? (entries.filter fun e => !e.1.isKey key) key = none := by
  rw [field?, List.find?_filter]
  simp

/-- An overlooked value is as good as none. -/
theorem ofEntries_of_overlooks (hknown : ∀ e ∈ entries, isKnown e.1 = true)
    (hmethod : (key, m) ∈ methods) (hfield : field? entries key = some v) (h : m.Overlooks v) :
    ofEntries w source entries = ofEntries w source (entries.filter fun e => !e.1.isKey key) := by
  obtain ⟨add, hfalsy⟩ := h
  have hkeys : checkKeys source entries =
      checkKeys source (entries.filter fun e => !e.1.isKey key) := by
    rw [checkKeys_eq_ok_iff.mpr hknown, checkKeys_eq_ok_iff.mpr]
    exact fun e he => hknown e (List.mem_of_mem_filter he)
  have hsteps : (methods.mapM fun m => step w source entries m.1 m.2) =
      methods.mapM fun m => step w source (entries.filter fun e => !e.1.isKey key) m.1 m.2 := by
    refine Except.mapM_congr ?_
    rintro ⟨name, m⟩ hname
    by_cases hne : name = key
    · subst hne
      obtain rfl := method_unique hname hmethod
      have hwith : step w source entries name (.directories add) = .ok [] := by
        rw [step_eq_ok_iff hname, AsksUnder, hfield]
        exact .noDirectories add hfalsy
      have hwithout : step w source (entries.filter fun e => !e.1.isKey name) name
          (.directories add) = .ok [] := by
        rw [step_eq_ok_iff hname, AsksUnder, field?_filter_self]
      rw [hwith, hwithout]
    · exact step_congr hname (field?_filter_of_ne hne).symm
  have hkind : kindOf source entries = kindOf source (entries.filter fun e => !e.1.isKey key) := by
    have hne : kindKey ≠ key := by
      rintro rfl
      simp [methods, kindKey] at hmethod
    rw [kindOf, kindOf, field?_filter_of_ne hne]
  rw [ofEntries_eq, ofEntries_eq, hkeys, hsteps, hkind]

/-- A value of a wrong type that is not overlooked asks for nothing, so it is refused. -/
theorem exists_ofEntries_eq_error (hmethod : (key, m) ∈ methods)
    (hfield : field? entries key = some v) (hwrong : ¬ m.Takes v) (h : ¬ m.Overlooks v) :
    ∃ f, ofEntries w source entries = .error f := by
  cases hprofile : ofEntries w source entries with
  | error f => exact ⟨f, rfl⟩
  | ok p =>
    obtain ⟨-, hasks, -⟩ := ofEntries_eq_ok_iff.mp hprofile
    obtain ⟨calls, hasked⟩ := hasks _ hmethod
    rw [AsksUnder, hfield] at hasked
    exact absurd (Asks.takes_or_overlooks hasked) (not_or.mpr ⟨hwrong, h⟩)

/-- A value of a wrong type is never accepted, but if its key overlooks it, the outcome is that without
the key. Otherwise the profile is refused for a value of it, unless it comes to a directory in a home
that nobody has before. -/
theorem ofValue_wrongType (w : World) (source : String) {entries : List (Value × Value)}
    (hkeys : Value.Distinct (entries.map (·.1)))
    (hknown : ∀ e ∈ entries, ∃ m ∈ methods, e.1 = .text m.1) {key : String} {m : Method} {v : Value}
    (hmethod : (key, m) ∈ methods) (hentry : (.text key, v) ∈ entries) (hwrong : ¬ m.Takes v) :
    (m.Overlooks v → ofValue w source (.mapping entries) =
      ofValue w source (.mapping (entries.filter fun e => !e.1.isKey key))) ∧
    (¬ m.Overlooks v → ∃ f, ofValue w source (.mapping entries) = .error f ∧
      (f.IsOfValue ∧ ¬ ComesToLackHome w entries ∨
        f = .unknownHome ∧ ComesToLackHome w entries)) := by
  have hfield : field? entries key = some v := (Value.field?_eq_some_iff hkeys).mpr hentry
  have hknown : ∀ e ∈ entries, isKnown e.1 = true := fun e he => isKnown_iff.mpr (hknown e he)
  constructor
  · intro h
    exact ofEntries_of_overlooks hknown hmethod hfield h
  · intro h
    obtain ⟨f, hf⟩ : ∃ f, ofEntries w source entries = .error f :=
      exists_ofEntries_eq_error hmethod hfield hwrong h
    refine ⟨f, hf, ?_⟩
    by_cases hlacks : ComesToLackHome w entries
    · have heq := hf.symm.trans (ofEntries_of_comesToLackHome hlacks)
      exact .inr ⟨Except.error.inj heq, hlacks⟩
    · refine .inl ⟨?_, hlacks⟩
      rcases ofEntries_eq_error hf with hvalue | ⟨-, e, he, -, -, hunknown, -⟩ | ⟨-, h⟩
      · exact hvalue
      · rw [hknown e he] at hunknown
        cases hunknown
      · exact absurd h hlacks

/-- The truth value is overlooked, and the number is not. -/
def mistypedFields : List (String × Value) :=
  [("additional_sdks_dirs", .bool false), ("platform", .int 5)]

theorem ofValue_wrongType_mistypedFields :
    ofValue homeWorld "sdks.yaml" (ofFields mistypedFields) =
      ofValue homeWorld "sdks.yaml" (ofFields [("platform", .int 5)]) ∧
    ∃ f, ofValue homeWorld "sdks.yaml" (ofFields mistypedFields) = .error f ∧
      (f.IsOfValue ∧ ¬ ComesToLackHome homeWorld (textEntries mistypedFields) ∨
        f = .unknownHome ∧ ComesToLackHome homeWorld (textEntries mistypedFields)) := by
  have hkeys : Value.Distinct ((textEntries mistypedFields).map (·.1)) :=
    Value.distinct_textEntries (by decide)
  have hknown : ∀ e ∈ textEntries mistypedFields, ∃ m ∈ methods, e.1 = .text m.1 := by
    simp [textEntries, mistypedFields, methods]
  constructor
  · have hmethod : ("additional_sdks_dirs", Method.directories .addSdksDirectory) ∈ methods := by
      simp [methods]
    have hentry : (.text "additional_sdks_dirs", .bool false) ∈ textEntries mistypedFields := by
      simp [textEntries, mistypedFields]
    have hwrong : ¬ (Method.directories .addSdksDirectory).Takes (.bool false) := by
      intro h
      cases h
    exact (ofValue_wrongType homeWorld "sdks.yaml" hkeys hknown hmethod hentry hwrong).1
      (.directories _ rfl)
  · have hmethod : ("platform", Method.platform) ∈ methods := by simp [methods]
    have hentry : (.text "platform", .int 5) ∈ textEntries mistypedFields := by
      simp [textEntries, mistypedFields]
    have hwrong : ¬ Method.platform.Takes (.int 5) := by
      intro h
      cases h
    have hseen : ¬ Method.platform.Overlooks (.int 5) := by
      intro h
      cases h
    exact (ofValue_wrongType homeWorld "sdks.yaml" hkeys hknown hmethod hentry hwrong).2 hseen

theorem ofValue_overlooks_false :
    ofValue homeWorld "sdks.yaml" (ofFields [("additional_sdks_dirs", .bool false)]) =
      .ok ⟨{}, .unparsed, "sdks.yaml"⟩ ∧
    ¬ (Method.directories .addSdksDirectory).Takes (.bool false) := by
  constructor
  · with_unfolding_all rfl
  · intro h
    cases h

end Profile

end SdkScout
