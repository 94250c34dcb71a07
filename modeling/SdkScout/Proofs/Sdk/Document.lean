import SdkScout.Proofs.Condition
import SdkScout.Proofs.Sdk.Settings

/-!
# How a settings document is read

A settings document is decided by conditions that are checked in order (`Settings.conditions`): four
on its own keys, then two on each target. If all of them hold, the settings say what the document
says (`Settings.Describes`); else the first that does not hold is the failure. This names the key at
fault, unless the key is an integer that is too long to be written (`Settings.HasUnwritableTarget`).
Nothing else of the document counts: keys that are not read may hold anything, or be missing
(`Settings.SameEntries`).
-/

namespace SdkScout

namespace SettingsFault

/-- The key that a fault is about. -/
def key? : SettingsFault → Option String
  | unreadable | notMapping => none
  | keyMissing key | keyNotText key | sectionNotMapping key => some key
  | targetNotMapping name => some name

/-- The message contains the key. -/
theorem exists_message_eq {fault : SettingsFault} {key : String} (h : fault.key? = some key) :
    ∃ before after, fault.message = before ++ key ++ after := by
  cases fault with
  | unreadable | notMapping => simp [key?] at h
  | keyMissing name =>
    obtain rfl : name = key := Option.some.inj h
    exact ⟨"key missing: ", "", String.append_empty.symm⟩
  | keyNotText name =>
    obtain rfl : name = key := Option.some.inj h
    exact ⟨"key not a string: ", "", String.append_empty.symm⟩
  | sectionNotMapping name =>
    obtain rfl : name = key := Option.some.inj h
    exact ⟨"", _, congrArg (· ++ " is not a dictionary") String.empty_append.symm⟩
  | targetNotMapping name =>
    obtain rfl : name = key := Option.some.inj h
    exact ⟨"SupportedTargets.", " is not a dictionary", rfl⟩

end SettingsFault

namespace Value

/-- Entries hold the same under some keys. An absent key holds null. -/
def AgreeOn (keys : List String) (entries entries' : List (Value × Value)) : Prop :=
  ∀ key ∈ keys, field entries key = field entries' key

/-- Values are the same, or both are mappings, with entries that are related. -/
inductive Alike (R : List (Value × Value) → List (Value × Value) → Prop) : Value → Value → Prop
  | refl (value : Value) : Alike R value value
  | mapping {entries entries' : List (Value × Value)} :
    R entries entries' → Alike R (.mapping entries) (.mapping entries')

/-- What is not under a key that is looked up may be changed, added or left out. -/
theorem AgreeOn.of_filter_eq {keys : List String} {entries entries' : List (Value × Value)}
    (h : entries.filter (fun e => keys.any (e.1.isKey ·)) =
      entries'.filter fun e => keys.any (e.1.isKey ·)) : AgreeOn keys entries entries' := by
  intro key hkey
  have hfind (es : List (Value × Value)) :
      (es.filter fun e => keys.any (e.1.isKey ·)).find? (fun e => e.1.isKey key) =
        es.find? fun e => e.1.isKey key := by
    rw [List.find?_filter]
    congr 1
    ext e
    rw [Bool.eq_iff_iff]
    exact decide_eq_true_iff.trans ⟨And.right, fun h => ⟨List.any_eq_true.mpr ⟨key, hkey, h⟩, h⟩⟩
  rw [field, field, field?, field?, ← hfind entries, h, hfind]

end Value

namespace Settings

/-! ## What is asked of a document -/

/-- A null is as good as no value. -/
def textFault (key : String) : Value → SettingsFault
  | .null => .keyMissing key
  | _ => .keyNotText key

theorem textFault_key? (key : String) (v : Value) : (textFault key v).key? = some key := by
  cases v <;> rfl

def textCondition (source : String) (entries : List (Value × Value)) (key : String) :
    Condition where
  holds := ∃ s, Value.field entries key = .text s
  failure := .settings source (textFault key (Value.field entries key))

def sectionCondition (source : String) (entries : List (Value × Value)) (key : String) :
    Condition where
  holds := (Value.field entries key).isFalsy = true ∨ ∃ es, Value.field entries key = .mapping es
  failure := .settings source (.sectionNotMapping key)

def targetConditions (source : String) (name entry : Value) : List Condition :=
  [{ holds := ∃ es, entry = .mapping es
     failure := notMappingFailure source name },
    { holds := ∀ es, entry = .mapping es → IsArchs (Value.field es "Archs")
      failure := .archsNotIterable }]

/-- The entries of a section that is a mapping. -/
def sectionEntries : Value → List (Value × Value)
  | .mapping es => es
  | _ => []

/-- The conditions on a document, in the order in which they are checked. -/
def conditions (source : String) : Value → List Condition
  | .mapping entries =>
    textCondition source entries "CanonicalName" :: textCondition source entries "Version" ::
      sectionCondition source entries "DefaultProperties" ::
      sectionCondition source entries "SupportedTargets" ::
      (sectionEntries (Value.field entries "SupportedTargets")).flatMap fun e =>
        targetConditions source e.1 e.2
  | _ => [{ holds := False, failure := .settings source .notMapping }]

variable {source key : String} {entries entries' : List (Value × Value)} {value : Value}

theorem decide_requiredText (source : String) (entries : List (Value × Value)) (key : String) :
    Condition.Decide [textCondition source entries key]
      ((requiredText entries key).mapError (.settings source)) := by
  refine .single (fun hholds => ?_) (fun hnot => ?_)
  · obtain ⟨s, hs⟩ := hholds
    exact ⟨s, by rw [requiredText_eq_ok_iff.mpr hs]; rfl⟩
  · simp only [textCondition] at hnot ⊢
    rw [requiredText]
    cases hfield : Value.field entries key with
    | text s => exact absurd ⟨s, hfield⟩ hnot
    | _ => rfl

theorem decide_section? (source : String) (entries : List (Value × Value)) (key : String) :
    Condition.Decide [sectionCondition source entries key]
      ((section? entries key).mapError (.settings source)) := by
  refine .single (fun hholds => ?_) (fun hnot => ?_)
  · obtain ⟨es, hes⟩ : ∃ es, IsSection (Value.field entries key) es := by
      rcases hholds with hfalsy | ⟨es, hes⟩
      · exact ⟨[], .inr ⟨hfalsy, rfl⟩⟩
      · exact ⟨es, .inl hes⟩
    exact ⟨es, by rw [section?_eq_ok_iff.mpr hes]; rfl⟩
  · obtain ⟨hfalsy, hmapping⟩ := not_or.mp hnot
    rw [section?]
    split
    · rename_i es hes
      exact absurd ⟨es, hes⟩ hmapping
    · rw [if_neg hfalsy]
      rfl

/-- A target is decided by its two conditions. -/
theorem decide_target (source : String) (name entry : Value) :
    Condition.Decide (targetConditions source name entry) (target source name entry) where
  ok hall := by
    obtain ⟨hmapping, hall⟩ := List.forall_mem_cons.mp hall
    obtain ⟨es, rfl⟩ := hmapping
    have harchs := hall _ (List.mem_singleton_self _) es rfl
    exact (target_eq_ok_iff_isTarget source name _).mpr (.mapping harchs)
  error hfirst := by
    cases hfirst with
    | here hmapping =>
      exact target_eq_error_iff.mpr (.inr ⟨fun es hes => hmapping ⟨es, hes⟩, rfl⟩)
    | later hmapping hfirst =>
      obtain ⟨es, rfl⟩ := hmapping
      cases hfirst with
      | here harchs =>
        refine target_eq_error_iff.mpr (.inl ⟨.mapping fun h => harchs fun es' hes' => ?_, rfl⟩)
        cases hes'
        exact h
      | later _ hnone => cases hnone

theorem decide_targetList (source : String) (targets : List (Value × Value)) :
    Condition.Decide (targets.flatMap fun e => targetConditions source e.1 e.2)
      (targetList source targets) :=
  .mapM (fun e => (decide_target source e.1 e.2).bind_pure (e.1, ·)) targets

theorem sectionEntries_eq_of_section? {es : List (Value × Value)}
    (h : (section? entries key).mapError (Failure.settings source) = .ok es) :
    sectionEntries (Value.field entries key) = es := by
  cases hread : section? entries key with
  | error fault =>
    rw [hread] at h
    cases h
  | ok fs =>
    rw [hread] at h
    cases h
    rcases section?_eq_ok_iff.mp hread with hfield | ⟨hfalsy, rfl⟩
    · rw [hfield, sectionEntries]
    · cases hfield : Value.field entries key with
      | mapping fs =>
        rw [hfield] at hfalsy
        exact List.isEmpty_iff.mp hfalsy
      | _ => rfl

/-- A document is decided by its conditions, in their order. -/
theorem decide_ofValue (source : String) (value : Value) :
    Condition.Decide (conditions source value) (ofValue source value) := by
  cases value with
  | mapping entries =>
    refine (decide_requiredText source entries "CanonicalName").bind fun canonicalName _ => ?_
    refine (decide_requiredText source entries "Version").bind fun version _ => ?_
    refine (decide_section? source entries "DefaultProperties").bind fun defaults _ => ?_
    refine (decide_section? source entries "SupportedTargets").bind fun targets htargets => ?_
    rw [sectionEntries_eq_of_section? htargets]
    exact (decide_targetList source targets).bind_pure _
  | _ => exact .single False.elim fun _ => rfl

/-- The entry of a target is no mapping, and its key cannot be written. -/
inductive HasUnwritableTarget : Value → Prop
  | intro {entries : List (Value × Value)} {name entry : Value} :
    (name, entry) ∈ sectionEntries (Value.field entries "SupportedTargets") →
    (∀ es, entry ≠ .mapping es) → name.isWritable = false → HasUnwritableTarget (.mapping entries)

/-- The failure at the first violated condition is a fault of the document, or one of two others. -/
theorem failure_of_firstViolated {failure : Failure}
    (h : Condition.FirstViolated (conditions source value) failure) :
    failure = .archsNotIterable ∨ failure = .oversizedInteger ∧ HasUnwritableTarget value ∨
      ∃ fault, failure = .settings source fault ∧
        ∀ entries, value = .mapping entries → ∃ key, fault.key? = some key := by
  obtain ⟨c, hc, hviolated, rfl⟩ := h.exists_mem
  cases value with
  | mapping entries =>
    simp only [conditions, List.mem_cons, List.mem_flatMap, targetConditions, List.not_mem_nil,
      or_false] at hc
    rcases hc with rfl | rfl | rfl | rfl | ⟨e, he, rfl | rfl⟩
    · exact .inr (.inr ⟨_, rfl, fun _ _ => ⟨_, textFault_key? _ _⟩⟩)
    · exact .inr (.inr ⟨_, rfl, fun _ _ => ⟨_, textFault_key? _ _⟩⟩)
    · exact .inr (.inr ⟨_, rfl, fun _ _ => ⟨_, rfl⟩⟩)
    · exact .inr (.inr ⟨_, rfl, fun _ _ => ⟨_, rfl⟩⟩)
    · have hnot : ∀ es, e.2 ≠ .mapping es := fun es hes => hviolated ⟨es, hes⟩
      cases hwritable : e.1.isWritable with
      | true =>
        exact .inr (.inr ⟨_, notMappingFailure_of_isWritable source hwritable, fun _ _ => ⟨_, rfl⟩⟩)
      | false =>
        exact .inr (.inl ⟨notMappingFailure_of_not_isWritable source hwritable,
          .intro he hnot hwritable⟩)
    · exact .inl rfl
  | _ =>
    cases List.mem_singleton.mp hc
    exact .inr (.inr ⟨_, rfl, nofun⟩)

/-! ## What of a document is read -/

/-- The entries of a target hold the same under the keys that are read. -/
def SameTargetEntry : Value → Value → Prop :=
  Value.Alike (Value.AgreeOn ["Archs", "DefaultDeploymentTarget", "MinimumDeploymentTarget",
    "MaximumDeploymentTarget"])

/-- Targets of the same name, with entries that hold the same. -/
inductive SameTarget : Value × Value → Value × Value → Prop
  | intro {name entry entry' : Value} :
    SameTargetEntry entry entry' → SameTarget (name, entry) (name, entry')

theorem SameTarget.forall₂_refl (targets : List (Value × Value)) :
    List.Forall₂ SameTarget targets targets :=
  List.forall₂_same.mpr fun e _ => .intro (.refl e.2)

/-- Documents that hold the same under the keys that are read. -/
structure SameEntries (entries entries' : List (Value × Value)) : Prop where
  own : Value.AgreeOn ["CanonicalName", "Version", "DisplayName", "MaximumDeploymentTarget"]
    entries entries'
  defaults : Value.Alike (Value.AgreeOn ["PLATFORM_NAME"])
    (Value.field entries "DefaultProperties") (Value.field entries' "DefaultProperties")
  targets : Value.Alike (List.Forall₂ SameTarget)
    (Value.field entries "SupportedTargets") (Value.field entries' "SupportedTargets")

/-- A required text depends on the value under its key. -/
theorem requiredText_congr (h : Value.field entries key = Value.field entries' key) :
    requiredText entries key = requiredText entries' key := by
  rw [requiredText, requiredText, h]

/-- Alike sections are both out of shape, or have related entries. -/
theorem section?_corresponds {R : List (Value × Value) → List (Value × Value) → Prop}
    (hR : ∀ es, R es es)
    (h : Value.Alike R (Value.field entries key) (Value.field entries' key)) :
    (section? entries key).Corresponds R (section? entries' key) := by
  rw [section?, section?]
  generalize Value.field entries key = v at h
  generalize Value.field entries' key = v' at h
  cases h with
  | refl => exact .refl hR _
  | mapping h => exact .ok h

/-- Of a target only the keys that are read count. -/
theorem target_congr {name entry entry' : Value} (h : SameTargetEntry entry entry') :
    target source name entry = target source name entry' := by
  cases h with
  | refl => rfl
  | mapping h =>
    simp only [Value.AgreeOn, List.forall_mem_cons] at h
    obtain ⟨harchs, hdefault, hminimum, hmaximum, -⟩ := h
    rw [target, target, archs, archs, harchs, hdefault, hminimum, hmaximum]

theorem targetList_congr {targets targets' : List (Value × Value)}
    (h : List.Forall₂ SameTarget targets targets') :
    targetList source targets = targetList source targets' := by
  induction h with
  | nil => rfl
  | cons h _ ih =>
    obtain ⟨hentry⟩ := h
    rw [targetList, targetList] at ih
    simp only [targetList, List.mapM_cons, ih, target_congr hentry]

/-- What is not read does not count. -/
theorem ofValue_congr {value' : Value} (h : Value.Alike SameEntries value value') :
    ofValue source value = ofValue source value' := by
  cases h with
  | refl => rfl
  | @mapping entries entries' h =>
    have hown := h.own
    simp only [Value.AgreeOn, List.forall_mem_cons] at hown
    obtain ⟨hname, hversion, hdisplay, hmaximum, -⟩ := hown
    rw [ofValue, ofValue, requiredText_congr hname, requiredText_congr hversion, hdisplay, hmaximum]
    refine bind_congr fun canonicalName => bind_congr fun version => ?_
    have hdefaultsRead := section?_corresponds (fun _ _ _ => rfl) h.defaults
    have htargetsRead := section?_corresponds SameTarget.forall₂_refl h.targets
    refine hdefaultsRead.bind_mapError fun _ _ hdefaults => ?_
    refine htargetsRead.bind_mapError fun _ _ htargets => ?_
    rw [hdefaults _ (List.mem_singleton_self _)]
    exact congrArg (· >>= _) (targetList_congr htargets)

/-- A settings document has settings if all conditions on it hold, and they say what it says. Else
the failure is that of the first condition that does not hold: a fault that names the document and,
if this is a mapping, the key at fault, or else that some architectures have no elements, or that the
key at fault cannot be written. Keys that are not read do not count. -/
theorem ofValue_decided_in_order (source : String) (value : Value) :
    ((∃ settings, ofValue source value = .ok settings) ↔ ∀ c ∈ conditions source value, c.holds) ∧
      (∀ settings, ofValue source value = .ok settings ↔ Describes value settings) ∧
      (∀ failure, ofValue source value = .error failure ↔
        Condition.FirstViolated (conditions source value) failure) ∧
      (∀ failure, ofValue source value = .error failure → failure = .archsNotIterable ∨
        failure = .oversizedInteger ∧ HasUnwritableTarget value ∨
        ∃ fault, failure = .settings source fault ∧
          failure.message? = some (source ++ ": " ++ fault.message) ∧
          ∀ entries, value = .mapping entries → ∃ key before after,
            fault.key? = some key ∧ fault.message = before ++ key ++ after) ∧
      ∀ value', Value.Alike SameEntries value value' →
        ofValue source value = ofValue source value' := by
  have hdecide := decide_ofValue source value
  refine ⟨hdecide.exists_eq_ok_iff, fun _ => ofValue_eq_ok_iff, fun _ => hdecide.eq_error_iff,
    fun failure hfailure => ?_, fun _ => ofValue_congr⟩
  rcases failure_of_firstViolated (hdecide.eq_error_iff.mp hfailure) with hkind | hkind | hkind
  · exact .inl hkind
  · exact .inr (.inl hkind)
  · obtain ⟨fault, rfl, hkey⟩ := hkind
    refine .inr (.inr ⟨fault, rfl, rfl, fun entries hentries => ?_⟩)
    obtain ⟨key, hkey⟩ := hkey entries hentries
    obtain ⟨before, after, hmessage⟩ := SettingsFault.exists_message_eq hkey
    exact ⟨key, before, after, hkey, hmessage⟩

/-- A document with two targets out of shape, each in its way. -/
def unsoundEntries : List (Value × Value) :=
  [(.text "CanonicalName", .text "macosx14"), (.text "Version", .text "14"),
    (.text "SupportedTargets", .mapping [
      (.text "macosx", .mapping [(.text "Archs", .int 64)]), (.text "iosmac", .null)])]

/-- The same with keys that are not read. -/
def annotatedEntries : List (Value × Value) :=
  [(.text "CanonicalName", .text "macosx14"), (.text "IsBaseSDK", .text "YES"),
    (.text "Version", .text "14"),
    (.text "SupportedTargets", .mapping [
      (.text "macosx", .mapping [(.text "LLVMTargetTriple", .null), (.text "Archs", .int 64)]),
      (.text "iosmac", .null)])]

theorem ofValue_decided_in_order_unsound :
    Condition.FirstViolated (conditions "SDKSettings.json" (.mapping unsoundEntries))
        .archsNotIterable ∧
      ofValue "SDKSettings.json" (.mapping unsoundEntries) =
        ofValue "SDKSettings.json" (.mapping annotatedEntries) := by
  obtain ⟨-, -, hfirst, -, hcongr⟩ :=
    ofValue_decided_in_order "SDKSettings.json" (.mapping unsoundEntries)
  refine ⟨(hfirst _).mp rfl, hcongr _ (.mapping ⟨.of_filter_eq rfl, .refl _, .mapping ?_⟩)⟩
  exact .cons (.intro (.mapping (.of_filter_eq rfl))) (SameTarget.forall₂_refl _)

/-- A target that is no mapping, under the least key that is too long to be written. -/
def unwritableEntries : List (Value × Value) :=
  [(.text "CanonicalName", .text "macosx14"), (.text "Version", .text "14"),
    (.text "SupportedTargets", .mapping [(.int ↑(10 ^ Text.digitLimit : Nat), .null)])]

/-- The first condition that does not hold is that the entry is a mapping, but the failure is neither a
fault of the document nor that of architectures without elements. -/
theorem ofValue_unwritable_ne_settings :
    HasUnwritableTarget (.mapping unwritableEntries) ∧
      ofValue "SDKSettings.plist" (.mapping unwritableEntries) = .error .oversizedInteger ∧
      (∀ fault, Failure.oversizedInteger ≠ .settings "SDKSettings.plist" fault) ∧
      Failure.oversizedInteger ≠ .archsNotIterable := by
  have hnot : ∀ es, Value.null ≠ .mapping es := nofun
  have hunwritable : (Value.int ↑(10 ^ Text.digitLimit : Nat)).isWritable = false := by
    rw [Bool.eq_false_iff, ne_eq, Value.isWritable_int_iff, Int.natAbs_natCast]
    exact Nat.lt_irrefl _
  have hparts : HasParts unwritableEntries "macosx14" "14" []
      ([] ++ (.int ↑(10 ^ Text.digitLimit : Nat), .null) :: []) :=
    ⟨rfl, rfl, .inr ⟨rfl, rfl⟩, .inl rfl⟩
  have hfault : ∀ fault, Failure.oversizedInteger ≠ .settings "SDKSettings.plist" fault := nofun
  refine ⟨.intro (List.mem_singleton_self _) hnot hunwritable, ?_, hfault, nofun⟩
  exact (ofValue_eq_error_iff_of_ne_settings hfault).mpr
    (.intro hparts nofun (.key hnot hunwritable))

end Settings

end SdkScout
