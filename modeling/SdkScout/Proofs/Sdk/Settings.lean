import SdkScout.Proofs.Outcome
import SdkScout.Proofs.Value.Written
import SdkScout.Sdk.Settings

/-!
# What a settings document has to hold

A settings document is read in two parts. Its own keys come first: `Settings.HasParts` says that each
of them has a value of the right kind, and otherwise the document has a fault
(`Settings.hasParts_or_fault`). Then come its targets in order, and the first that is out of shape
decides the failure: an entry that is no mapping is a fault of the document, which names the key of
the entry (`Settings.target_eq_error_iff`). Two failures are no faults: architectures may have no
elements, and the key may be an integer that is too long to be written (`Settings.Obstructs`). If
there is no failure, the settings say what the document says (`Settings.ofValue_eq_ok_iff`).
-/

namespace SdkScout.Settings

/-- A section is a mapping, or a value that counts as nothing in place of an empty one. -/
def IsSection (value : Value) (entries : List (Value × Value)) : Prop :=
  value = .mapping entries ∨ value.isFalsy = true ∧ entries = []

/-- Architectures are something that has elements, or a value that counts as nothing. -/
def IsArchs (value : Value) : Prop :=
  value.isFalsy = true ∨ value.elements?.isSome = true

/-- The entry of a target. -/
inductive IsTarget : Value → Prop
  | mapping : IsArchs (Value.field entries "Archs") → IsTarget (.mapping entries)

/-- The entry of a target but for its architectures, which have no elements. -/
inductive LacksArchs : Value → Prop
  | mapping : ¬ IsArchs (Value.field entries "Archs") → LacksArchs (.mapping entries)

/-- The keys of a document that have to be of a kind, with what they hold. -/
structure HasParts (entries : List (Value × Value)) (canonicalName version : String)
    (defaults targets : List (Value × Value)) : Prop where
  canonicalName : Value.field entries "CanonicalName" = .text canonicalName
  version : Value.field entries "Version" = .text version
  defaults : IsSection (Value.field entries "DefaultProperties") defaults
  targets : IsSection (Value.field entries "SupportedTargets") targets

/-- The failure for the entry of a target that is no mapping: a fault that names the key, if the key
can be written. -/
def notMappingFailure (source : String) (name : Value) : Failure :=
  match name.written with
  | .ok shown => .settings source (.targetNotMapping shown)
  | .error failure => failure

/-- A target fails, but not with a fault of its document. -/
inductive Obstructs : Value × Value → Failure → Prop
  | archs {name entry : Value} : LacksArchs entry → Obstructs (name, entry) .archsNotIterable
  | key {name entry : Value} : (∀ es, entry ≠ .mapping es) → name.isWritable = false →
    Obstructs (name, entry) .oversizedInteger

/-- The first target out of shape fails, but not with a fault of its document. -/
inductive Obstructed : Value → Failure → Prop
  | intro {entries defaults before after : List (Value × Value)} {canonicalName version : String}
      {e : Value × Value} {failure : Failure} :
    HasParts entries canonicalName version defaults (before ++ e :: after) →
    (∀ b ∈ before, IsTarget b.2) → Obstructs e failure → Obstructed (.mapping entries) failure

/-- The elements that a value has as architectures. -/
def HasArchs (value : Value) (elements : List Value) : Prop :=
  value.isFalsy = true ∧ elements = [] ∨
    value.isFalsy = false ∧ value.elements? = some elements

/-- A target says what its key and its entry say. -/
inductive DescribesTarget : Value × Value → Value × Target → Prop
  | intro {name : Value} {es : List (Value × Value)} {archs : List Value} :
    HasArchs (Value.field es "Archs") archs →
    DescribesTarget (name, .mapping es) (name, {
      name
      archs
      defaultDeployment := Value.field es "DefaultDeploymentTarget"
      minimumDeployment := Value.field es "MinimumDeploymentTarget"
      maximumDeployment := Value.field es "MaximumDeploymentTarget" })

/-- Settings say what their document says. -/
inductive Describes : Value → Settings → Prop
  | intro {entries defaults targets : List (Value × Value)} {canonicalName version : String}
      {ts : List (Value × Target)} :
    HasParts entries canonicalName version defaults targets →
    List.Forall₂ DescribesTarget targets ts →
    Describes (.mapping entries) {
      canonicalName
      version := ⟨version⟩
      displayName := Value.field entries "DisplayName"
      maximumDeployment := Value.field entries "MaximumDeploymentTarget"
      platformName := Value.field defaults "PLATFORM_NAME"
      targets := ts }

variable {entries : List (Value × Value)} {key : String}

theorem requiredText_eq_ok_iff {s : String} :
    requiredText entries key = .ok s ↔ Value.field entries key = .text s := by
  rw [requiredText]
  cases Value.field entries key <;> simp

/-- A section that counts as nothing is read as an empty one. -/
theorem section?_eq_ok_iff {es : List (Value × Value)} : section? entries key = .ok es ↔
    IsSection (Value.field entries key) es := by
  rw [section?, IsSection]
  cases Value.field entries key with
  | mapping fs =>
    have hempty : fs = [] → es = [] → fs = es := fun h h' => h.trans h'.symm
    simpa [Value.isFalsy] using hempty
  | _ =>
    simp only [reduceCtorEq, false_or]
    split <;> simp_all

/-- Architectures can only fail to have elements. -/
theorem archs_eq_error_iff {failure : Failure} :
    archs entries = .error failure ↔
      failure = .archsNotIterable ∧ ¬ IsArchs (Value.field entries "Archs") := by
  rw [archs, IsArchs]
  by_cases hfalsy : (Value.field entries "Archs").isFalsy = true
  · simp [hfalsy]
  · cases helements : (Value.field entries "Archs").elements? <;>
      simp [hfalsy, eq_comm]

theorem archs_eq_ok_iff {elements : List Value} :
    archs entries = .ok elements ↔ HasArchs (Value.field entries "Archs") elements := by
  rw [archs, HasArchs]
  cases hfalsy : (Value.field entries "Archs").isFalsy with
  | true => simp [eq_comm]
  | false => cases (Value.field entries "Archs").elements? <;> simp

theorem notMappingFailure_of_isWritable (source : String) {name : Value}
    (h : name.isWritable = true) :
    notMappingFailure source name = .settings source (.targetNotMapping name.display) := by
  rw [notMappingFailure, Value.written_eq_ok_iff.mpr ⟨h, rfl⟩]

theorem notMappingFailure_of_not_isWritable (source : String) {name : Value}
    (h : name.isWritable = false) : notMappingFailure source name = .oversizedInteger := by
  rw [notMappingFailure, Value.written_eq_error_iff.mpr ⟨h, rfl⟩]

theorem target_of_not_mapping (source : String) (name : Value) {entry : Value}
    (h : ∀ es, entry ≠ .mapping es) :
    target source name entry = .error (notMappingFailure source name) := by
  have hwritten : (do throw (.settings source (.targetNotMapping (← name.written)))) =
      (.error (notMappingFailure source name) : Except Failure Target) := by
    rw [notMappingFailure]
    cases name.written <;> rfl
  cases entry with
  | mapping es => exact absurd rfl (h es)
  | _ => exact hwritten

/-- A target fails if it is a mapping without architectures, or is no mapping. -/
theorem target_eq_error_iff {source : String} {name entry : Value} {failure : Failure} :
    target source name entry = .error failure ↔
      LacksArchs entry ∧ failure = .archsNotIterable ∨
        (∀ es, entry ≠ .mapping es) ∧ failure = notMappingFailure source name := by
  by_cases hmapping : ∃ es, entry = .mapping es
  · obtain ⟨es, rfl⟩ := hmapping
    have hlacks : LacksArchs (.mapping es) ↔ ¬ IsArchs (Value.field es "Archs") :=
      ⟨fun ⟨h⟩ => h, .mapping⟩
    simp [target, Except.bind_eq_error_iff, archs_eq_error_iff, hlacks, and_comm]
  · have hnot : ∀ es, entry ≠ .mapping es := fun es hes => hmapping ⟨es, hes⟩
    have hlacks : ¬ LacksArchs entry := fun ⟨_⟩ => hnot _ rfl
    simp [target_of_not_mapping source name hnot, hlacks, hnot, eq_comm]

/-- The failures of a target that are no faults of its document. -/
theorem target_eq_error_iff_of_ne_settings {source : String} {e : Value × Value} {failure : Failure}
    (h : ∀ fault, failure ≠ .settings source fault) :
    target source e.1 e.2 = .error failure ↔ Obstructs e failure := by
  obtain ⟨name, entry⟩ := e
  rw [target_eq_error_iff]
  constructor
  · rintro (⟨hlacks, rfl⟩ | ⟨hnot, rfl⟩)
    · exact .archs hlacks
    · cases hwritable : name.isWritable with
      | true => exact absurd (notMappingFailure_of_isWritable source hwritable) (h _)
      | false =>
        rw [notMappingFailure_of_not_isWritable source hwritable]
        exact .key hnot hwritable
  · rintro (hlacks | ⟨hnot, hwritable⟩)
    · exact .inl ⟨hlacks, rfl⟩
    · exact .inr ⟨hnot, (notMappingFailure_of_not_isWritable source hwritable).symm⟩

/-- Whether a target is in shape depends on its entry alone, not on its key. -/
theorem target_eq_ok_iff_isTarget (source : String) (name entry : Value) :
    (∃ t, target source name entry = .ok t) ↔ IsTarget entry := by
  cases entry with
  | mapping es =>
    have htarget : IsTarget (.mapping es) ↔ IsArchs (Value.field es "Archs") :=
      ⟨fun ⟨h⟩ => h, .mapping⟩
    rw [htarget, target]
    cases harchs : archs es with
    | ok a =>
      have hnot : ¬ ∃ failure, archs es = .error failure := by simp [harchs]
      simp only [archs_eq_error_iff, exists_eq_left, not_not] at hnot
      simpa using hnot
    | error failure =>
      simpa using (archs_eq_error_iff.mp harchs).2
  | _ =>
    rw [target_of_not_mapping source name (by simp)]
    simp only [reduceCtorEq, exists_false, false_iff]
    rintro ⟨_⟩

/-- The targets of a document, as they are read. -/
def targetList (source : String) (targets : List (Value × Value)) :
    Except Failure (List (Value × Target)) :=
  targets.mapM fun (name, entry) => return (name, ← target source name entry)

/-- Once the keys of the document itself are in order, its targets decide. -/
theorem ofValue_of_hasParts {canonicalName version : String}
    {defaults targets : List (Value × Value)} (source : String)
    (h : HasParts entries canonicalName version defaults targets) :
    ofValue source (.mapping entries) = (targetList source targets).map fun targets =>
      { canonicalName
        version := ⟨version⟩
        displayName := Value.field entries "DisplayName"
        maximumDeployment := Value.field entries "MaximumDeploymentTarget"
        platformName := Value.field defaults "PLATFORM_NAME"
        targets } := by
  have hdefaults := section?_eq_ok_iff.mpr h.defaults
  have htargets := section?_eq_ok_iff.mpr h.targets
  rw [ofValue, requiredText_eq_ok_iff.mpr h.canonicalName, requiredText_eq_ok_iff.mpr h.version,
    hdefaults, htargets]
  simp only [Except.mapError, Except.ok_bind]
  rfl

/-- What is wrong with the keys of the document itself is always a fault of it. -/
theorem hasParts_or_fault (source : String) (value : Value) :
    (∃ entries canonicalName version defaults targets, value = .mapping entries ∧
        HasParts entries canonicalName version defaults targets) ∨
      ∃ fault, ofValue source value = .error (.settings source fault) := by
  cases value with
  | mapping entries =>
    rw [ofValue]
    cases hname : requiredText entries "CanonicalName" with
    | error fault => exact .inr ⟨fault, rfl⟩
    | ok canonicalName =>
      cases hversion : requiredText entries "Version" with
      | error fault => exact .inr ⟨fault, rfl⟩
      | ok version =>
        cases hdefaults : section? entries "DefaultProperties" with
        | error fault => exact .inr ⟨fault, rfl⟩
        | ok defaults =>
          cases htargets : section? entries "SupportedTargets" with
          | error fault => exact .inr ⟨fault, rfl⟩
          | ok targets =>
            refine .inl ⟨entries, canonicalName, version, defaults, targets, rfl, ?_⟩
            exact {
              canonicalName := requiredText_eq_ok_iff.mp hname
              version := requiredText_eq_ok_iff.mp hversion
              defaults := section?_eq_ok_iff.mp hdefaults
              targets := section?_eq_ok_iff.mp htargets }
  | _ => exact .inr ⟨.notMapping, rfl⟩

variable {source : String} {targets : List (Value × Value)}

theorem named_target_eq_ok_iff_isTarget {e : Value × Value} :
    (∃ t, (target source e.1 e.2 >>= fun t => .ok (e.1, t)) = .ok t) ↔ IsTarget e.2 := by
  rw [← target_eq_ok_iff_isTarget source e.1]
  cases target source e.1 e.2 <;> simp

theorem named_target_eq_error_iff {e : Value × Value} {failure : Failure} :
    (target source e.1 e.2 >>= fun t => .ok (e.1, t)) = .error failure ↔
      target source e.1 e.2 = .error failure := by
  cases target source e.1 e.2 <;> simp

/-- The first target out of shape decides the failure. -/
theorem targetList_eq_error_iff {failure : Failure} : targetList source targets = .error failure ↔
    ∃ before e after, targets = before ++ e :: after ∧ (∀ b ∈ before, IsTarget b.2) ∧
      target source e.1 e.2 = .error failure := by
  simp only [targetList, Except.mapM_eq_error_iff, Except.pure_eq_ok,
    named_target_eq_ok_iff_isTarget, named_target_eq_error_iff]

theorem named_target_eq_ok_iff_describesTarget {e : Value × Value} {t : Value × Target} :
    (target source e.1 e.2 >>= fun t => .ok (e.1, t)) = .ok t ↔ DescribesTarget e t := by
  obtain ⟨name, entry⟩ := e
  constructor
  · intro h
    obtain ⟨t, htarget, ht⟩ := Except.bind_eq_ok_iff.mp h
    cases ht
    cases entry with
    | mapping es =>
      obtain ⟨elements, harchs, ht⟩ := Except.bind_eq_ok_iff.mp htarget
      cases ht
      exact .intro (archs_eq_ok_iff.mp harchs)
    | _ =>
      rw [target_of_not_mapping source name (by simp)] at htarget
      cases htarget
  · rintro ⟨harchs⟩
    simp [target, archs_eq_ok_iff.mpr harchs]

/-- Each target says what its own key and entry say, in the order of the document. -/
theorem targetList_eq_ok_iff {ts : List (Value × Target)} :
    targetList source targets = .ok ts ↔ List.Forall₂ DescribesTarget targets ts := by
  simp only [targetList, Except.mapM_eq_ok_iff, Except.pure_eq_ok,
    named_target_eq_ok_iff_describesTarget]

/-- Settings are read exactly from the documents that describe them. -/
theorem ofValue_eq_ok_iff {value : Value} {settings : Settings} :
    ofValue source value = .ok settings ↔ Describes value settings := by
  constructor
  · intro h
    rcases hasParts_or_fault source value with hparts | ⟨fault, hfault⟩
    · obtain ⟨entries, canonicalName, version, defaults, targets, rfl, hparts⟩ := hparts
      rw [ofValue_of_hasParts source hparts] at h
      obtain ⟨ts, hts, rfl⟩ := Except.map_eq_ok_iff.mp h
      exact .intro hparts (targetList_eq_ok_iff.mp hts)
    · cases hfault.symm.trans h
  · rintro ⟨hparts, htargets⟩
    rw [ofValue_of_hasParts source hparts, targetList_eq_ok_iff.mpr htargets, Except.map_ok_eq]

/-- The failures of a document that are not faults of it. -/
theorem ofValue_eq_error_iff_of_ne_settings {value : Value} {failure : Failure}
    (h : ∀ fault, failure ≠ .settings source fault) :
    ofValue source value = .error failure ↔ Obstructed value failure := by
  constructor
  · intro hvalue
    rcases hasParts_or_fault source value with hparts | ⟨fault, hfault⟩
    · obtain ⟨entries, canonicalName, version, defaults, targets, rfl, hparts⟩ := hparts
      rw [ofValue_of_hasParts source hparts, Except.map_eq_error_iff] at hvalue
      obtain ⟨before, e, after, rfl, hbefore, htarget⟩ := targetList_eq_error_iff.mp hvalue
      exact .intro hparts hbefore ((target_eq_error_iff_of_ne_settings h).mp htarget)
    · cases hfault.symm.trans hvalue
      exact absurd rfl (h fault)
  · rintro ⟨hparts, hbefore, hobstructs⟩
    rw [ofValue_of_hasParts source hparts, Except.map_eq_error_iff]
    refine targetList_eq_error_iff.mpr ⟨_, _, _, rfl, hbefore, ?_⟩
    exact (target_eq_error_iff_of_ne_settings h).mpr hobstructs

end SdkScout.Settings
