import SdkScout.Proofs.Listing
import SdkScout.Proofs.Sdk.Settings
import SdkScout.Proofs.Walk

/-!
# How reading an SDK directory fails

Reading an SDK with its settings announces three kinds of failure: the path is no SDK, its settings
are at fault, or the system refuses (`Failure.IsAnnounced`). All others come out of a settings file
that is there and can be read: the file is refused by its format in a way that is not just malformed,
the first target out of shape fails without a fault of the document (`Settings.Obstructs`), or the
platform name is something without a lower-case form (`Settings.Unannounced`). No other failure is
possible.
-/

namespace SdkScout

/-- The kinds of failure that reading an SDK directory is meant to have. -/
inductive Failure.IsAnnounced : Failure → Prop
  | notSdk (path : Path) : IsAnnounced (.notSdk path)
  | settings (source : String) (fault : SettingsFault) : IsAnnounced (.settings source fault)
  | system (error : SystemError) : IsAnnounced (.system error)

namespace Settings

inductive Format
  | json
  | plist
  deriving DecidableEq

namespace Format

def fileName : Format → Path.Component
  | json => jsonName
  | plist => plistName

def read (host : Host) (source : String) (bytes : List UInt8) : Format → Except Failure Settings
  | json => readJson host source bytes
  | plist => readPlist host source bytes

/-- The document that a file holds. -/
inductive Decodes (host : Host) (bytes : List UInt8) (value : Value) : Format → Prop
  | json {cs : List Char} : Text.Utf8.decode? bytes = some cs →
    Json.read host.jsonDepth cs = .ok value → Decodes host bytes value json
  | plist : Plist.read host bytes = .ok value → Decodes host bytes value plist

/-- A file is refused in a way of its own, and not as one that cannot be read. -/
inductive Refuses (host : Host) (bytes : List UInt8) : Failure → Format → Prop
  | oversizedInteger {cs : List Char} : Text.Utf8.decode? bytes = some cs →
    Json.read host.jsonDepth cs = .error .oversizedInteger →
    Refuses host bytes .oversizedInteger json
  | nestedTooDeep {cs : List Char} : Text.Utf8.decode? bytes = some cs →
    Json.read host.jsonDepth cs = .error .nestedTooDeep → Refuses host bytes .nestedTooDeep json
  | plist {fault : Plist.Fault} : Plist.read host bytes = .error fault → fault ≠ .malformed →
    Refuses host bytes (.plist fault) plist

variable {host : Host} {format : Format} {bytes : List UInt8}

/-- A file that decodes is read as its document. -/
theorem Decodes.read_eq {value : Value} (h : Decodes host bytes value format) (source : String) :
    format.read host source bytes = ofValue source value := by
  cases h with
  | json hdecode hread => simp [read, readJson, hdecode, hread]
  | plist hread => simp [read, readPlist, hread]

theorem Refuses.read_eq {failure : Failure} (h : Refuses host bytes failure format)
    (source : String) : format.read host source bytes = .error failure := by
  cases h with
  | oversizedInteger hdecode hread | nestedTooDeep hdecode hread =>
    simp [read, readJson, hdecode, hread]
  | plist hread hfault => simp [read, readPlist, hread]

/-- A file holds a document, or is refused, or cannot be read. -/
theorem read_cases (host : Host) (format : Format) (bytes : List UInt8) :
    (∃ value, Decodes host bytes value format) ∨ (∃ failure, Refuses host bytes failure format) ∨
      ∀ source, format.read host source bytes = .error (.settings source .unreadable) := by
  cases format with
  | json =>
    cases hdecode : Text.Utf8.decode? bytes with
    | none => exact .inr (.inr fun source => by simp [read, readJson, hdecode])
    | some cs =>
      cases hread : Json.read host.jsonDepth cs with
      | ok value => exact .inl ⟨value, .json hdecode hread⟩
      | error fault =>
        cases fault with
        | malformed => exact .inr (.inr fun source => by simp [read, readJson, hdecode, hread])
        | oversizedInteger => exact .inr (.inl ⟨_, .oversizedInteger hdecode hread⟩)
        | nestedTooDeep => exact .inr (.inl ⟨_, .nestedTooDeep hdecode hread⟩)
  | plist =>
    cases hread : Plist.read host bytes with
    | ok value => exact .inl ⟨value, .plist hread⟩
    | error fault =>
      by_cases hfault : fault = .malformed
      · exact .inr (.inr fun source => by simp [read, readPlist, hread, hfault])
      · exact .inr (.inl ⟨_, .plist hread hfault⟩)

end Format

/-- A directory has a settings file that can be read. A property list counts only where there is no
JSON document. -/
inductive HasFile (w : World) (directory : Path) (bytes : List UInt8) : Format → Prop
  | json : w.find true (directory.child jsonName).toString = .ok (.file (.ok bytes)) →
    HasFile w directory bytes .json
  | plist : w.isFile (directory.child jsonName) = .ok false →
    w.find true (directory.child plistName).toString = .ok (.file (.ok bytes)) →
    HasFile w directory bytes .plist

variable {w : World} {directory : Path} {format : Format} {bytes : List UInt8}

/-- The settings of a directory are those of its settings file. -/
theorem HasFile.ofDirectory_eq (h : HasFile w directory bytes format) :
    ofDirectory w directory =
      (format.read w.host (directory.child format.fileName).toString bytes).map some := by
  cases h with
  | json hfind =>
    rw [ofDirectory, World.isFile_eq_true_iff.mpr ⟨_, hfind⟩, World.read_eq_of_find hfind]
    rfl
  | plist hjson hfind =>
    rw [ofDirectory, hjson, World.isFile_eq_true_iff.mpr ⟨_, hfind⟩, World.read_eq_of_find hfind]
    rfl

/-- A directory without a settings file that can be read has none at all, or the system fails. -/
theorem ofDirectory_of_not_hasFile (h : ¬ ∃ bytes format, HasFile w directory bytes format) :
    ofDirectory w directory = .ok none ∨ ∃ e, ofDirectory w directory = .error (.system e) := by
  rw [ofDirectory]
  cases hjson : w.isFile (directory.child jsonName) with
  | error failure =>
    obtain ⟨code, rfl, -⟩ := World.exists_of_test_eq_error hjson
    exact .inr ⟨_, rfl⟩
  | ok isJson =>
    cases isJson with
    | true =>
      obtain ⟨content, hfind⟩ := World.isFile_eq_true_iff.mp hjson
      cases content with
      | ok bytes => exact absurd ⟨bytes, _, .json hfind⟩ h
      | error refusal => exact .inr ⟨_, by rw [World.read_eq_of_find hfind]; rfl⟩
    | false =>
      cases hplist : w.isFile (directory.child plistName) with
      | error failure =>
        obtain ⟨code, rfl, -⟩ := World.exists_of_test_eq_error hplist
        exact .inr ⟨_, rfl⟩
      | ok isPlist =>
        cases isPlist with
        | true =>
          obtain ⟨content, hfind⟩ := World.isFile_eq_true_iff.mp hplist
          cases content with
          | ok bytes => exact absurd ⟨bytes, _, .plist hjson hfind⟩ h
          | error refusal => exact .inr ⟨_, by rw [World.read_eq_of_find hfind]; rfl⟩
        | false => exact .inl rfl

/-- The failures of the settings that are neither faults of the document nor of the system. -/
theorem ofDirectory_eq_error_iff_of_ne {failure : Failure}
    (hsettings : ∀ source fault, failure ≠ .settings source fault)
    (hsystem : ∀ e, failure ≠ .system e) : ofDirectory w directory = .error failure ↔
      ∃ bytes format, HasFile w directory bytes format ∧
        (Format.Refuses w.host bytes failure format ∨
          ∃ value, Format.Decodes w.host bytes value format ∧ Obstructed value failure) := by
  constructor
  · intro hdirectory
    by_cases hfile : ∃ bytes format, HasFile w directory bytes format
    · obtain ⟨bytes, format, hfile⟩ := hfile
      rw [hfile.ofDirectory_eq, Except.map_eq_error_iff] at hdirectory
      refine ⟨bytes, format, hfile, ?_⟩
      rcases format.read_cases w.host bytes with ⟨value, hvalue⟩ | ⟨refusal, hrefuses⟩ | hunreadable
      · rw [hvalue.read_eq, ofValue_eq_error_iff_of_ne_settings (hsettings _)] at hdirectory
        exact .inr ⟨value, hvalue, hdirectory⟩
      · rw [hrefuses.read_eq] at hdirectory
        cases hdirectory
        exact .inl hrefuses
      · rw [hunreadable] at hdirectory
        cases hdirectory
        exact absurd rfl (hsettings _ _)
    · rcases ofDirectory_of_not_hasFile hfile with hnone | ⟨e, he⟩
      · cases hnone.symm.trans hdirectory
      · cases he.symm.trans hdirectory
        exact absurd rfl (hsystem e)
  · rintro ⟨bytes, format, hfile, hrefuses | ⟨value, hvalue, hobstructed⟩⟩ <;>
      rw [hfile.ofDirectory_eq, Except.map_eq_error_iff]
    · exact hrefuses.read_eq _
    · rw [hvalue.read_eq]
      exact (ofValue_eq_error_iff_of_ne_settings (hsettings _)).mpr hobstructed

theorem ofDirectory_eq_error_iff_of_not_isAnnounced {failure : Failure}
    (h : ¬ failure.IsAnnounced) : ofDirectory w directory = .error failure ↔
      ∃ bytes format, HasFile w directory bytes format ∧
        (Format.Refuses w.host bytes failure format ∨
          ∃ value, Format.Decodes w.host bytes value format ∧ Obstructed value failure) := by
  refine ofDirectory_eq_error_iff_of_ne ?_ ?_
  · rintro source fault rfl
    exact h (.settings source fault)
  · rintro e rfl
    exact h (.system e)

/-- Settings never tell that a path is no SDK; that is for the caller. -/
theorem ofDirectory_ne_notSdk {path : Path} : ofDirectory w directory ≠ .error (.notSdk path) := by
  rw [ne_eq, ofDirectory_eq_error_iff_of_ne (by simp) (by simp)]
  rintro ⟨_, _, -, hrefuses | ⟨_, -, _, -, hobstructs⟩⟩
  · cases hrefuses
  · cases hobstructs

/-- A platform name counts as nothing, or has a lower-case form. -/
def MayNamePlatform (name : Value) : Prop :=
  name.isFalsy = true ∨ (∃ s, name = .text s) ∨ ∃ b, name = .bytes b

end Settings

namespace Sdk

variable {w : World} {path : Path} {failure : Failure}

/-- A platform cannot be settled if its name has no lower-case form. -/
theorem settledPlatform_eq_error_iff {platform : Platform} {name : Value} :
    settledPlatform platform name = .error failure ↔
      failure = .platformNameNotText ∧ ¬ Settings.MayNamePlatform name := by
  rw [settledPlatform.eq_def, Settings.MayNamePlatform]
  by_cases hfalsy : name.isFalsy = true
  · simp [hfalsy]
  · cases name with
    | text s => cases h : KnownPlatform.ofFolded? s <;> simp [h, hfalsy]
    | _ => simp [hfalsy, eq_comm]

/-- An unannounced failure comes out of the settings, or of the platform that they name. -/
theorem ofDirectory_parsed_eq_error_iff {sdkPath : SdkPath}
    (hpath : SdkPath.ofPath? path = some sdkPath) (h : ¬ failure.IsAnnounced) :
    ofDirectory w path .parsed = .error failure ↔ Settings.ofDirectory w path = .error failure ∨
      ∃ settings, Settings.ofDirectory w path = .ok (some settings) ∧
        settledPlatform sdkPath.platform settings.platformName = .error failure := by
  have hnot : failure ≠ .notSdk path := fun heq => h (heq ▸ .notSdk path)
  have hlink : w.isSymlink path ≠ .error failure := by
    intro hlink
    obtain ⟨code, rfl, -⟩ := World.exists_of_test_eq_error hlink
    exact h (.system _)
  rw [ofDirectory, pathOf, hpath, Except.ok_bind, Except.bind_eq_error_iff]
  refine or_congr_right ⟨?_, ?_⟩
  · rintro ⟨_ | settings, hsettings, hfailure⟩
    · cases hfailure
      exact absurd rfl hnot
    · rcases Except.bind_eq_error_iff.mp hfailure with hplatform | ⟨platform, -, hrest⟩
      · exact ⟨settings, hsettings, hplatform⟩
      · rcases Except.bind_eq_error_iff.mp hrest with hfails | ⟨_, -, hfails⟩
        · exact absurd hfails hlink
        · cases hfails
  · rintro ⟨settings, hsettings, hplatform⟩
    exact ⟨some settings, hsettings, Except.bind_eq_error_iff.mpr (.inl hplatform)⟩

end Sdk

end SdkScout
