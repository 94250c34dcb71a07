import SdkScout.Proofs.Sdk.Refinement
import SdkScout.Proofs.SdkPath

/-!
# What an SDK with settings depends on

Reading an SDK with its settings looks at little of the world: at the JSON document in the
directory, at the property list only where there is no JSON document, and at whether the directory is
a link itself (`Sdk.ReadsAlike`). Where these are the same, the outcome is the same
(`Sdk.ofDirectory_of_readsAlike`). In particular a JSON document that is there, readable or not, is
what decides: the SDK is not passed over, and the property list counts for nothing.
-/

namespace SdkScout

/-- Two worlds have the same file at a path, links followed, or none in both for the same reason. A file
that cannot be read is refused in both in the same way. -/
structure World.SameFile (w w' : World) (path : Path) : Prop where
  isFile : w.isFile path = w'.isFile path
  read : w.isFile path = .ok true → w.read path.toString = w'.read path.toString

namespace Settings

/-- Two worlds have the same settings file in a directory, and decode it in the same surroundings. -/
structure ReadsAlike (w w' : World) (directory : Path) : Prop where
  host : w.host = w'.host
  json : w.SameFile w' (directory.child jsonName)
  plist : w.isFile (directory.child jsonName) = .ok false →
    w.SameFile w' (directory.child plistName)

variable {w w' : World} {directory : Path} {bytes : List UInt8}

theorem ofDirectory_congr (h : ReadsAlike w w' directory) :
    ofDirectory w directory = ofDirectory w' directory := by
  rw [ofDirectory, ofDirectory, ← h.json.isFile]
  cases hjson : w.isFile (directory.child jsonName) with
  | error failure => simp only [Except.error_bind]
  | ok isJson =>
    cases isJson with
    | true => simp only [Except.ok_bind, if_true, h.json.read hjson, h.host]
    | false =>
      have hplist := h.plist hjson
      simp only [Except.ok_bind, Bool.false_eq_true, if_false, ← hplist.isFile]
      cases hfile : w.isFile (directory.child plistName) with
      | error failure => simp only [Except.error_bind]
      | ok isPlist =>
        cases isPlist with
        | true => simp only [Except.ok_bind, if_true, hplist.read hfile, h.host]
        | false => simp only [Except.ok_bind, Bool.false_eq_true, if_false]

/-- The same JSON document makes all else in the directory irrelevant. -/
theorem HasFile.readsAlike (h : HasFile w directory bytes .json)
    (h' : HasFile w' directory bytes .json) (hhost : w.host = w'.host) :
    ReadsAlike w w' directory := by
  obtain ⟨hfind⟩ := h
  obtain ⟨hfind'⟩ := h'
  have htrue := World.isFile_eq_true_iff.mpr ⟨_, hfind⟩
  have htrue' := World.isFile_eq_true_iff.mpr ⟨_, hfind'⟩
  refine ⟨hhost, ⟨htrue.trans htrue'.symm, fun _ => ?_⟩, fun hfalse => ?_⟩
  · rw [World.read_eq_of_find hfind, World.read_eq_of_find hfind']
  · cases htrue.symm.trans hfalse

end Settings

namespace Sdk

/-- Two worlds have the same settings file in a directory, and the directory is a link itself in
both or in neither. -/
structure ReadsAlike (w w' : World) (path : Path) : Prop where
  settings : Settings.ReadsAlike w w' path
  isSymlink : w.isSymlink path = .ok true ↔ w'.isSymlink path = .ok true

variable {w w' : World} {path : Path} {sdkPath : SdkPath} {bytes : List UInt8}
  {format : Settings.Format}

/-- Where settings are found, the path can be tested for being a link. -/
theorem ReadsAlike.isSymlink_eq (h : ReadsAlike w w' path) {settings : Settings}
    (hpath : SdkPath.ofPath? path = some sdkPath)
    (hsettings : Settings.ofDirectory w path = .ok (some settings)) :
    w.isSymlink path = w'.isSymlink path := by
  have hname : path.name ≠ "" := by
    obtain ⟨stem, hname⟩ := SdkPath.exists_ofPath?_iff.mp ⟨sdkPath, hpath⟩
    simp [hname]
  obtain ⟨parent, c, rfl⟩ := Path.exists_eq_child hname
  obtain ⟨⟨_, hjson⟩, -⟩ := Settings.holdsSettings_of_ofDirectory hsettings
  obtain ⟨link, hlink⟩ := exists_isSymlink hjson
  obtain ⟨link', hlink'⟩ := exists_isSymlink (h.settings.json.isFile ▸ hjson)
  have hsame : link = true ↔ link' = true := by simpa [hlink, hlink'] using h.isSymlink
  rw [hlink, hlink', Bool.eq_iff_iff.mpr hsame]

theorem ofDirectory_congr (h : ReadsAlike w w' path) :
    ofDirectory w path .parsed = ofDirectory w' path .parsed := by
  cases hpath : SdkPath.ofPath? path with
  | none => rw [ofDirectory_eq_notSdk hpath, ofDirectory_eq_notSdk hpath]
  | some sdkPath =>
    have hsettings := Settings.ofDirectory_congr h.settings
    cases hfound : Settings.ofDirectory w path with
    | error failure =>
      rw [ofDirectory_parsed_of_error hpath hfound,
        ofDirectory_parsed_of_error hpath (hsettings ▸ hfound)]
    | ok found =>
      cases found with
      | none =>
        rw [ofDirectory_parsed_of_none hpath hfound,
          ofDirectory_parsed_of_none hpath (hsettings ▸ hfound)]
      | some settings =>
        rw [ofDirectory_parsed_of_some hpath hfound,
          ofDirectory_parsed_of_some hpath (hsettings ▸ hfound), h.isSymlink_eq hpath hfound]

/-- Three steps lead from a settings file to an SDK: its settings, its platform, and the link. -/
theorem ofDirectory_of_hasFile (hpath : SdkPath.ofPath? path = some sdkPath)
    (hfile : Settings.HasFile w path bytes format) : ofDirectory w path .parsed = (do
      let settings ← format.read w.host (path.child format.fileName).toString bytes
      let platform ← settledPlatform sdkPath.platform settings.platformName
      (w.isSymlink path).map fun isSymlink =>
        { path, isSymlink, platform, detail := .parsed settings }) := by
  have hfound := hfile.ofDirectory_eq
  cases hread : format.read w.host (path.child format.fileName).toString bytes with
  | error failure =>
    rw [hread] at hfound
    rw [ofDirectory_parsed_of_error hpath hfound, Except.error_bind]
  | ok settings =>
    rw [hread] at hfound
    rw [ofDirectory_parsed_of_some hpath hfound, Except.ok_bind]

/-- An SDK that has a settings file is not passed over. -/
theorem ofDirectory_ne_notSdk (hpath : SdkPath.ofPath? path = some sdkPath)
    (hfile : Settings.HasFile w path bytes format) (p : Path) :
    ofDirectory w path .parsed ≠ .error (.notSdk p) := by
  rw [ofDirectory_of_hasFile hpath hfile]
  intro h
  rcases Except.bind_eq_error_iff.mp h with hread | ⟨settings, -, h⟩
  · have hne : Settings.ofDirectory w path ≠ .error (.notSdk p) := Settings.ofDirectory_ne_notSdk
    exact hne (by rw [hfile.ofDirectory_eq, hread, Except.map_error_eq])
  · rcases Except.bind_eq_error_iff.mp h with hplatform | ⟨platform, -, hlink⟩
    · cases (settledPlatform_eq_error_iff.mp hplatform).1
    · obtain ⟨_, hfailure, -⟩ :=
        World.exists_of_test_eq_error (Except.map_eq_error_iff.mp hlink)
      cases hfailure

/-- What is found is what the document says. -/
theorem ofDirectory_detail (hpath : SdkPath.ofPath? path = some sdkPath)
    (hfile : Settings.HasFile w path bytes format) {sdk : Sdk}
    (h : ofDirectory w path .parsed = .ok sdk) :
    ∃ settings, format.read w.host (path.child format.fileName).toString bytes = .ok settings ∧
      sdk.detail = .parsed settings := by
  rw [ofDirectory_of_hasFile hpath hfile] at h
  obtain ⟨settings, hread, h⟩ := Except.bind_eq_ok_iff.mp h
  obtain ⟨platform, -, h⟩ := Except.bind_eq_ok_iff.mp h
  obtain ⟨_, -, rfl⟩ := Except.map_eq_ok_iff.mp h
  exact ⟨settings, hread, rfl⟩

/-- A file that does not decode makes a failure, and is not taken for a missing one. -/
theorem ofDirectory_of_not_decodes (hpath : SdkPath.ofPath? path = some sdkPath)
    (hfile : Settings.HasFile w path bytes format)
    (h : ¬ ∃ value, Settings.Format.Decodes w.host bytes value format) :
    ∃ failure, format.read w.host (path.child format.fileName).toString bytes = .error failure ∧
      ofDirectory w path .parsed = .error failure := by
  rw [ofDirectory_of_hasFile hpath hfile]
  rcases format.read_cases w.host bytes with hvalue | ⟨failure, hrefuses⟩ | hunreadable
  · exact absurd hvalue h
  · exact ⟨failure, hrefuses.read_eq _, by rw [hrefuses.read_eq, Except.error_bind]⟩
  · exact ⟨_, hunreadable _, by rw [hunreadable, Except.error_bind]⟩

/-- A JSON document that cannot be read is not passed over either. -/
theorem ofDirectory_of_refused {refusal : Refusal} (hpath : SdkPath.ofPath? path = some sdkPath)
    (hfind : w.find true (path.child Settings.jsonName).toString = .ok (.file (.error refusal))) :
    ofDirectory w path .parsed =
      .error (.system ⟨refusal.code, (path.child Settings.jsonName).toString⟩) := by
  refine ofDirectory_parsed_of_error hpath ?_
  rw [Settings.ofDirectory, World.isFile_eq_true_iff.mpr ⟨_, hfind⟩, World.read_eq_of_find hfind]
  rfl

theorem ofDirectory_of_no_file (hjson : w.isFile (path.child Settings.jsonName) = .ok false)
    (hplist : w.isFile (path.child Settings.plistName) = .ok false) :
    ofDirectory w path .parsed = .error (.notSdk path) := by
  cases hpath : SdkPath.ofPath? path with
  | none => exact ofDirectory_eq_notSdk hpath
  | some sdkPath =>
    refine ofDirectory_parsed_of_none hpath ?_
    simp only [Settings.ofDirectory, hjson, hplist, Except.ok_bind, Bool.false_eq_true, if_false,
      Except.pure_eq_ok]

/-- Where the settings file is the same and the directory is a link itself in both worlds or in
neither, reading the SDK has the same outcome. A directory without the name of an SDK is none
whatever it holds. A JSON document hides the property list: it decides the outcome together with the
link, the directory is not passed over, what is found is what the document says, and a document that
does not decode, or cannot be read, makes a failure. A directory with neither file is no SDK. -/
theorem ofDirectory_of_readsAlike (path : Path) :
    (∀ w w' : World, ReadsAlike w w' path →
        ofDirectory w path .parsed = ofDirectory w' path .parsed) ∧
      ((¬ ∃ stem, path.name = stem ++ ".sdk") → ∀ w : World,
        ofDirectory w path .parsed = .error (.notSdk path)) ∧
      ((∃ stem, path.name = stem ++ ".sdk") → ∀ (w : World) (bytes : List UInt8),
        Settings.HasFile w path bytes .json →
          (∀ w' : World, Settings.HasFile w' path bytes .json → w.host = w'.host →
            (w.isSymlink path = .ok true ↔ w'.isSymlink path = .ok true) →
              ofDirectory w path .parsed = ofDirectory w' path .parsed) ∧
          (∀ p, ofDirectory w path .parsed ≠ .error (.notSdk p)) ∧
          (∀ sdk, ofDirectory w path .parsed = .ok sdk → ∃ settings,
            Settings.readJson w.host (path.child Settings.jsonName).toString bytes =
              .ok settings ∧
              sdk.detail = .parsed settings) ∧
          ((¬ ∃ value, Settings.Format.Decodes w.host bytes value .json) → ∃ failure,
            Settings.readJson w.host (path.child Settings.jsonName).toString bytes =
              .error failure ∧
              ofDirectory w path .parsed = .error failure)) ∧
      ((∃ stem, path.name = stem ++ ".sdk") → ∀ (w : World) (refusal : Refusal),
        w.find true (path.child Settings.jsonName).toString = .ok (.file (.error refusal)) →
          ofDirectory w path .parsed =
            .error (.system ⟨refusal.code, (path.child Settings.jsonName).toString⟩)) ∧
      ∀ w : World, w.isFile (path.child Settings.jsonName) = .ok false →
        w.isFile (path.child Settings.plistName) = .ok false →
          ofDirectory w path .parsed = .error (.notSdk path) := by
  refine ⟨fun _ _ => ofDirectory_congr, fun hname w => ?_, fun hname w bytes hfile => ?_,
    fun hname _ _ hfind => ?_, fun _ => ofDirectory_of_no_file⟩
  · refine ofDirectory_eq_notSdk (Option.eq_none_iff_forall_ne_some.mpr fun sdkPath hpath => ?_)
    exact hname (SdkPath.exists_ofPath?_iff.mp ⟨sdkPath, hpath⟩)
  · obtain ⟨sdkPath, hpath⟩ := SdkPath.exists_ofPath?_iff.mpr hname
    exact ⟨fun w' hfile' hhost hlink => ofDirectory_congr ⟨hfile.readsAlike hfile' hhost, hlink⟩,
      ofDirectory_ne_notSdk hpath hfile, fun _ => ofDirectory_detail hpath hfile,
      ofDirectory_of_not_decodes hpath hfile⟩
  · obtain ⟨sdkPath, hpath⟩ := SdkPath.exists_ofPath?_iff.mpr hname
    exact ofDirectory_of_refused hpath hfind

/-- A JSON document that breaks off, and what else is in the SDK. -/
def brokenWorld (others : List (Path.Component × Node)) : World :=
  .ofTree [(⟨"WatchOS.sdk", by decide⟩,
    .directory {} ((Settings.jsonName, .file (.ok (Text.Utf8.encode "\x7b".toList))) :: others))]

/-- A property list in order. -/
def hiddenPlist : Path.Component × Node :=
  (Settings.plistName, .file (.ok (Text.Utf8.encode ("<plist><dict><key>CanonicalName</key>" ++
    "<string>watchos10</string><key>Version</key><string>10</string></dict></plist>").toList)))

theorem ofDirectory_of_readsAlike_hidden :
    ReadsAlike (brokenWorld [hiddenPlist]) (brokenWorld []) (.ofString "/WatchOS.sdk") ∧
      ofDirectory (brokenWorld [hiddenPlist]) (.ofString "/WatchOS.sdk") .parsed =
        ofDirectory (brokenWorld []) (.ofString "/WatchOS.sdk") .parsed ∧
      (ofDirectory (brokenWorld [hiddenPlist]) (.ofString "/WatchOS.sdk") .parsed).failure? =
        some (.settings "/WatchOS.sdk/SDKSettings.json" .unreadable) ∧
      (brokenWorld [hiddenPlist]).isFile (.ofString "/WatchOS.sdk/SDKSettings.plist") ≠
        (brokenWorld []).isFile (.ofString "/WatchOS.sdk/SDKSettings.plist") := by
  have halike : ReadsAlike (brokenWorld [hiddenPlist]) (brokenWorld [])
      (.ofString "/WatchOS.sdk") := by
    refine ⟨⟨rfl, ⟨?_, fun _ => ?_⟩, fun hjson => absurd hjson ?_⟩, ?_⟩ <;> decide +kernel
  exact ⟨halike, (ofDirectory_of_readsAlike _).1 _ _ halike, by decide +kernel, by decide +kernel⟩

end Sdk

end SdkScout
