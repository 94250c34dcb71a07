import SdkScout.Search

/-! Search profiles: documents that describe a search and the kind of SDKs it is for. Every key may
be left out, and no other keys may be there. The reader of the documents is a parameter. -/

namespace SdkScout

structure Profile where
  search : Search
  kind : SdkKind
  source : String

namespace Profile

/-- The switches, in the order in which they are checked. -/
def flagKeys : List (String × (Bool → Search.Setting)) :=
  [("developer_dir", .developerDirectory), ("command_line_tools", .commandLineTools),
    ("default_system_xcode", .defaultXcode), ("system_xcodes", .systemXcodes)]

def directoryKeys : List (String × (Path → Search.Setting)) :=
  [("additional_developer_dirs", .addDeveloperDirectory), ("additional_sdks_dirs", .addSdksDirectory)]

def platformKey : String := "platform"

def versionKeys : List (String × (Version → Search.Setting)) :=
  [("minimum_version", .minimum), ("maximum_version", .maximum)]

def kindKey : String := "sdk"

def knownKeys : List String :=
  kindKey :: platformKey :: flagKeys.map (·.1) ++ directoryKeys.map (·.1) ++ versionKeys.map (·.1)

def isKnown (key : Value) : Bool :=
  knownKeys.any (key.isKey ·)

/-- Unknown keys are listed in their order, so there may be only one if they have none. -/
def checkKeys (source : String) (entries : List (Value × Value)) : Except Failure Unit :=
  match Value.sortKeys? ((entries.map (·.1)).filter (!isKnown ·)) with
  | none => .error .unorderedKeys
  | some [] => .ok ()
  | some unknown => do throw (.profile source (.unknownKeys (← unknown.mapM Value.written)))

def flagSetting (source : String) (entries : List (Value × Value))
    (key : String × (Bool → Search.Setting)) : Except Failure (List Search.Setting) :=
  match Value.field? entries key.1 with
  | none => .ok []
  | some (.bool on) => .ok [key.2 on]
  | some _ => .error (.profile source (.notBoolean key.1))

def directory (w : World) (source key : String) : Value → Except Failure Path
  | .text path => w.expandHome (.ofString path)
  | _ => .error (.profile source (.entryNotText key))

def directorySettings (w : World) (source : String) (entries : List (Value × Value))
    (key : String × (Path → Search.Setting)) : Except Failure (List Search.Setting) := do
  let value := Value.field entries key.1
  match value with
  | .list items => return (← items.mapM (directory w source key.1)).map key.2
  | _ => if value.isFalsy then return [] else throw (.profile source (.notPathList key.1))

def platformSetting (source : String) (entries : List (Value × Value)) :
    Except Failure (List Search.Setting) :=
  match Value.field entries platformKey with
  | .null => .ok []
  | .text name => .ok [.platform ⟨name⟩]
  | _ => .error (.profile source .platformNotText)

/-- An integer stands for its decimal text. A number with a fraction may have lost digits. -/
def versionSetting (source : String) (entries : List (Value × Value))
    (key : String × (Version → Search.Setting)) : Except Failure (List Search.Setting) := do
  match Value.field entries key.1 with
  | .null => return []
  | .text text => return [key.2 ⟨text⟩]
  | .int n => return [key.2 ⟨← Value.written (.int n)⟩]
  | .float _ => throw (.profile source (.unquotedVersion key.1))
  | _ => throw (.profile source (.notVersion key.1))

/-- The settings that the entries stand for. -/
def settings (w : World) (source : String) (entries : List (Value × Value)) :
    Except Failure (List Search.Setting) := do
  let flags ← flagKeys.mapM (flagSetting source entries)
  let directories ← directoryKeys.mapM (directorySettings w source entries)
  let platform ← platformSetting source entries
  let versions ← versionKeys.mapM (versionSetting source entries)
  return flags.flatten ++ directories.flatten ++ platform ++ versions.flatten

def kindOf (source : String) (entries : List (Value × Value)) : Except Failure SdkKind :=
  match Value.field? entries kindKey with
  | none => .ok .unparsed
  | some (.text name) => SdkKind.ofName name
  | some _ => .error (.profile source .sdkNotText)

def ofEntries (w : World) (source : String) (entries : List (Value × Value)) :
    Except Failure Profile := do
  checkKeys source entries
  let settings ← settings w source entries
  let kind ← kindOf source entries
  return { search := ({} : Search).applyAll settings, kind, source }

/-- The profile in a decoded document. Nothing at all is an empty profile. -/
def ofValue (w : World) (source : String) : Value → Except Failure Profile
  | .null => ofEntries w source []
  | .mapping entries => ofEntries w source entries
  | _ => .error (.profile source .notMapping)

/-- Line ends of all kinds as line feeds. -/
def normalizeLines : List Char → List Char
  | '\r' :: '\n' :: cs | '\r' :: cs => '\n' :: normalizeLines cs
  | c :: cs => c :: normalizeLines cs
  | [] => []

/-- Reads the profile in a file with a reader of documents. Its source is the path as it is written. -/
def load (readYaml : List Char → Except Yaml.Fault Value) (w : World) (path : String) :
    Except Failure Profile := do
  let some text := Text.Utf8.decode? (← w.read path) | throw .profileNotUtf8
  match readYaml (normalizeLines text) with
  | .ok value => ofValue w path value
  | .error fault => throw (.yaml fault)

/-- The SDKs that the search of a profile finds. -/
def run (p : Profile) (w : World) : Asked (Except Failure (List Sdk)) :=
  p.search.run w p.kind

end Profile

end SdkScout
