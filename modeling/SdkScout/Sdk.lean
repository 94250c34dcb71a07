import SdkScout.Installation
import SdkScout.Sdk.SettingsFile
import SdkScout.SdkPath

/-! SDK directories: known by their name alone, or by name and settings file. -/

namespace SdkScout

/-- How much of an SDK directory is read. -/
inductive SdkKind
  | unparsed
  | parsed
  deriving DecidableEq, Repr

namespace SdkKind

def all : List SdkKind := [unparsed, parsed]

/-- The name by which a profile asks for the kind. -/
def name : SdkKind → String
  | unparsed => "unparsed"
  | parsed => "parsed"

/-- The name of the kind in shown forms. -/
def label : SdkKind → String
  | unparsed => "UnparsedSdk"
  | parsed => "ParsedSdk"

/-- The kind with a name, in any mixture of cases. -/
def ofName (name : String) : Except Failure SdkKind :=
  match all.find? fun kind => kind.name = KnownPlatform.folded name with
  | some kind => .ok kind
  | none => .error (.unknownSdkKind name)

end SdkKind

/-- What is known of an SDK beyond its path: the version in its name, or its settings. -/
inductive SdkDetail
  | unparsed (version : Option Version)
  | parsed (settings : Settings)

structure Sdk where
  path : Path
  isSymlink : Bool
  platform : Platform
  detail : SdkDetail

namespace Sdk

def kind (sdk : Sdk) : SdkKind :=
  match sdk.detail with
  | .unparsed _ => .unparsed
  | .parsed _ => .parsed

def version? (sdk : Sdk) : Option Version :=
  match sdk.detail with
  | .unparsed version => version
  | .parsed settings => some settings.version

/-- The shown form. -/
def shown (sdk : Sdk) : String :=
  sdk.kind.label ++ "(" ++ Text.quote sdk.path.toString ++ ")"

def pathOf (path : Path) : Except Failure SdkPath :=
  match SdkPath.ofPath? path with
  | some sdkPath => .ok sdkPath
  | none => .error (.notSdk path)

/-- The platform that settings name, in any mixture of cases, or else the one in the path. -/
def settledPlatform (fromPath : Platform) (platformName : Value) : Except Failure Platform :=
  if platformName.isFalsy then .ok fromPath
  else
    match platformName with
    | .text name =>
      match KnownPlatform.ofFolded? name with
      | some known => .ok (.ofKnown known)
      | none => .ok fromPath
    | .bytes _ => .ok fromPath
    | _ => .error .platformNameNotText

def ofDirectory (w : World) (path : Path) : SdkKind → Except Failure Sdk
  | .unparsed => do
    let sdkPath ← pathOf path
    return {
      path
      isSymlink := ← w.isSymlink path
      platform := sdkPath.platform
      detail := .unparsed sdkPath.version }
  | .parsed => do
    let sdkPath ← pathOf path
    match ← Settings.ofDirectory w path with
    | none => throw (.notSdk path)
    | some settings =>
      let platform ← settledPlatform sdkPath.platform settings.platformName
      return {
        path
        isSymlink := ← w.isSymlink path
        platform
        detail := .parsed settings }

/-- The SDKs among some paths, in the same order. A path that is no SDK is passed over; any other
failure is the outcome. -/
def among (w : World) (kind : SdkKind) : List Path → Except Failure (List Sdk)
  | [] => .ok []
  | path :: paths =>
    match ofDirectory w path kind with
    | .ok sdk => return sdk :: (← among w kind paths)
    | .error (.notSdk _) => among w kind paths
    | .error failure => .error failure

/-- The SDKs in a directory, in the order of its listing. -/
def inDirectory (w : World) (kind : SdkKind) (directory : Path) : Except Failure (List Sdk) := do
  among w kind (← w.childrenIfPresent directory)

/-- The SDKs of all platforms of a developer directory, platforms by path. -/
def inDeveloperDirectory (w : World) (kind : SdkKind) (developer : Path) :
    Except Failure (List Sdk) := do
  let platforms ← w.platformDirectories developer
  return (← platforms.mapM fun d => inDirectory w kind d.sdksPath).flatten

def inActiveDeveloperDirectory (w : World) (kind : SdkKind) : Except Failure (List Sdk) := do
  inDeveloperDirectory w kind (← w.activeDeveloperDirectory.result)

/-- The SDKs of the Command Line Tools, or nothing if these are not installed. -/
def inCommandLineTools? (w : World) (kind : SdkKind) : Except Failure (Option (List Sdk)) := do
  match ← w.commandLineToolsSdks? with
  | none => return none
  | some directory => return some (← inDirectory w kind directory)

end Sdk

end SdkScout
