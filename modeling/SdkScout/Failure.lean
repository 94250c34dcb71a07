import SdkScout.Path
import SdkScout.Plist.Fault
import SdkScout.SystemError
import SdkScout.Value
import SdkScout.Version
import SdkScout.Yaml.Fault

/-! Everything that can go wrong, by cause, and the wording of those causes that have one. -/

namespace SdkScout

/-- Why a settings document describes no SDK. -/
inductive SettingsFault
  | unreadable
  | notMapping
  | keyMissing (key : String)
  | keyNotText (key : String)
  | sectionNotMapping (key : String)
  | targetNotMapping (name : String)
  deriving DecidableEq, Repr

/-- Why a search profile is refused. -/
inductive ProfileFault
  | notMapping
  | unknownKeys (keys : List String)
  | notBoolean (key : String)
  | notPathList (key : String)
  | entryNotText (key : String)
  | platformNotText
  | unquotedVersion (key : String)
  | notVersion (key : String)
  | sdkNotText
  deriving DecidableEq, Repr

inductive Failure
  /-- A version that has to be well formed is malformed. -/
  | malformedVersion (text : String)
  /-- A version component has too many digits to be read. -/
  | oversizedVersion
  /-- Two things are to be ordered that have no order. -/
  | unordered
  | notPlatform (shown : String)
  | notSdk (path : Path)
  /-- The helper command could not be started. -/
  | helperNotStarted (code : Nat)
  /-- The helper command ended with a status other than zero. -/
  | helperStatus (status : Int)
  | settings (source : String) (fault : SettingsFault)
  /-- An integer has too many digits to be read or to be written out. -/
  | oversizedInteger
  /-- The collections of a settings document lie deeper within each other than its reader can go. -/
  | nestedTooDeep
  | plist (fault : Plist.Fault)
  /-- The architectures of a target are something that has no elements. -/
  | archsNotIterable
  /-- A platform name is something that has no lower-case form. -/
  | platformNameNotText
  | profile (source : String) (fault : ProfileFault)
  | unknownSdkKind (name : String)
  /-- The unknown keys of a profile have no order to list them in. -/
  | unorderedKeys
  /-- A home directory is asked for that nobody has. -/
  | unknownHome
  | profileNotUtf8
  | yaml (fault : Yaml.Fault)
  | system (error : SystemError)
  /-- A path or a user name with a NUL character cannot be handed to the system. -/
  | nulInPath
  deriving DecidableEq

def SettingsFault.message : SettingsFault → String
  | unreadable => "<parse error>"
  | notMapping => "expected a dictionary"
  | keyMissing key => "key missing: " ++ key
  | keyNotText key => "key not a string: " ++ key
  | sectionNotMapping key => key ++ " is not a dictionary"
  | targetNotMapping name => "SupportedTargets." ++ name ++ " is not a dictionary"

def ProfileFault.message (source : String) : ProfileFault → String
  | notMapping => "Invalid search profile (expected mapping): " ++ source
  | unknownKeys keys => source ++ ": unknown key(s): " ++ ", ".intercalate keys
  | notBoolean key => source ++ ": " ++ key ++ " must be true or false"
  | notPathList key => source ++ ": " ++ key ++ " must be a list of paths"
  | entryNotText key => source ++ ": " ++ key ++ " entries must be strings"
  | platformNotText => source ++ ": platform must be a string"
  | unquotedVersion key => source ++ ": " ++ key ++ " must be a quoted version string"
  | notVersion key => source ++ ": " ++ key ++ " must be a version string"
  | sdkNotText => source ++ ": sdk must be a string"

namespace Failure

/-- The wording, for those failures that have one of their own. -/
def message? : Failure → Option String
  | malformedVersion text => some ("malformed version string: " ++ text)
  | notPlatform shown => some ("path is not an Apple Platform: " ++ shown)
  | notSdk path => some ("path is not an Apple SDK: " ++ path.toString)
  | helperNotStarted code =>
    some ("Error running xcode-select: " ++ (SystemError.mk code "xcode-select").message)
  | helperStatus status =>
    some ("Error running xcode-select: exit status " ++ toString status)
  | settings source fault => some (source ++ ": " ++ fault.message)
  | profile source fault => some (fault.message source)
  | unknownSdkKind name =>
    some ("Unknown SDK type: " ++ Text.quote name ++ ". Supported: parsed, unparsed")
  | system error => some error.message
  | oversizedVersion | unordered | oversizedInteger | nestedTooDeep | plist _ | archsNotIterable
  | platformNameNotText | unorderedKeys | unknownHome | profileNotUtf8 | yaml _ | nulInPath => none

/-- The failure of a version that was asked for its reading. -/
def ofVersion (v : Version) : Version.Fault → Failure
  | .malformed => .malformedVersion v.text
  | .oversized => .oversizedVersion

end Failure

/-- The text of a value where it is written into a message or a version. -/
def Value.written (v : Value) : Except Failure String :=
  match v.display? with
  | some s => .ok s
  | none => .error .oversizedInteger

end SdkScout
