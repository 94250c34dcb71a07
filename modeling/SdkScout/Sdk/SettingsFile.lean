import SdkScout.Json
import SdkScout.Plist
import SdkScout.Sdk.Settings
import SdkScout.World

/-! The settings file of an SDK directory: a JSON document, or a property list where there is no JSON
document. A JSON document hides the property list even if it cannot be read. -/

namespace SdkScout.Settings

def jsonName : Path.Component := ⟨"SDKSettings.json", by decide⟩

def plistName : Path.Component := ⟨"SDKSettings.plist", by decide⟩

def readJson (host : Host) (source : String) (bytes : List UInt8) : Except Failure Settings :=
  match Text.Utf8.decode? bytes with
  | none => .error (.settings source .unreadable)
  | some cs =>
    match Json.read host.jsonDepth cs with
    | .ok value => ofValue source value
    | .error .malformed => .error (.settings source .unreadable)
    | .error .oversizedInteger => .error .oversizedInteger
    | .error .nestedTooDeep => .error .nestedTooDeep

def readPlist (host : Host) (source : String) (bytes : List UInt8) : Except Failure Settings :=
  match Plist.read host bytes with
  | .ok value => ofValue source value
  | .error .malformed => .error (.settings source .unreadable)
  | .error fault => .error (.plist fault)

/-- The settings of a directory, or nothing if it has no settings file. -/
def ofDirectory (w : World) (directory : Path) : Except Failure (Option Settings) := do
  let json := directory.child jsonName
  let plist := directory.child plistName
  if ← w.isFile json then
    return some (← readJson w.host json.toString (← w.read json.toString))
  else if ← w.isFile plist then
    return some (← readPlist w.host plist.toString (← w.read plist.toString))
  else return none

end SdkScout.Settings
