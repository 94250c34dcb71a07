import SdkScout.PlatformDirectory
import SdkScout.Text.Blank
import SdkScout.World

/-! Where developer tools are installed: the active developer directory, the default application, all
applications, and the Command Line Tools. -/

namespace SdkScout

/-- A result, and how often the helper command was run to get it. -/
structure Asked (α : Type) where
  result : α
  runs : Nat
  deriving DecidableEq

def developerVariable : String := "DEVELOPER_DIR"

def helperCommand : List String := ["xcode-select", "--print-path"]

def defaultAppName : String := "Xcode.app"

def contents : Path.Component := ⟨"Contents", by decide⟩

/-- The developer directory of an application bundle. -/
def developerPath (app : Path) : Path :=
  (app.child contents).child PlatformDirectory.developer

namespace HelperRun

/-- The path that a run of the helper reports: its output without surrounding white space. -/
def path : HelperRun → Except Failure Path
  | notStarted code => .error (.helperNotStarted code)
  | exited status output =>
    if status ≠ 0 then .error (.helperStatus status)
    else .ok (.ofString (String.ofList (Text.strip (Text.Utf8.decodeLossy output))))

end HelperRun

namespace World

/-- The active developer directory: the value of the variable if it is set, else what the helper
reports. It need not exist. -/
def activeDeveloperDirectoryIn (w : World) (environment : List (String × String)) :
    Asked (Except Failure Path) :=
  match environment.lookup developerVariable with
  | some value => { result := .ok (.ofString value), runs := 0 }
  | none => { result := w.helper.path, runs := 1 }

def activeDeveloperDirectory (w : World) : Asked (Except Failure Path) :=
  w.activeDeveloperDirectoryIn w.environment

/-- A path, if it exists. -/
def existing? (w : World) (path : Path) : Except Failure (Option Path) :=
  return if ← w.pathExists path then some path else none

def appDeveloperDirectory? (w : World) (app : Path) : Except Failure (Option Path) :=
  w.existing? (developerPath app)

def defaultDeveloperDirectory? (w : World) : Except Failure (Option Path) :=
  w.appDeveloperDirectory? w.places.xcodeApp

def toolsSdksDirectory? (w : World) (tools : Path) : Except Failure (Option Path) :=
  w.existing? (tools.child PlatformDirectory.sdks)

def commandLineToolsSdks? (w : World) : Except Failure (Option Path) :=
  w.toolsSdksDirectory? w.places.commandLineTools

/-- Whether a directory entry is named like an application: `Xcode*.app`. -/
def isAppName (name : String) : Bool :=
  "Xcode".toList.isPrefixOf name.toList && ".app".toList.isSuffixOf name.toList

/-- The default application first, all others by path. -/
def appsInOrder (apps : List Path) : List Path :=
  let (first, others) := apps.partition (·.name = defaultAppName)
  Path.sortOn id first ++ Path.sortOn id others

/-- The applications in a directory. They need not be working installations. -/
def apps (w : World) (directory : Path) : Except Failure (List Path) :=
  return appsInOrder ((← w.childrenIfPresent directory).filter fun p => isAppName p.name)

def systemApps (w : World) : Except Failure (List Path) :=
  w.apps w.places.applications

/-- The developer directories that exist among those of some applications, in the same order. -/
def developerDirectories (w : World) (apps : List Path) : Except Failure (List Path) :=
  return (← apps.mapM w.appDeveloperDirectory?).filterMap id

def systemDeveloperDirectories (w : World) : Except Failure (List Path) := do
  w.developerDirectories (← w.systemApps)

/-- The platform directories of a developer directory, by path. -/
def platformDirectories (w : World) (developer : Path) :
    Except Failure (List PlatformDirectory) :=
  return PlatformDirectory.sorted
    ((← w.childrenIfPresent (developer.child Platform.platformsDirectory)).filterMap
      PlatformDirectory.ofPath?)

end World

end SdkScout
