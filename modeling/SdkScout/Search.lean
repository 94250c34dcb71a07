import SdkScout.Label
import SdkScout.Sdk

/-! Searches for SDKs: which roots to look in, in which order, and which SDKs to keep. -/

namespace SdkScout

/-- Where SDKs are looked for: in the platforms of a developer directory, or in a directory that
holds SDKs itself. -/
inductive RootKind
  | developer
  | sdks
  deriving DecidableEq, Repr

structure SearchRoot where
  kind : RootKind
  path : Path
  deriving DecidableEq

namespace SearchRoot

/-- The directories of SDKs that a root stands for, those of one platform only if it is given. -/
def sdksDirectories (w : World) (platform : Option Platform) (root : SearchRoot) :
    Except Failure (List Path) :=
  match root.kind with
  | .sdks => .ok [root.path]
  | .developer => do
    let directories ← w.platformDirectories root.path
    return (directories.filter fun d => platform.all (d.platform = ·)).map (·.sdksPath)

end SearchRoot

structure Search where
  developerDirectory : Bool := true
  commandLineTools : Bool := false
  defaultXcode : Bool := false
  systemXcodes : Bool := false
  developerDirectories : List Path := []
  sdksDirectories : List Path := []
  platform : Option Platform := none
  minimum : Option Version := none
  maximum : Option Version := none
  deriving DecidableEq

namespace Search

/-- One step of configuration. -/
inductive Setting
  | developerDirectory (on : Bool)
  | commandLineTools (on : Bool)
  | defaultXcode (on : Bool)
  | systemXcodes (on : Bool)
  | addDeveloperDirectory (path : Path)
  | addSdksDirectory (path : Path)
  | platform (platform : Platform)
  | minimum (version : Version)
  | maximum (version : Version)
  deriving DecidableEq

/-- Flags, platform and bounds are replaced; directories are added after those that are there. -/
def apply (s : Search) : Setting → Search
  | .developerDirectory on => { s with developerDirectory := on }
  | .commandLineTools on => { s with commandLineTools := on }
  | .defaultXcode on => { s with defaultXcode := on }
  | .systemXcodes on => { s with systemXcodes := on }
  | .addDeveloperDirectory path => { s with developerDirectories := s.developerDirectories ++ [path] }
  | .addSdksDirectory path => { s with sdksDirectories := s.sdksDirectories ++ [path] }
  | .platform platform => { s with platform := some platform }
  | .minimum version => { s with minimum := some version }
  | .maximum version => { s with maximum := some version }

def applyAll (s : Search) (settings : List Setting) : Search :=
  settings.foldl apply s

/-- What may be given for a directory. -/
inductive DirectoryArgument
  | path (p : Path)
  | plain (v : Value)

/-- A call of a method. Anything may be given for a platform or a version. -/
inductive Call
  | developerDirectory (on : Bool)
  | commandLineTools (on : Bool)
  | defaultXcode (on : Bool)
  | systemXcodes (on : Bool)
  | addDeveloperDirectory (directory : DirectoryArgument)
  | addSdksDirectory (directory : DirectoryArgument)
  | platform (l : Label)
  | minimum (l : Label)
  | maximum (l : Label)

/-- A directory is given as a path or as a text. -/
def DirectoryArgument.path? : DirectoryArgument → Option Path
  | .path p => some p
  | .plain (.text s) => some (.ofString s)
  | .plain _ => none

/-- A platform is given as itself or by its name, for which anything counts that can be looked up. -/
def platformOf? (l : Label) : Option Platform :=
  match l with
  | .plain v => if v.isScalar then some ⟨l.text⟩ else none
  | _ => some (l.platform?.getD ⟨l.text⟩)

/-- A version is made of anything that can be written out. -/
def versionOf? (l : Label) : Option Version :=
  l.written.toOption.map Version.mk

/-- The setting that a call makes, unless it fails. -/
def Call.setting? : Call → Option Setting
  | .developerDirectory on => some (.developerDirectory on)
  | .commandLineTools on => some (.commandLineTools on)
  | .defaultXcode on => some (.defaultXcode on)
  | .systemXcodes on => some (.systemXcodes on)
  | .addDeveloperDirectory directory => directory.path?.map .addDeveloperDirectory
  | .addSdksDirectory directory => directory.path?.map .addSdksDirectory
  | .platform l => (platformOf? l).map .platform
  | .minimum l => (versionOf? l).map .minimum
  | .maximum l => (versionOf? l).map .maximum

/-- The search that a call on another one gives, unless it fails. -/
def call? (s : Search) (c : Call) : Option Search :=
  c.setting?.map s.apply

/-- The search that a chain of calls comes to, unless one of them fails. -/
def configure (s : Search) (cs : List Call) : Option Search :=
  cs.foldlM call? s

/-- The elements of a list, each at its first occurrence. -/
def firstOccurrences [DecidableEq α] : List α → List α → List α
  | _, [] => []
  | seen, x :: xs =>
    if x ∈ seen then firstOccurrences seen xs else x :: firstOccurrences (x :: seen) xs

/-- What is looked for only if asked. -/
def optional (on : Bool) (find : Except Failure (List Path)) : Except Failure (List Path) :=
  if on then find else .ok []

/-- The active developer directory, if it is searched and can be found out. -/
def activeRoots (s : Search) (w : World) : Asked (List Path) :=
  if s.developerDirectory then
    let active := w.activeDeveloperDirectory
    ⟨active.result.toOption.toList, active.runs⟩
  else ⟨[], 0⟩

/-- The developer directories of all applications; none if the system refuses to look for them. -/
def scannedRoots (w : World) : Except Failure (List Path) :=
  match w.systemDeveloperDirectories with
  | .error (.system _) => .ok []
  | result => result

/-- The roots of a search in their order of precedence, without repetitions. -/
def roots (s : Search) (w : World) : Asked (Except Failure (List SearchRoot)) :=
  let active := s.activeRoots w
  let found : Except Failure (List SearchRoot) := do
    let tools ← optional s.commandLineTools (return (← w.commandLineToolsSdks?).toList)
    let standard ← optional s.defaultXcode (return (← w.defaultDeveloperDirectory?).toList)
    let system ← optional s.systemXcodes (scannedRoots w)
    return firstOccurrences []
      (active.result.map (⟨.developer, ·⟩) ++ tools.map (⟨.sdks, ·⟩) ++
        standard.map (⟨.developer, ·⟩) ++ system.map (⟨.developer, ·⟩) ++
        s.developerDirectories.map (⟨.developer, ·⟩) ++ s.sdksDirectories.map (⟨.sdks, ·⟩))
  ⟨found, active.runs⟩

/-- Whether a version lies on the wanted side of a bound. -/
def satisfies (allowed : Ordering → Bool) (version : Option Version) (bound : Option Version) :
    Except Failure Bool :=
  match bound, version with
  | none, _ => .ok true
  | some _, none => .ok false
  | some bound, some version =>
    match version.order bound with
    | .ok order => .ok (allowed order)
    | .error fault => .error (.ofVersion version fault)

/-- Whether an SDK satisfies the version bounds. An SDK without a version satisfies none. -/
def accepts (s : Search) (sdk : Sdk) : Except Failure Bool := do
  if ← satisfies (·.isGE) sdk.version? s.minimum then
    satisfies (·.isLE) sdk.version? s.maximum
  else return false

/-- The SDKs that the bounds let through. -/
def keep (s : Search) : List Sdk → Except Failure (List Sdk)
  | [] => .ok []
  | sdk :: sdks => do
    if ← s.accepts sdk then return sdk :: (← s.keep sdks) else s.keep sdks

/-- Searches directories of SDKs that were not searched before: the SDKs found, and all directories
that have been searched. -/
def inDirectories (s : Search) (w : World) (kind : SdkKind) (searched : List Path) :
    List Path → Except Failure (List Sdk × List Path)
  | [] => .ok ([], searched)
  | directory :: directories =>
    if directory ∈ searched then s.inDirectories w kind searched directories
    else do
      let kept ← s.keep (← Sdk.inDirectory w kind directory)
      let (sdks, searched) ← s.inDirectories w kind (directory :: searched) directories
      return (kept ++ sdks, searched)

/-- Searches one root after the other. A root is expanded when those before it have been searched. -/
def inRoots (s : Search) (w : World) (kind : SdkKind) (searched : List Path) :
    List SearchRoot → Except Failure (List Sdk)
  | [] => .ok []
  | root :: roots => do
    let directories ← root.sdksDirectories w s.platform
    let (sdks, searched) ← s.inDirectories w kind searched directories
    return sdks ++ (← s.inRoots w kind searched roots)

/-- A bound has to be well formed. -/
def checkBound : Option Version → Except Failure Unit
  | none => .ok ()
  | some version =>
    match version.normalized with
    | .ok _ => .ok ()
    | .error fault => .error (.ofVersion version fault)

def checkBounds (s : Search) : Except Failure Unit := do
  checkBound s.minimum
  checkBound s.maximum

/-- The SDKs that a search finds, in the order of the roots and then of the listings. The bounds are
checked before anything is looked at. -/
def run (s : Search) (w : World) (kind : SdkKind) : Asked (Except Failure (List Sdk)) :=
  match s.checkBounds with
  | .error failure => ⟨.error failure, 0⟩
  | .ok () =>
    let roots := s.roots w
    ⟨do s.inRoots w kind [] (← roots.result), roots.runs⟩

end Search

end SdkScout
